import Svitock.Observation
import Svitock.SequentialRefinement

/-!
# What goes over a connection

From the socket to the log of frames and from the payloads handed over back to the
socket: on each connection every frame that was read is dispatched once, in the order of
reading, and what was written are the first of the payloads handed to the session, each
once and in order. What is not written yet is in the queue or waits on the strand.
-/

namespace Svitock

open ActorRuntime Transition

namespace Server

variable {cfg : Config} {w w' : Server} {l : Label} {ls : List Label} {i j : ℕ}
  {s s' : WebSocketSession}

/-- The frames read on connection `i`. -/
def reads (i : ℕ) : Label → Option ByteArray
  | .readFrame j raw => if j = i then some raw else none
  | _ => none

/-- Something that each session has, nothing where there is no session yet. -/
def ofSession {β : Type*} (f : WebSocketSession → List β) (w : Server) (i : ℕ) : List β :=
  (w.sessions[i]?).elim [] f

def writes (i : ℕ) (w : Server) : Label → List String
  | .writeDone j true => if j = i then w.ofSession (·.writeQueue.head?.toList) i else []
  | _ => []

/-- The texts written on connection `i` in a run. -/
def written (cfg : Config) (i : ℕ) (w : Server) (ls : List Label) : List String :=
  observe (step cfg) (writes i) w ls

def framesOf (w : Server) (i : ℕ) : List ByteArray :=
  (w.frames.filter (·.session = i)).map Frame.raw

/-- The texts handed to session `i`. -/
def textsTo (lib : Libraries) (w : Server) (i : ℕ) : List String :=
  (w.handedTo i).map fun x => lib.dump x.2

section OfSession

variable {β : Type*} {f : WebSocketSession → List β}

theorem ofSession_of_some (hs : w.sessions[i]? = some s) : w.ofSession f i = f s := by
  simp [ofSession, hs]

theorem ofSession_set (hs : w.sessions[j]? = some s) (hw : w'.sessions = w.sessions.set j s') :
    w'.ofSession f i = if i = j then f s' else w.ofSession f i := by
  by_cases hij : i = j
  · subst hij
    rw [if_pos rfl, ofSession, hw, getElem?_set_of_some hs hs, if_pos rfl]
    rfl
  · rw [if_neg hij, ofSession, hw, List.getElem?_set_ne (Ne.symm hij), ofSession]

theorem ofSession_congr (hs : w.sessions[j]? = some s) (hw : w'.sessions = w.sessions.set j s')
    (hf : f s' = f s) : w'.ofSession f i = w.ofSession f i := by
  rw [ofSession_set hs hw]
  split
  · next hij =>
    subst hij
    rw [hf, ofSession_of_some hs]
  · rfl

theorem ofSession_accept (hf : ∀ id, f (.run id) = []) :
    w.listenerOnAccept.ofSession f i = w.ofSession f i := by
  unfold ofSession listenerOnAccept
  dsimp only
  rcases Nat.lt_trichotomy i w.sessions.length with hlt | rfl | hlt
  · rw [List.getElem?_append_left hlt]
  · simp [hf]
  · rw [List.getElem?_eq_none (by simp; omega), List.getElem?_eq_none (by omega)]

end OfSession

def pending (s : WebSocketSession) : List String := s.writeQueue ++ s.posted

theorem pending_runPosted {payload : String} {rest : List String}
    (hp : s.posted = payload :: rest) : pending (s.runPosted payload rest) = pending s := by
  unfold pending WebSocketSession.runPosted
  dsimp only
  split <;> simp [hp, WebSocketSession.doWrite]

theorem pending_onWrite (s : WebSocketSession) :
    s.writeQueue.head?.toList ++ pending s.onWrite = pending s := by
  have htail : s.writeQueue.head?.toList ++ s.writeQueue.tail = s.writeQueue := by
    cases s.writeQueue <;> rfl
  unfold pending WebSocketSession.onWrite
  dsimp only
  split <;> simp [WebSocketSession.doWrite, ← List.append_assoc, htail]

/-- A step moves texts along: what it hands over comes behind what is to be written, and
what it completes was at the front. -/
def Moves (lib : Libraries) (i : ℕ) (w : Server) (done : List String) (w' : Server) : Prop :=
  ∃ new, w'.textsTo lib i = w.textsTo lib i ++ new ∧
    done ++ w'.ofSession pending i = w.ofSession pending i ++ new

theorem Moves.same {lib : Libraries} (hh : w'.handed = w.handed)
    (hp : w'.ofSession pending i = w.ofSession pending i) : Moves lib i w [] w' :=
  ⟨[], by simp [textsTo, handedTo, hh], by simp [hp]⟩

theorem moves_deliver (lib : Libraries) (o : ℕ) (sid : String) (p : Json) :
    Moves lib i w [] (w.deliver lib o sid p) := by
  rcases deliver_cases lib w o sid p with ⟨j, s, -, hs, -, h⟩ | ⟨-, h⟩
  · rw [h]
    by_cases hij : j = i
    · subst hij
      refine ⟨[lib.dump p], by simp [textsTo, handedTo, List.filterMap_append], ?_⟩
      rw [ofSession_set hs rfl, if_pos rfl, ofSession_of_some hs]
      simp [pending, WebSocketSession.send]
    · refine ⟨[], by simp [textsTo, handedTo, List.filterMap_append, hij], ?_⟩
      rw [ofSession_set hs rfl, if_neg (Ne.symm hij)]
      simp
  · rw [h]
    exact .same rfl rfl

theorem moves_perform (lib : Libraries) (id : Uuid) (now : ℤ)
    (out : Outcome ActorType Envelope (Traced Effect) HandlerError) :
    Moves lib i w [] (w.perform lib id now out) := by
  unfold perform
  split
  · exact moves_deliver lib _ _ _
  · exact .same rfl rfl
  · exact .same rfl rfl
  · exact .same rfl rfl

theorem Step.moves (h : Step cfg w l w') (i : ℕ) : Moves cfg.lib i w (writes i w l) w' := by
  cases h with
  | accept hn => exact .same rfl (ofSession_accept fun _ => rfl)
  | acceptError => exact .same rfl rfl
  | handshake hs _ ok =>
    cases ok
    · exact .same rfl (ofSession_congr hs.2.1 rfl rfl)
    · exact .same rfl (ofSession_congr hs.2.1 rfl rfl)
  | readFrame hs _ raw => exact .same rfl (ofSession_congr hs.2.1 rfl rfl)
  | readError hs _ => exact .same rfl (ofSession_congr hs.2.1 rfl rfl)
  | dispatch hs _ =>
    refine .same (onRead_handed _ _ _) ?_
    unfold onRead
    dsimp only
    split
    · rfl
    · exact ofSession_congr hs rfl rfl
    · exact ofSession_congr hs rfl rfl
  | posted hs hp => exact .same rfl (ofSession_congr hs.2.1 rfl (pending_runPosted hp))
  | @writeDone j s hs _ ok =>
    cases ok with
    | false => exact .same rfl (ofSession_congr hs.2.1 rfl rfl)
    | true =>
      refine ⟨[], by simp [textsTo, handedTo, onWrite, setSession], ?_⟩
      rw [ofSession_set hs.2.1 rfl, List.append_nil]
      by_cases hij : i = j
      · subst hij
        rw [if_pos rfl, ofSession_of_some hs.2.1, writes, if_pos rfl, ofSession_of_some hs.2.1]
        exact pending_onWrite s
      · rw [if_neg hij, writes, if_neg (Ne.symm hij)]
        rfl
  | @worker k out a _ id now => exact moves_perform (w := { w with actorSystem := a }) _ id now out
  | stopNetwork _ => exact .same rfl rfl
  | stopActors => exact .same rfl rfl
  | stopReturn _ _ => exact .same rfl rfl

theorem written_of_runs (h : Runs cfg (run cfg) ls w) (i : ℕ) :
    written cfg i (run cfg) ls ++ w.ofSession pending i = w.textsTo cfg.lib i := by
  refine h.observed (I := fun seen w => seen ++ w.ofSession pending i = w.textsTo cfg.lib i) rfl ?_
  intro seen t l u hi _ hs
  obtain ⟨new, htexts, hmove⟩ := (step_cases hs).2.moves i
  rw [List.append_assoc, hmove, htexts, ← List.append_assoc, hi]

def handling (s : WebSocketSession) : List ByteArray := s.executing.toList

theorem handling_perform (lib : Libraries) (id : Uuid) (now : ℤ)
    (out : Outcome ActorType Envelope (Traced Effect) HandlerError) :
    (w.perform lib id now out).frames = w.frames ∧
      (w.perform lib id now out).ofSession handling i = w.ofSession handling i := by
  unfold perform
  split
  · next o sid p =>
    rcases deliver_cases lib w o sid p with ⟨j, s, -, hs, -, h⟩ | ⟨-, h⟩
    · rw [h]
      exact ⟨rfl, ofSession_congr hs rfl rfl⟩
    · rw [h]
      exact ⟨rfl, rfl⟩
  · exact ⟨rfl, rfl⟩
  · exact ⟨rfl, rfl⟩
  · exact ⟨rfl, rfl⟩

theorem onRead_sessions {s : WebSocketSession} {raw : ByteArray}
    (hx : (w.onRead cfg i s raw).exception = none) :
    (w.onRead cfg i s raw).sessions =
      w.sessions.set i { s with executing := none, reading := true } := by
  revert hx
  unfold onRead
  dsimp only
  split
  · intro hx
    cases hx
  · exact fun _ => rfl
  · exact fun _ => rfl

/-- Unless it throws, a step leaves what was read dispatched or being handled. -/
theorem Step.handles (h : Step cfg w l w') (hx : w'.exception = none) (i : ℕ) :
    w'.framesOf i ++ w'.ofSession handling i =
      (w.framesOf i ++ w.ofSession handling i) ++ (reads i l).toList := by
  have hsame (hf : w'.frames = w.frames) (hr : reads i l = none)
      (hh : w'.ofSession handling i = w.ofSession handling i) :
      w'.framesOf i ++ w'.ofSession handling i =
        (w.framesOf i ++ w.ofSession handling i) ++ (reads i l).toList := by
    rw [framesOf, hf, hh, hr, framesOf]
    simp
  cases h with
  | accept hn => exact hsame rfl rfl (ofSession_accept fun _ => rfl)
  | acceptError => exact hsame rfl rfl rfl
  | handshake hs _ ok =>
    cases ok
    · exact hsame rfl rfl (ofSession_congr hs.2.1 rfl rfl)
    · exact hsame rfl rfl (ofSession_congr hs.2.1 rfl rfl)
  | @readFrame j s hs _ raw =>
    have hidle : handling s = [] := by simp [handling, hs.2.2]
    rw [ofSession_set hs.2.1 rfl]
    by_cases hij : i = j
    · subst hij
      rw [if_pos rfl, ofSession_of_some hs.2.1, hidle]
      simp [reads, framesOf, setSession, handling]
    · rw [if_neg hij]
      simp [reads, framesOf, setSession, Ne.symm hij]
  | readError hs _ => exact hsame rfl rfl (ofSession_congr hs.2.1 rfl rfl)
  | @dispatch j s raw hs hexec =>
    have hhandling : handling s = [raw] := by simp [handling, hexec]
    rw [ofSession_set hs (onRead_sessions hx), framesOf, onRead_frames]
    by_cases hij : i = j
    · subst hij
      rw [if_pos rfl, ofSession_of_some hs, hhandling]
      simp [reads, framesOf, handling]
    · rw [if_neg hij]
      simp [reads, framesOf, Ne.symm hij]
  | posted hs _ =>
    refine hsame rfl rfl (ofSession_congr hs.2.1 rfl ?_)
    rw [handling, (WebSocketSession.sameReader_runPosted _ _ _).executing, handling]
  | writeDone hs _ ok =>
    cases ok
    · exact hsame rfl rfl (ofSession_congr hs.2.1 rfl rfl)
    · refine hsame rfl rfl (ofSession_congr hs.2.1 rfl ?_)
      rw [handling, (WebSocketSession.sameReader_onWrite _).executing, handling]
  | @worker k out a _ id now =>
    obtain ⟨hf, hh⟩ :=
      handling_perform (w := { w with actorSystem := a }) (i := i) cfg.lib id now out
    exact hsame hf rfl hh
  | stopNetwork _ => exact hsame rfl rfl rfl
  | stopActors => exact hsame rfl rfl rfl
  | stopReturn _ _ => exact hsame rfl rfl rfl

theorem handled_of_runs (h : Runs cfg (run cfg) ls w) (hx : w.exception = none) (i : ℕ) :
    w.framesOf i ++ w.ofSession handling i = ls.filterMap (reads i) := by
  refine h.history (I := fun ls w => w.exception = none →
    w.framesOf i ++ w.ofSession handling i = ls.filterMap (reads i)) (fun _ => rfl) ?_ hx
  intro ls t l u hi _ hs hu
  obtain ⟨ht, hst⟩ := step_cases hs
  rw [hst.handles hu i, hi ht, List.filterMap_append]
  cases hr : reads i l <;> simp [hr]

/-- On every connection, whatever the others and the workers do, the frames read are those
dispatched and the one being handled, in the order of reading, and the texts written are
the first of those handed over, in the order of handing over, the rest of which is still in
the queue or on the strand. -/
theorem transport_exact (h : Runs cfg (run cfg) ls w) (hs : w.sessions[i]? = some s) :
    (w.exception = none →
      w.framesOf i ++ s.executing.toList = ls.filterMap (reads i)) ∧
    written cfg i (run cfg) ls ++ (s.writeQueue ++ s.posted) = w.textsTo cfg.lib i := by
  refine ⟨fun hx => ?_, ?_⟩
  · rw [← handled_of_runs h hx i, ofSession_of_some hs, handling]
  · rw [← written_of_runs h i, ofSession_of_some hs, pending]

def conversation : List Label :=
  Sample.connect 0 ++ Sample.connect 1 ++ Sample.frame 0 Sample.whisper ++
    Sample.frame 0 Sample.whisper ++ Sample.work 0 44 ++ [.posted 1, .posted 1, .writeDone 1 true,
      .readFrame 1 Sample.whisper.1]

theorem transport_exact_conversation :
    ∃ w s, Runs (Sample.config [Sample.whisper] 4 1) (run (Sample.config [Sample.whisper] 4 1))
        conversation w ∧
      w.sessions[1]? = some s ∧ s.writeQueue.length = 1 ∧
      (written (Sample.config [Sample.whisper] 4 1) 1 (run (Sample.config [Sample.whisper] 4 1))
        conversation).length = 1 ∧
      w.framesOf 1 ++ s.executing.toList = conversation.filterMap (reads 1) ∧
      written (Sample.config [Sample.whisper] 4 1) 1 (run (Sample.config [Sample.whisper] 4 1))
        conversation ++ (s.writeQueue ++ s.posted) =
          w.textsTo (Sample.config [Sample.whisper] 4 1).lib 1 := by
  obtain ⟨w, hrun, hx, hqueue, hwritten⟩ : ∃ w,
      Runs (Sample.config [Sample.whisper] 4 1) (run (Sample.config [Sample.whisper] 4 1))
        conversation w ∧
      w.exception = none ∧ (w.sessions[1]?).any (·.writeQueue.length == 1) = true ∧
      (written (Sample.config [Sample.whisper] 4 1) 1 (run (Sample.config [Sample.whisper] 4 1))
        conversation).length = 1 := exists_run _ (by decide +kernel)
  obtain ⟨s, hs, hone⟩ := (Option.any_eq_true _ _).mp hqueue
  obtain ⟨hread, hwrite⟩ := transport_exact hrun hs
  exact ⟨w, s, hrun, hs, by simpa using hone, hwritten, hread hx, hwrite⟩

end Server

end Svitock
