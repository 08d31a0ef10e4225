import Svitock.SessionRegistry

/-!
# The write queue of a session

The writing side of `infrastructure/network/websocket/websocket_session.cpp` and of
`infrastructure/websocket/websocket_session.cpp`, which share it word for word but
for the name of `send`, there `sendText`. What else a write error does, to unbind
the transport in the one and to close the session in the other, does not touch it.

The queue doubles as the flag that a write is in progress. Here the outstanding
writes are a list, so that two at once are not ruled out by the model.
-/

namespace Svitock

open ActorRuntime Transition

/-- A payload with its number in the order of the calls of `send`. -/
structure Buffer where
  number : ℕ
  payload : String
  deriving DecidableEq

/-- `posted` are the sends that wait on the strand and `outstanding` the buffers of
the writes that have not completed. The rest is history: all payloads sent, those
whose posted part has run, those written, the number of writes started and whether
one has failed. -/
structure WriteSide where
  posted : List Buffer
  writeQueue : List Buffer
  outstanding : List Buffer
  sent : List Buffer
  queued : List Buffer
  written : List Buffer
  started : ℕ
  failed : Bool

namespace WriteSide

def start : WriteSide := ⟨[], [], [], [], [], [], 0, false⟩

def send (q : WriteSide) (payload : String) : WriteSide :=
  { q with
    posted := q.posted ++ [⟨q.sent.length, payload⟩]
    sent := q.sent ++ [⟨q.sent.length, payload⟩] }

/-- `doWrite` starts a write of the front of the queue. -/
def doWrite (q : WriteSide) : WriteSide :=
  match q.writeQueue with
  | [] => q
  | b :: _ => { q with outstanding := q.outstanding ++ [b], started := q.started + 1 }

def runPosted (q : WriteSide) (b : Buffer) (rest : List Buffer) : WriteSide :=
  let q' := { q with
    posted := rest
    queued := q.queued ++ [b]
    writeQueue := q.writeQueue ++ [b] }
  if q.writeQueue.isEmpty then q'.doWrite else q'

/-- `onWrite` for the completion of the `k`-th outstanding write, which wrote `b`. -/
def onWrite (q : WriteSide) (k : ℕ) (b : Buffer) (ok : Bool) : WriteSide :=
  let q' := { q with outstanding := q.outstanding.eraseIdx k }
  if ok then
    let q'' := { q' with writeQueue := q.writeQueue.tail, written := q.written ++ [b] }
    if q''.writeQueue.isEmpty then q'' else q''.doWrite
  else { q' with failed := true }

inductive Label
  | send (payload : String)
  | posted
  | writeDone (k : ℕ) (ok : Bool)

def step (q : WriteSide) : Label → Option WriteSide
  | .send payload => some (q.send payload)
  | .posted =>
    match q.posted with
    | [] => none
    | b :: rest => some (q.runPosted b rest)
  | .writeDone k ok =>
    match q.outstanding[k]? with
    | none => none
    | some b => some (q.onWrite k b ok)

abbrev Runs (q : WriteSide) (ls : List Label) (q' : WriteSide) : Prop :=
  Run step Anything q ls q'

variable {q q' : WriteSide} {l : Label} {ls : List Label}

/-- Nothing is written, or the front of the queue is; an idle session has an empty
queue, unless a write has failed, after which it is idle with one that is not. -/
structure Inv (q : WriteSide) : Prop where
  front : q.outstanding = [] ∨ ∃ b rest, q.outstanding = [b] ∧ q.writeQueue = b :: rest
  idle : q.failed = false → q.outstanding = [] → q.writeQueue = []
  stalled : q.failed = true → q.outstanding = [] ∧ q.writeQueue ≠ []
  queued : q.written ++ q.writeQueue = q.queued
  sent : q.queued ++ q.posted = q.sent
  numbers : q.sent.map Buffer.number = List.range q.sent.length

theorem inv_start : Inv start where
  front := .inl rfl
  idle _ _ := rfl
  stalled h := by cases h
  queued := rfl
  sent := rfl
  numbers := rfl

theorem Inv.send (h : Inv q) (payload : String) : Inv (q.send payload) where
  front := h.front
  idle := h.idle
  stalled := h.stalled
  queued := h.queued
  sent := by simp [WriteSide.send, ← h.sent]
  numbers := by simp [WriteSide.send, h.numbers, List.range_succ]

theorem Inv.runPosted (h : Inv q) {b : Buffer} {rest : List Buffer} (hp : q.posted = b :: rest) :
    Inv (q.runPosted b rest) := by
  have hsent : (q.queued ++ [b]) ++ rest = q.sent := by simp [← h.sent, hp]
  have hqueued : q.written ++ (q.writeQueue ++ [b]) = q.queued ++ [b] := by
    rw [← List.append_assoc, h.queued]
  unfold WriteSide.runPosted
  dsimp only
  split
  · next he =>
    -- an empty queue: nothing is outstanding and nothing has failed
    have hq : q.writeQueue = [] := by simpa using he
    have hf : q.failed = false := by
      by_contra hf
      exact (h.stalled (by simpa using hf)).2 hq
    have ho : q.outstanding = [] := by
      rcases h.front with ho | ⟨b', rest', -, hb⟩
      · exact ho
      · simp [hq] at hb
    simp only [doWrite, hq, ho, List.nil_append]
    refine ⟨.inr ⟨b, [], rfl, rfl⟩, by simp, by simp [hf], ?_, hsent, h.numbers⟩
    simpa [hq] using hqueued
  · next he =>
    have hq : q.writeQueue ≠ [] := by simpa using he
    refine ⟨?_, fun hf ho => absurd (h.idle hf ho) hq, fun hf => ⟨(h.stalled hf).1, by simp⟩,
      hqueued, hsent, h.numbers⟩
    rcases h.front with ho | ⟨b', rest', ho, hb⟩
    · exact .inl ho
    · exact .inr ⟨b', rest' ++ [b], ho, by simp [hb]⟩

/-- A write that completes is the only one, of the front of the queue. -/
theorem Inv.outstanding_eq (h : Inv q) {k : ℕ} {b : Buffer} (hk : q.outstanding[k]? = some b) :
    k = 0 ∧ q.outstanding = [b] ∧ q.failed = false ∧ ∃ rest, q.writeQueue = b :: rest := by
  rcases h.front with ho | ⟨b', rest, ho, hb⟩
  · simp [ho] at hk
  · have hf : q.failed = false := by
      by_contra hf
      simpa [ho] using (h.stalled (by simpa using hf)).1
    obtain ⟨hlt, hget⟩ := List.getElem?_eq_some_iff.mp hk
    simp only [ho, List.length_singleton, Nat.lt_one_iff] at hlt
    subst hlt
    obtain rfl : b' = b := by simpa [ho] using hk
    exact ⟨rfl, ho, hf, rest, hb⟩

theorem Inv.onWrite (h : Inv q) {k : ℕ} {b : Buffer} (hk : q.outstanding[k]? = some b) (ok : Bool) :
    Inv (q.onWrite k b ok) := by
  obtain ⟨rfl, ho, hf, rest, hb⟩ := h.outstanding_eq hk
  have hqueued : (q.written ++ [b]) ++ rest = q.queued := by simp [← h.queued, hb]
  cases ok with
  | false =>
    simp only [WriteSide.onWrite, ho, Bool.false_eq_true, if_false, List.eraseIdx_zero,
      List.tail_cons]
    exact ⟨.inl rfl, by simp, fun _ => ⟨rfl, by simp [hb]⟩, h.queued, h.sent, h.numbers⟩
  | true =>
    simp only [WriteSide.onWrite, ho, hb, if_true, List.eraseIdx_zero, List.tail_cons]
    cases rest with
    | nil =>
      exact ⟨.inl rfl, fun _ _ => rfl, by simp [hf], by simpa using hqueued, h.sent, h.numbers⟩
    | cons b' rest' =>
      simp only [List.isEmpty_cons, Bool.false_eq_true, if_false, doWrite, List.nil_append]
      exact ⟨.inr ⟨b', rest', rfl, rfl⟩, by simp, by simp [hf], hqueued, h.sent, h.numbers⟩

theorem Inv.step (h : Inv q) (hs : step q l = some q') : Inv q' := by
  cases l with
  | send payload =>
    obtain rfl := Option.some.inj hs
    exact h.send payload
  | posted =>
    simp only [WriteSide.step] at hs
    split at hs
    · cases hs
    · next hp =>
      obtain rfl := Option.some.inj hs
      exact h.runPosted hp
  | writeDone k ok =>
    simp only [WriteSide.step] at hs
    split at hs
    · cases hs
    · next hk =>
      obtain rfl := Option.some.inj hs
      exact h.onWrite hk ok

theorem inv_of_runs (h : Runs start ls q) : Inv q :=
  h.invariant inv_start fun _ _ _ hi _ hs => hi.step hs

/-- After an error the queue never empties, so no posted send starts a write. -/
theorem Inv.step_of_failed (h : Inv q) (hf : q.failed = true) (hs : WriteSide.step q l = some q') :
    q'.failed = true ∧ q'.started = q.started := by
  obtain ⟨ho, hq⟩ := h.stalled hf
  cases l with
  | send payload =>
    obtain rfl := Option.some.inj hs
    exact ⟨hf, rfl⟩
  | posted =>
    simp only [WriteSide.step] at hs
    split at hs
    · cases hs
    · obtain rfl := Option.some.inj hs
      simp [WriteSide.runPosted, hq, hf]
  | writeDone k ok => simp [WriteSide.step, ho] at hs

theorem started_of_failed (h : Inv q) (hf : q.failed = true) (hr : Runs q ls q') :
    q'.started = q.started := by
  have hall := hr.invariant (I := fun u => Inv u ∧ u.failed = true ∧ u.started = q.started)
    ⟨h, hf, rfl⟩ ?_
  · exact hall.2.2
  rintro t l u ⟨hi, htf, hts⟩ _ hs
  obtain ⟨huf, hus⟩ := hi.step_of_failed htf hs
  exact ⟨hi.step hs, huf, hus.trans hts⟩

/-- Whatever the order of sends and completions, at most one write is outstanding and
it is that of the front of the queue; before a write has failed one is outstanding
exactly while the queue is not empty; what was written, then the queue, then what
waits on the strand are the payloads in the order in which they were sent; and after
an error no write is started. -/
theorem write_queue_exact (h : Runs start ls q) :
    q.outstanding.length ≤ 1 ∧
    (∀ b ∈ q.outstanding, q.writeQueue ≠ [] ∧ q.writeQueue.head? = some b) ∧
    (q.failed = false → (q.outstanding ≠ [] ↔ q.writeQueue ≠ [])) ∧
    (q.written ++ q.writeQueue = q.queued ∧ q.queued ++ q.posted = q.sent ∧
      q.sent.map Buffer.number = List.range q.sent.length) ∧
    (q.failed = true → ∀ ls' q', Runs q ls' q' → q'.started = q.started) := by
  have hi := inv_of_runs h
  refine ⟨?_, ?_, fun hf => ⟨?_, mt (hi.idle hf)⟩, ⟨hi.queued, hi.sent, hi.numbers⟩,
    fun hf ls' q' hr => started_of_failed hi hf hr⟩
  · rcases hi.front with ho | ⟨b, rest, ho, -⟩ <;> simp [ho]
  · intro b hb
    rcases hi.front with ho | ⟨b', rest, ho, hq⟩
    · simp [ho] at hb
    · obtain rfl : b = b' := by simpa [ho] using hb
      simp [hq]
  · rcases hi.front with ho | ⟨b, rest, -, hq⟩
    · exact fun hne => absurd ho hne
    · simp [hq]

theorem write_queue_exact_three_sends :
    ∃ q, Runs start [.send "a", .send "b", .posted, .posted, .writeDone 0 true, .writeDone 0 false,
        .send "c", .posted] q ∧
      q.written.map (·.payload) = ["a"] ∧ q.writeQueue.map (·.payload) = ["b", "c"] ∧
      q.failed = true ∧ ∀ ls' q', Runs q ls' q' → q'.started = q.started := by
  obtain ⟨q, hrun, hw, hq, hf⟩ : ∃ q, Runs start [.send "a", .send "b", .posted, .posted,
        .writeDone 0 true, .writeDone 0 false, .send "c", .posted] q ∧
      q.written.map (·.payload) = ["a"] ∧ q.writeQueue.map (·.payload) = ["b", "c"] ∧
      q.failed = true := exists_run _ (by decide)
  exact ⟨q, hrun, hw, hq, hf, (write_queue_exact hrun).2.2.2.2 hf⟩

end WriteSide

structure WebSocketSession.Erases (s : WebSocketSession) (q : WriteSide) : Prop where
  posted : s.posted = q.posted.map Buffer.payload
  writeQueue : s.writeQueue = q.writeQueue.map Buffer.payload
  writing : s.writing = !q.outstanding.isEmpty

inductive WebSocketSession.WriteMove (s : WebSocketSession) : WebSocketSession → Prop
  | same {s' : WebSocketSession} (hp : s'.posted = s.posted) (hq : s'.writeQueue = s.writeQueue)
      (hw : s'.writing = s.writing) : WriteMove s s'
  | send (payload : String) : WriteMove s (s.send payload)
  | posted {payload : String} {rest : List String} (hp : s.posted = payload :: rest) :
      WriteMove s (s.runPosted payload rest)
  | written (hw : s.writing = true) : WriteMove s s.onWrite
  | error (hw : s.writing = true) : WriteMove s { s with writing := false }

namespace Server

open WebSocketSession

variable {cfg : Config} {w w' : Server} {l : Label} {ls : List Label} {i j : ℕ}
  {s s' : WebSocketSession}

theorem writeMove_of_set (hs : w.sessions[i]? = some s) {x : WebSocketSession}
    (hx : w'.sessions[j]? = some x) (hw : w'.sessions = w.sessions.set i s')
    (hm : WriteMove s s') : ∃ y, w.sessions[j]? = some y ∧ WriteMove y x := by
  rw [hw] at hx
  rcases getElem?_set_cases hx with ⟨rfl, rfl⟩ | ⟨-, hx⟩
  · exact ⟨s, hs, hm⟩
  · exact ⟨x, hx, .same rfl rfl rfl⟩

theorem perform_writeMove (lib : Libraries) (id : Uuid) (now : ℤ)
    (out : Outcome ActorType Envelope (Traced Effect) HandlerError) {x : WebSocketSession}
    (hx : (w.perform lib id now out).sessions[j]? = some x) :
    ∃ y, w.sessions[j]? = some y ∧ WriteMove y x := by
  unfold perform at hx
  split at hx
  · next o sid p =>
    rcases deliver_cases lib w o sid p with ⟨i, s, -, hs, -, hd⟩ | ⟨-, hd⟩
    · rw [hd] at hx
      exact writeMove_of_set hs hx rfl (.send _)
    · rw [hd] at hx
      exact ⟨x, hx, .same rfl rfl rfl⟩
  · exact ⟨x, hx, .same rfl rfl rfl⟩
  · exact ⟨x, hx, .same rfl rfl rfl⟩
  · exact ⟨x, hx, .same rfl rfl rfl⟩

theorem Step.writeMove (h : Step cfg w l w') {x : WebSocketSession}
    (hx : w'.sessions[j]? = some x) :
    (∃ sessionId, x = .run sessionId) ∨ ∃ y, w.sessions[j]? = some y ∧ WriteMove y x := by
  have hstay (hx : w.sessions[j]? = some x) :
      ∃ y, w.sessions[j]? = some y ∧ WriteMove y x := ⟨x, hx, .same rfl rfl rfl⟩
  cases h with
  | accept hn =>
    rcases getElem?_append_singleton_cases hx with hx | ⟨-, rfl⟩
    · exact .inr (hstay hx)
    · exact .inl ⟨toString ((w.nextSessionId + 1) % 2 ^ 64), rfl⟩
  | acceptError => exact .inr (hstay hx)
  | handshake hs ha ok =>
    cases ok
    · exact .inr (writeMove_of_set hs.2.1 hx rfl (.same rfl rfl rfl))
    · exact .inr (writeMove_of_set hs.2.1 hx rfl (.same rfl rfl rfl))
  | readFrame hs hr raw => exact .inr (writeMove_of_set hs.2.1 hx rfl (.same rfl rfl rfl))
  | readError hs hr => exact .inr (writeMove_of_set hs.2.1 hx rfl (.same rfl rfl rfl))
  | dispatch hs he =>
    unfold onRead at hx
    dsimp only at hx
    split at hx
    · exact .inr (hstay hx)
    · exact .inr (writeMove_of_set hs hx rfl (.same rfl rfl rfl))
    · exact .inr (writeMove_of_set hs hx rfl (.same rfl rfl rfl))
  | posted hs hp => exact .inr (writeMove_of_set hs.2.1 hx rfl (.posted hp))
  | writeDone hs hw ok =>
    cases ok
    · exact .inr (writeMove_of_set hs.2.1 hx rfl (.error hw))
    · exact .inr (writeMove_of_set hs.2.1 hx rfl (.written hw))
  | @worker k out a hk id now =>
    exact .inr (perform_writeMove (w := { w with actorSystem := a }) _ _ _ _ hx)
  | stopNetwork he => exact .inr (hstay hx)
  | stopActors => exact .inr (hstay hx)
  | stopReturn hr hw => exact .inr (hstay hx)

theorem erases_of_writeMove {q : WriteSide} (hi : q.Inv) (he : s.Erases q) (hm : WriteMove s s') :
    ∃ ls q', WriteSide.Runs q ls q' ∧ s'.Erases q' := by
  obtain ⟨hposted, hqueue, hwriting⟩ := he
  have hfront (hw : s.writing = true) : ∃ b rest, q.outstanding = [b] ∧ q.writeQueue = b :: rest := by
    rcases hi.front with ho | hb
    · simp [hwriting, ho] at hw
    · exact hb
  cases hm with
  | same hp hq hw => exact ⟨[], q, .nil, hp.trans hposted, hq.trans hqueue, hw.trans hwriting⟩
  | send payload =>
    refine ⟨[.send payload], q.send payload, .single trivial rfl, ?_, hqueue, hwriting⟩
    simp [WebSocketSession.send, WriteSide.send, hposted]
  | @posted payload rest hp =>
    obtain ⟨b, bs, hb, rfl, rfl⟩ := List.map_eq_cons_iff.mp (hposted.symm.trans hp)
    refine ⟨[.posted], q.runPosted b bs, .single trivial (by simp [WriteSide.step, hb]), ?_⟩
    have hempty : s.writeQueue.isEmpty = q.writeQueue.isEmpty := by simp [hqueue]
    unfold WebSocketSession.runPosted WriteSide.runPosted
    dsimp only
    rw [hempty]
    split
    · next hq =>
      have hnil : q.writeQueue = [] := by simpa using hq
      exact ⟨by simp [WebSocketSession.doWrite, WriteSide.doWrite, hnil],
        by simp [WebSocketSession.doWrite, WriteSide.doWrite, hnil, hqueue],
        by simp [WebSocketSession.doWrite, WriteSide.doWrite, hnil]⟩
    · exact ⟨rfl, by simp [hqueue], hwriting⟩
  | written hw =>
    obtain ⟨b, rest, ho, hb⟩ := hfront hw
    refine ⟨[.writeDone 0 true], q.onWrite 0 b true,
      .single trivial (by simp [WriteSide.step, ho]), ?_⟩
    cases rest with
    | nil =>
      simp only [WebSocketSession.onWrite, WriteSide.onWrite, hqueue, hb, ho]
      exact ⟨hposted, rfl, rfl⟩
    | cons b' rest' =>
      simp only [WebSocketSession.onWrite, WriteSide.onWrite, hqueue, hb, ho]
      exact ⟨hposted, rfl, rfl⟩
  | error hw =>
    obtain ⟨b, rest, ho, hb⟩ := hfront hw
    refine ⟨[.writeDone 0 false], q.onWrite 0 b false,
      .single trivial (by simp [WriteSide.step, ho]), hposted, ?_, ?_⟩
    · simpa [WriteSide.onWrite] using hqueue
    · simp [WriteSide.onWrite, ho]

/-- In every run of the server the writing side of each session is in a state that
`WriteSide` reaches, so all that is proved of that machine holds of the sessions. -/
theorem writeSide_of_runs (h : Runs cfg (run cfg) ls w) :
    ∀ (j : ℕ) (s : WebSocketSession), w.sessions[j]? = some s →
      ∃ ls' q, WriteSide.Runs .start ls' q ∧ s.Erases q := by
  refine h.invariant (I := fun u => ∀ (j : ℕ) (s : WebSocketSession), u.sessions[j]? = some s →
    ∃ ls' q, WriteSide.Runs .start ls' q ∧ s.Erases q) (by simp [Server.run]) ?_
  intro t l u hi _ hs j x hx
  rcases (step_cases hs).2.writeMove hx with ⟨sessionId, rfl⟩ | ⟨y, hy, hm⟩
  · exact ⟨[], .start, .nil, rfl, rfl, rfl⟩
  · obtain ⟨ls₁, q, hq, he⟩ := hi j y hy
    obtain ⟨ls₂, q', hq', he'⟩ := erases_of_writeMove (WriteSide.inv_of_runs hq) he hm
    exact ⟨ls₁ ++ ls₂, q', hq.trans hq', he'⟩

end Server

end Svitock
