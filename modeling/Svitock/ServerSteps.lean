import Svitock.Server

namespace Svitock

open ActorRuntime

namespace Server

def Ready (w : Server) (i : ℕ) (s : WebSocketSession) : Prop :=
  w.networkRunning = true ∧ w.sessions[i]? = some s ∧ s.executing = none

inductive Step (cfg : Config) (w : Server) : Label → Server → Prop
  | accept (hn : w.networkRunning = true) : Step cfg w (.accept true) w.listenerOnAccept
  | acceptError : Step cfg w (.accept false) w
  | handshake {i : ℕ} {s : WebSocketSession} (hs : w.Ready i s) (ha : s.accepting = true)
      (ok : Bool) : Step cfg w (.handshake i ok) (w.onAccept i s ok)
  | readFrame {i : ℕ} {s : WebSocketSession} (hs : w.Ready i s) (hr : s.reading = true)
      (raw : ByteArray) : Step cfg w (.readFrame i raw)
        (w.setSession i { s with reading := false, executing := some raw })
  | readError {i : ℕ} {s : WebSocketSession} (hs : w.Ready i s) (hr : s.reading = true) :
      Step cfg w (.readError i) (w.onReadError i s)
  | dispatch {i : ℕ} {s : WebSocketSession} {raw : ByteArray} (hs : w.sessions[i]? = some s)
      (hx : s.executing = some raw) : Step cfg w (.dispatch i) (w.onRead cfg i s raw)
  | posted {i : ℕ} {s : WebSocketSession} {payload : String} {rest : List String}
      (hs : w.Ready i s) (hp : s.posted = payload :: rest) :
      Step cfg w (.posted i) (w.setSession i (s.runPosted payload rest))
  | writeDone {i : ℕ} {s : WebSocketSession} (hs : w.Ready i s) (hw : s.writing = true)
      (ok : Bool) : Step cfg w (.writeDone i ok) (w.onWrite i s ok)
  | worker {k : ℕ} {out : Outcome ActorType Envelope (Traced Effect) HandlerError}
      {a : ActorSystem} (hk : w.actorSystem.workerStep cfg.runtime k = some (out, a))
      (id : Uuid) (now : ℤ) :
      Step cfg w (.worker k id now) ({ w with actorSystem := a }.perform cfg.lib id now out)
  | stopNetwork (hx : ∀ s ∈ w.sessions, s.executing = none) :
      Step cfg w .stopNetwork { w with networkRunning := false }
  | stopActors : Step cfg w .stopActors { w with actorSystem := w.actorSystem.halt }
  | stopReturn (hr : w.actorSystem.running = false)
      (hw : ∀ x ∈ w.actorSystem.workers, x = .exited) :
      Step cfg w .stopReturn { w with stopReturned := true }

variable {cfg : Config} {w w' : Server} {l : Label}

theorem onStrand_eq_some {i : ℕ} {f : WebSocketSession → Option Server}
    (h : w.onStrand i f = some w') : ∃ s, w.Ready i s ∧ f s = some w' := by
  unfold onStrand at h
  split at h
  · next hn =>
    split at h
    · cases h
    · next s hs =>
      split at h
      · cases h
      · next hx => exact ⟨s, ⟨hn, hs, by simpa using hx⟩, h⟩
  · cases h

theorem some_of_guard {α : Type*} {p : Bool} {a b : α}
    (h : (if p then some a else none) = some b) : p = true ∧ a = b := by
  split at h
  · next hp => exact ⟨hp, Option.some.inj h⟩
  · cases h

/-- Nothing happens after an exception, and otherwise a label does one of the above. -/
theorem step_cases (h : step cfg w l = some w') : w.exception = none ∧ Step cfg w l w' := by
  unfold step at h
  split at h
  · cases h
  · next he =>
    refine ⟨by simpa using he, ?_⟩
    cases l with
    | accept ok =>
      obtain ⟨hn, rfl⟩ := some_of_guard h
      cases ok
      · exact .acceptError
      · exact .accept hn
    | handshake i ok =>
      obtain ⟨s, hs, hf⟩ := onStrand_eq_some h
      obtain ⟨ha, rfl⟩ := some_of_guard hf
      exact .handshake hs ha ok
    | readFrame i raw =>
      obtain ⟨s, hs, hf⟩ := onStrand_eq_some h
      obtain ⟨hr, rfl⟩ := some_of_guard hf
      exact .readFrame hs hr raw
    | readError i =>
      obtain ⟨s, hs, hf⟩ := onStrand_eq_some h
      obtain ⟨hr, rfl⟩ := some_of_guard hf
      exact .readError hs hr
    | dispatch i =>
      simp only at h
      split at h
      · cases h
      · next s hs =>
        split at h
        · cases h
        · next raw hx =>
          cases h
          exact .dispatch hs hx
    | posted i =>
      obtain ⟨s, hs, hf⟩ := onStrand_eq_some h
      split at hf
      · cases hf
      · next hp =>
        cases hf
        exact .posted hs hp
    | writeDone i ok =>
      obtain ⟨s, hs, hf⟩ := onStrand_eq_some h
      obtain ⟨hw, rfl⟩ := some_of_guard hf
      exact .writeDone hs hw ok
    | worker k id now =>
      simp only at h
      split at h
      · cases h
      · next hk =>
        cases h
        exact .worker hk id now
    | stopNetwork =>
      obtain ⟨hg, rfl⟩ := some_of_guard h
      refine .stopNetwork fun s hs => ?_
      simp only [Bool.and_eq_true, List.all_eq_true] at hg
      exact Option.isNone_iff_eq_none.mp (hg.2 s hs)
    | stopActors =>
      obtain ⟨hg, rfl⟩ := some_of_guard h
      exact .stopActors
    | stopReturn =>
      obtain ⟨hg, rfl⟩ := some_of_guard h
      simp only [Bool.and_eq_true, List.all_eq_true, Bool.not_eq_true'] at hg
      refine .stopReturn hg.1.2 fun x hx => ?_
      have he := hg.2 x hx
      cases x with
      | exited => rfl
      | _ => cases he

theorem deliver_cases (lib : Libraries) (w : Server) (o : ℕ) (sid : String) (p : Json) :
    (∃ i s, w.transports sid = some i ∧ w.sessions[i]? = some s ∧ s.alive = true ∧
      w.deliver lib o sid p = { w with
        sessions := w.sessions.set i (s.send (lib.dump p))
        handed := w.handed ++ [⟨o, i, p⟩] }) ∨
    ((∀ i s, w.transports sid = some i → w.sessions[i]? = some s → s.alive = false) ∧
      w.deliver lib o sid p = w) := by
  unfold deliver
  cases ht : w.transports sid with
  | none => exact .inr ⟨by simp, rfl⟩
  | some i =>
    cases hs : w.sessions[i]? with
    | none =>
      refine .inr ⟨?_, by simp [hs]⟩
      rintro _ s ⟨⟩ h
      simp [hs] at h
    | some s =>
      cases ha : s.alive with
      | false =>
        refine .inr ⟨?_, by simp [hs, ha]⟩
        rintro _ x ⟨⟩ h
        rwa [← Option.some.inj (hs.symm.trans h)]
      | true => exact .inl ⟨i, s, rfl, hs, ha, by simp [hs, ha]⟩

@[simp] theorem deliver_actorSystem (lib : Libraries) (o : ℕ) (sid : String) (p : Json) :
    (w.deliver lib o sid p).actorSystem = w.actorSystem := by
  rcases deliver_cases lib w o sid p with ⟨i, s, -, -, -, h⟩ | ⟨-, h⟩ <;> rw [h]

@[simp] theorem perform_actorSystem (lib : Libraries) (id : Uuid) (now : ℤ)
    (out : Outcome ActorType Envelope (Traced Effect) HandlerError) :
    (w.perform lib id now out).actorSystem = w.actorSystem := by
  unfold perform
  split <;> simp

@[simp] theorem onRead_frames (i : ℕ) (s : WebSocketSession) (raw : ByteArray) :
    (w.onRead cfg i s raw).frames = w.frames ++ [⟨i, s.sessionId, raw⟩] := by
  unfold onRead
  dsimp only
  split <;> rfl

@[simp] theorem onRead_handed (i : ℕ) (s : WebSocketSession) (raw : ByteArray) :
    (w.onRead cfg i s raw).handed = w.handed := by
  unfold onRead
  dsimp only
  split <;> rfl

@[simp] theorem onRead_transports (i : ℕ) (s : WebSocketSession) (raw : ByteArray) :
    (w.onRead cfg i s raw).transports = w.transports := by
  unfold onRead
  dsimp only
  split <;> rfl

@[simp] theorem onRead_emitted (i : ℕ) (s : WebSocketSession) (raw : ByteArray) :
    (w.onRead cfg i s raw).actorSystem.emitted = w.actorSystem.emitted := by
  unfold onRead
  dsimp only
  split
  · rfl
  · rfl
  · exact receive_emitted _ _ _ _

@[simp] theorem onRead_workers (i : ℕ) (s : WebSocketSession) (raw : ByteArray) :
    (w.onRead cfg i s raw).actorSystem.workers = w.actorSystem.workers := by
  unfold onRead
  dsimp only
  split
  · rfl
  · rfl
  · exact receive_workers _ _ _ _

@[simp] theorem onRead_dropped (i : ℕ) (s : WebSocketSession) (raw : ByteArray) :
    (w.onRead cfg i s raw).actorSystem.dropped = w.actorSystem.dropped := by
  unfold onRead
  dsimp only
  split
  · rfl
  · rfl
  · exact receive_dropped _ _ _ _

theorem onRead_storage (i : ℕ) (s : WebSocketSession) (raw : ByteArray) :
    (w.onRead cfg i s raw).actorSystem.mailbox .storage = w.actorSystem.mailbox .storage := by
  unfold onRead
  dsimp only
  split
  · rfl
  · rfl
  · next envelope he =>
    have hne : ActorType.storage ≠ envelope.destination := by
      obtain ⟨-, -, he⟩ := MessageDispatcher.envelopeOf_of_dispatch he
      rcases MessageDispatcher.envelopeOf_cases he with ⟨-, rfl⟩ | ⟨-, rfl⟩ | ⟨e, rfl⟩ | ⟨e, rfl⟩ <;>
        simp
    exact receive_mailbox_of_ne _ _ _ hne

theorem Step.change (h : Step cfg w l w') : Change cfg.runtime w.actorSystem w'.actorSystem := by
  cases h with
  | handshake hs ha ok =>
    cases ok
    · exact .stay
    · exact .stay
  | writeDone hs hw ok =>
    cases ok
    · exact .stay
    · exact .stay
  | dispatch hs hx =>
    unfold onRead
    dsimp only
    split
    · exact .stay
    · exact .stay
    · exact .receive _ _
  | worker hk id now =>
    rw [perform_actorSystem]
    exact .move (workerStep_move hk)
  | stopActors => exact .halt
  | _ => exact .stay

end Server

end Svitock
