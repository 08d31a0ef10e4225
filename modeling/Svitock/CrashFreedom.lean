import Svitock.RuntimeInvariants
import Svitock.ServerHistory

namespace Svitock

open ActorRuntime Transition

def Storable (lib : Libraries) : ActorPayload → Prop
  | .sendMessageEvent event =>
    (lib.stringGenerator event.chatId).isSome ∧ (lib.stringGenerator event.senderId).isSome
  | .storagePersistMessage persist =>
    (lib.stringGenerator persist.chatId).isSome ∧ (lib.stringGenerator persist.senderId).isSome
  | _ => True

def wellFormedIds (lib : Libraries) (raw : ByteArray) : Bool :=
  !((lib.parse raw).text "type" == "send_message") ||
    ((lib.stringGenerator ((lib.parse raw).text "chat_id")).isSome &&
      (lib.stringGenerator ((lib.parse raw).text "sender_id")).isSome)

/-- Not an object, or an object whose fields have the types the dispatcher reads
them as and, in a `send_message`, whose two ids are UUIDs. -/
def harmless (lib : Libraries) (raw : ByteArray) : Bool :=
  !(lib.parse raw).isObject ||
    (MessageDispatcher.wellTyped (lib.parse raw) && wellFormedIds lib raw)

variable {lib : Libraries} {sessionId : String} {raw : ByteArray}

theorem not_raises_of_harmless (h : harmless lib raw = true) (e : JsonError) :
    MessageDispatcher.dispatch lib sessionId raw ≠ .error e := by
  cases ho : (lib.parse raw).isObject with
  | false => simp [MessageDispatcher.dispatch_of_not_object ho]
  | true =>
    simp only [harmless, ho, Bool.not_true, Bool.false_or, Bool.and_eq_true] at h
    simp [MessageDispatcher.dispatch_of_wellTyped ho h.1]

theorem storable_of_wellFormedIds (h : wellFormedIds lib raw = true) {envelope : ActorEnvelope}
    (hd : MessageDispatcher.dispatch lib sessionId raw = .ok (some envelope)) :
    Storable lib envelope.payload := by
  obtain ⟨-, -, he⟩ := MessageDispatcher.envelopeOf_of_dispatch hd
  rcases MessageDispatcher.envelopeOf_cases he with ⟨-, rfl⟩ | ⟨ht, rfl⟩ | ⟨e, rfl⟩ | ⟨e, rfl⟩
  · trivial
  · simp only [wellFormedIds, ht, beq_self_eq_true, Bool.not_true, Bool.false_or,
      Bool.and_eq_true] at h
    exact h
  · trivial
  · trivial

theorem storable_of_harmless (h : harmless lib raw = true) {envelope : ActorEnvelope}
    (hd : MessageDispatcher.dispatch lib sessionId raw = .ok (some envelope)) :
    Storable lib envelope.payload := by
  have ho := (MessageDispatcher.envelopeOf_of_dispatch hd).1
  simp only [harmless, ho, Bool.not_true, Bool.false_or, Bool.and_eq_true] at h
  exact storable_of_wellFormedIds h.2 hd

/-- The handlers pass the ids of a message on unchanged, so that the storage actor
can parse them. -/
theorem closed_storable (lib : Libraries) (order : List ActorType) :
    Closed (runtime lib order) fun _ m => Storable lib m.value := by
  rintro a m hp act hact
  cases does_of_mem hact with
  | forward o event => exact hp
  | persist o event => exact hp
  | echo o event => trivial
  | incoming o event hr => trivial
  | deliver o outgoing => trivial
  | create o persist hc hs => trivial
  | raise o persist e h =>
    obtain ⟨hc, hs⟩ := hp
    rcases h with h | h
    · simp [h] at hc
    · simp [h] at hs

namespace Server

variable {cfg : Config} {w w' : Server} {l : Label} {ls : List Label}

/-- Nothing has been raised, and nothing that waits or is being handled will raise. -/
structure CrashFree (cfg : Config) (w : Server) : Prop where
  exception : w.exception = none
  pending : Everywhere (fun _ (m : Envelope) => Storable cfg.lib m.value) w.actorSystem

theorem CrashFree.step (h : CrashFree cfg w) (hst : Step cfg w l w')
    (hf : ∀ f ∈ w'.frames, harmless cfg.lib f.raw = true) : CrashFree cfg w' := by
  rcases hst.log_cases with hq | ⟨i, s, raw, -, -, -, rfl⟩ | ⟨k, id, now, out, -, hk, hw⟩
  · refine ⟨hq.exception.trans h.exception, ?_⟩
    exact hq.transfer (fun _ ha => ⟨ha.queue, ha.todo⟩) h.pending
  · unfold onRead at hf ⊢
    dsimp only at hf ⊢
    split at hf
    -- a harmless frame does not take the throwing branch
    · next e he => exact absurd he (not_raises_of_harmless (hf ⟨i, s.sessionId, raw⟩ (by simp)) e)
    · exact ⟨h.exception, h.pending⟩
    · next envelope he =>
      have hp := storable_of_harmless (hf ⟨i, s.sessionId, raw⟩ (by simp)) he
      exact ⟨h.exception, h.pending.receive hp⟩
  · have hm := workerStep_move hk
    obtain ⟨hp, hfail⟩ := h.pending.move (closed_storable cfg.lib cfg.order) hm
    have hnone : out.failures = [] := by
      simpa [hm.failed] using hfail
    exact ⟨(hw.unfailed hnone).trans h.exception, hp⟩

theorem frames_subset_of_step (hst : Step cfg w l w') : w.frames ⊆ w'.frames := by
  rcases hst.log_cases with hq | ⟨i, s, raw, -, -, -, rfl⟩ | ⟨k, id, now, out, -, -, hw⟩
  · rw [hq.frames]
    exact List.Subset.refl _
  · unfold onRead
    dsimp only
    split <;> exact List.subset_append_left _ _
  · rw [hw.frames]
    exact List.Subset.refl _

theorem crashFree_of_runs (h : Runs cfg (run cfg) ls w)
    (hf : ∀ f ∈ w.frames, harmless cfg.lib f.raw = true) : CrashFree cfg w := by
  refine h.invariant
    (I := fun w => (∀ f ∈ w.frames, harmless cfg.lib f.raw = true) → CrashFree cfg w)
    (fun _ => ⟨rfl, by simp [Server.run, ActorSystem.start], fun x hx => ?_⟩)
    (fun t l u hi _ hs hf => ?_) hf
  · obtain rfl := List.eq_of_mem_replicate hx
    simp [Worker.todo]
  · have hst := (step_cases hs).2
    exact (hi fun f hm => hf f (frames_subset_of_step hst hm)).step hst hf

/-- Whatever the interleaving, no exception escapes while every dispatched frame
is harmless. -/
theorem no_exception_of_harmless (h : Runs cfg (run cfg) ls w)
    (hf : ∀ f ∈ w.frames, harmless cfg.lib f.raw = true) : w.exception = none :=
  (crashFree_of_runs h hf).exception

theorem no_exception_of_harmless_message :
    ∃ w, Runs (Sample.config [Sample.greeting] 4 2) (run (Sample.config [Sample.greeting] 4 2))
        (Sample.connect 0 ++ Sample.frame 0 Sample.greeting ++ Sample.work 0 18) w ∧
      w.frames.length = 1 ∧ w.creates.length = 1 ∧ w.exception = none := by
  obtain ⟨w, hrun, hall, hframes, hcreates⟩ : ∃ w,
      Runs (Sample.config [Sample.greeting] 4 2) (run (Sample.config [Sample.greeting] 4 2))
        (Sample.connect 0 ++ Sample.frame 0 Sample.greeting ++ Sample.work 0 18) w ∧
      (∀ f ∈ w.frames, harmless (Sample.libraries [Sample.greeting]) f.raw = true) ∧
      w.frames.length = 1 ∧ w.creates.length = 1 := exists_run _ (by decide +kernel)
  exact ⟨w, hrun, hframes, hcreates, no_exception_of_harmless hrun hall⟩

/-- A number for the type of a frame ends the process on a network thread, a
`chat_id` that is no UUID ends it on a worker. -/
theorem frames_end_the_process :
    (∃ w, Runs (Sample.config [Sample.mistyped] 4 1) (run (Sample.config [Sample.mistyped] 4 1))
        (Sample.connect 0 ++ Sample.frame 0 Sample.mistyped) w ∧
      w.exception = some (.network .typeError302)) ∧
    ∃ w, Runs (Sample.config [Sample.sendMessage "general" Sample.userId "" "hi"] 4 1)
        (run (Sample.config [Sample.sendMessage "general" Sample.userId "" "hi"] 4 1))
        (Sample.connect 0 ++ Sample.frame 0 (Sample.sendMessage "general" Sample.userId "" "hi") ++
          Sample.work 0 15) w ∧
      w.exception = some (.worker .invalidUuid) :=
  ⟨exists_run _ (by decide +kernel), exists_run _ (by decide +kernel)⟩

end Server

end Svitock
