import Svitock.Actors
import Svitock.RuntimeErasure

/-!
# Who owns an envelope

`core/actor/mailbox.cpp` and `core/actor/actor_system.cpp` with their pointers. A
network thread that dispatches a frame and an actor that sends both allocate an
envelope and hand it to `ActorSystem::send`. When this returns false, the envelope
of an unknown destination and that of an inactive mailbox have been destroyed with
the argument that held them. That of a full mailbox has not: `Mailbox::push` has
released it to a queue that did not take it.
-/

namespace Svitock

open ActorRuntime Transition

namespace ActorSystem

/-- The actor system with its envelopes on the heap, before the first frame. -/
def allocate (mailboxCapacity : ActorType → ℕ) (networkThreads workerThreads : ℕ) :
    Pool ActorType Envelope (Traced Effect) HandlerError :=
  Pool.start (Traced Effect) HandlerError mailboxCapacity networkThreads workerThreads

/-- Without its addresses this is the actor system that the server starts. -/
theorem allocate_erases (mailboxCapacity networkThreads workerThreads : ℕ) :
    Pool.Erases (allocate (fun _ => mailboxCapacity) networkThreads workerThreads)
      (ActorSystem.start mailboxCapacity workerThreads) := by
  refine ⟨fun a => rfl, ?_, rfl, rfl⟩
  simp [allocate, Pool.start, ActorSystem.start, Pool.Owner.erase]

/-- Until a mailbox is destroyed, what the pointers do is what the actor system does. -/
theorem envelopes_simulate {lib : Libraries} {order : List ActorType}
    {mailboxCapacity networkThreads workerThreads : ℕ}
    {ls : List (Pool.Label ActorType Envelope)}
    {s : Pool ActorType Envelope (Traced Effect) HandlerError}
    (h : Run (Pool.step (runtime lib order)) (fun _ l => l.destructs = false)
      (allocate (fun _ => mailboxCapacity) networkThreads workerThreads) ls s) :
    ∃ a, Relation.ReflTransGen (Change (runtime lib order))
      (ActorSystem.start mailboxCapacity workerThreads) a ∧ Pool.Erases s a :=
  Pool.run_simulates h (allocate_erases mailboxCapacity networkThreads workerThreads)

/-- In every run of dispatches, sends and workers, each envelope has one owner until it
is destroyed, a refused one is destroyed and nothing is left in the end, exactly when no
send of the run met a mailbox that was active and full. -/
theorem envelopes_owned_iff (lib : Libraries) (order : List ActorType)
    (mailboxCapacity : ActorType → ℕ) (networkThreads workerThreads : ℕ)
    {ls : List (Pool.Label ActorType Envelope)}
    {s : Pool ActorType Envelope (Traced Effect) HandlerError}
    (h : Pool.Runs (runtime lib order) (allocate mailboxCapacity networkThreads workerThreads)
      ls s) :
    Pool.Owned s ↔ Run (Pool.step (runtime lib order))
      (fun s l => Pool.spare (runtime lib order) s l = true)
      (allocate mailboxCapacity networkThreads workerThreads) ls s :=
  Pool.owned_iff_spare h

def sampleRuntime : Runtime ActorType Envelope (Traced Effect) HandlerError :=
  runtime ⟨fun _ => .discarded, fun _ => "", fun _ => none⟩ [.storage, .message, .chat, .session]

def sampleEnvelope : Envelope := ⟨0, .authEvent ⟨"1", "ann"⟩⟩

def twoSends : List (Pool.Label ActorType Envelope) :=
  [.call 0 .session sampleEnvelope, .call 1 .session sampleEnvelope, .callerSend 0, .callerSend 1]

theorem envelopes_owned_iff_two_sends :
    ∃ s, Run (Pool.step sampleRuntime)
        (fun s l => Pool.spare sampleRuntime s l = true) (allocate (fun _ => 2) 2 1)
        (twoSends ++ List.replicate 12 (.worker 0)) s ∧
      s.destroyed = [0, 1] ∧ Pool.Owned s := by
  obtain ⟨s, hrun, hdestroyed⟩ : ∃ s, Run (Pool.step sampleRuntime)
        (fun s l => Pool.spare sampleRuntime s l = true) (allocate (fun _ => 2) 2 1)
        (twoSends ++ List.replicate 12 (.worker 0)) s ∧ s.destroyed = [0, 1] :=
    exists_run _ (by decide +kernel)
  exact ⟨s, hrun, hdestroyed,
    (envelopes_owned_iff _ _ (fun _ => 2) 2 1 hrun.anything).mpr hrun⟩

/-- With room for one the other is refused and never destroyed, not even by the
destructor of the mailbox. -/
theorem full_mailbox_leaks :
    ∃ s, Pool.Runs sampleRuntime (allocate (fun _ => 1) 2 1)
        (twoSends ++ [.deactivate .session, .drain .session]) s ∧
      s.allocated = 2 ∧ s.refused = [1] ∧ s.destroyed = [0] ∧ s.owners 1 = 0 ∧
      ¬ Pool.Owned s := by
  obtain ⟨s, hrun, hallocated, hrefused, hdestroyed, howners⟩ :
      ∃ s, Pool.Runs sampleRuntime (allocate (fun _ => 1) 2 1)
        (twoSends ++ [.deactivate .session, .drain .session]) s ∧
      s.allocated = 2 ∧ s.refused = [1] ∧ s.destroyed = [0] ∧ s.owners 1 = 0 :=
    exists_run _ (by decide +kernel)
  refine ⟨s, hrun, hallocated, hrefused, hdestroyed, howners, fun ho => ?_⟩
  have hmem := ho.refused 1 (by simp [hrefused])
  simp [hdestroyed] at hmem

end ActorSystem

end Svitock
