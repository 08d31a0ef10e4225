import Svitock.RuntimeOwnership
import Mathlib.Logic.Relation

/-!
# The pool without addresses

Without its addresses the pool of owners is the worker pool of `ActorRuntime`: what a
worker is sending is the next action of its handler, an allocation is no step, and a
send from outside is received. So what holds of every run of the worker pool holds of
the messages on the heap.
-/

namespace ActorRuntime

namespace Pool

variable {ι π ω ε : Type*} [DecidableEq ι]

def Owner.erase : Owner ι π ω ε → Worker ι π ω ε
  | .poll rest => .poll rest
  | .busy _ none a todo rest => .busy a todo rest
  | .busy _ (some p) a todo rest => .busy a (.send p.destination p.payload :: todo) rest
  | .exited => .exited

def eraseMailbox (b : Mailbox (Pointer ι π)) : Mailbox π :=
  ⟨b.queue.map Pointer.payload, b.capacity, b.active⟩

structure Erases (s : Pool ι π ω ε) (t : State ι π ω ε) : Prop where
  mailbox : ∀ a, t.mailbox a = eraseMailbox (s.mailbox a)
  workers : t.workers = s.workers.map Owner.erase
  running : t.running = s.running
  failed : t.failed = s.failed

def Label.destructs : Label ι π → Bool
  | .deactivate _ => true
  | .drain _ => true
  | _ => false

variable {rt : Runtime ι π ω ε} {s s' : Pool ι π ω ε} {l : Label ι π} {t : State ι π ω ε}

theorem erase_update {f : ι → Mailbox π} {g : ι → Mailbox (Pointer ι π)}
    (h : ∀ a, f a = eraseMailbox (g a)) (d : ι) (b : Mailbox (Pointer ι π)) (a : ι) :
    Function.update f d (eraseMailbox b) a = eraseMailbox (Function.update g d b a) := by
  by_cases had : a = d
  · subst had
    simp
  · simp [had, h a]

omit [DecidableEq ι] in
theorem Erases.room_iff (h : Erases s t) {d : ι} : t.Room rt d ↔
    d ∈ rt.order ∧ (s.mailbox d).active = true ∧
      (s.mailbox d).queue.length < (s.mailbox d).capacity := by
  simp [State.Room, h.mailbox d, eraseMailbox]

theorem Erases.enqueue (h : Erases s t) (p : Pointer ι π) (a : ι) :
    (t.enqueue p.destination p.payload).mailbox a =
      eraseMailbox (Function.update s.mailbox p.destination
        ((s.mailbox p.destination).withQueue ((s.mailbox p.destination).queue ++ [p])) a) := by
  rw [← erase_update h.mailbox]
  simp [State.enqueue, eraseMailbox, h.mailbox p.destination, Mailbox.withQueue]

theorem Delivery.receive {p : Pointer ι π} (h : Delivery rt s p s') (he : Erases s t) :
    Erases s' (t.receive rt p.destination p.payload) := by
  cases h with
  | queued hd ha hl =>
    rw [receive_of_room _ (he.room_iff.mpr ⟨hd, ha, hl⟩)]
    exact ⟨he.enqueue p, he.workers, he.running, he.failed⟩
  | destroyed hd =>
    rw [receive_of_not_room _ fun hr => hd ⟨hr.1, (he.room_iff.mp hr).2.1⟩]
    exact ⟨he.mailbox, he.workers, he.running, he.failed⟩
  | lost hd ha hl =>
    rw [receive_of_not_room _ fun hr => hl (he.room_iff.mp hr).2.2]
    exact ⟨he.mailbox, he.workers, he.running, he.failed⟩

omit [DecidableEq ι] in
theorem Erases.split (h : Erases s t) {before after : List (Owner ι π ω ε)} {w : Owner ι π ω ε}
    (hw : s.workers = before ++ w :: after) :
    t.workers = before.map Owner.erase ++ Owner.erase w :: after.map Owner.erase := by
  rw [h.workers, hw, List.map_append, List.map_cons]

omit [DecidableEq ι] in
theorem map_erase (before after : List (Owner ι π ω ε)) (w : Owner ι π ω ε) :
    before.map Owner.erase ++ Owner.erase w :: after.map Owner.erase =
      (before ++ w :: after).map Owner.erase := by
  rw [List.map_append, List.map_cons]

/-- Every step is one of the worker pool, or none at all. -/
theorem Step.simulates (h : Step rt s l s') (hl : l.destructs = false) (he : Erases s t) :
    ∃ t', Change rt t t' ∧ Erases s' t' := by
  cases h with
  | call hc => exact ⟨t, .stay, he.mailbox, he.workers, he.running, he.failed⟩
  | @callerSend k p u before after hk hc ht =>
    have hr := ht.receive he
    exact ⟨_, .receive p.destination p.payload, hr.mailbox, hr.workers, hr.running, hr.failed⟩
  | @alloc k p a d m todo rest before after hw =>
    -- the send stays the next action of the handler
    exact ⟨t, .stay, he.mailbox, (he.split hw).trans
      (map_erase before after (.busy p (some ⟨s.allocated, d, m⟩) a todo rest)), he.running,
      he.failed⟩
  | @workerSend k p q a todo rest u before after hk hw ht =>
    cases ht with
    | queued hd ha hl =>
      exact ⟨_, .move (.send (he.split hw) (he.room_iff.mpr ⟨hd, ha, hl⟩)), he.enqueue q,
        map_erase _ _ (.busy p none a todo rest), he.running, he.failed⟩
    | destroyed hd =>
      exact ⟨_, .move (.drop (he.split hw) fun hr => hd ⟨hr.1, (he.room_iff.mp hr).2.1⟩),
        he.mailbox, map_erase _ _ (.busy p none a todo rest), he.running, he.failed⟩
    | lost hd ha hl =>
      exact ⟨_, .move (.drop (he.split hw) fun hr => hl (he.room_iff.mp hr).2.2), he.mailbox,
        map_erase _ _ (.busy p none a todo rest), he.running, he.failed⟩
  | enter hw hr =>
    exact ⟨_, .move (.enter (he.split hw) (he.running.trans hr)), he.mailbox,
      map_erase _ _ (.poll rt.order), he.running, he.failed⟩
  | leave hw hr =>
    exact ⟨_, .move (.leave (he.split hw) (he.running.trans hr)), he.mailbox,
      map_erase _ _ .exited, he.running, he.failed⟩
  | @skip k a rest before after hw hq =>
    have hempty : (t.mailbox a).queue = [] := by simp [he.mailbox a, eraseMailbox, hq]
    exact ⟨_, .move (.skip (he.split hw) hempty), he.mailbox, map_erase _ _ (.poll rest),
      he.running, he.failed⟩
  | @pop k a rest p q before after hw hq =>
    have hcons : (t.mailbox a).queue = p.payload :: q.map Pointer.payload := by
      simp [he.mailbox a, eraseMailbox, hq]
    have hpopped : (t.mailbox a).withQueue (q.map Pointer.payload) =
        eraseMailbox ((s.mailbox a).withQueue q) := by
      simp [he.mailbox a, eraseMailbox, Mailbox.withQueue]
    refine ⟨_, .move (.pop (he.split hw) hcons), ?_,
      map_erase _ _ (.busy p none a (rt.handle a p.payload) rest), he.running, he.failed⟩
    rw [hpopped]
    exact erase_update he.mailbox a _
  | @ret k p a rest before after hw =>
    exact ⟨_, .move (.ret (he.split hw)), he.mailbox, map_erase _ _ (.poll rest), he.running,
      he.failed⟩
  | @emit k p a o todo rest before after hw =>
    exact ⟨_, .move (.emit (he.split hw)), he.mailbox, map_erase _ _ (.busy p none a todo rest),
      he.running, he.failed⟩
  | @fail k p a e todo rest before after hw =>
    refine ⟨_, .move (.fail (he.split hw)), he.mailbox, map_erase _ _ (.busy p none a todo rest),
      he.running, ?_⟩
    rw [he.failed]
  | halt => exact ⟨_, .halt, he.mailbox, he.workers, rfl, he.failed⟩
  | deactivate d => cases hl
  | drain hq => cases hl

/-- Every run without destructors is a run of the worker pool. -/
theorem run_simulates {ls : List (Label ι π)}
    (h : Transition.Run (step rt) (fun _ l => l.destructs = false) s ls s') (he : Erases s t) :
    ∃ t', Relation.ReflTransGen (Change rt) t t' ∧ Erases s' t' := by
  induction h with
  | nil => exact ⟨t, .refl, he⟩
  | snoc _ hl hs ih =>
    obtain ⟨u, hu, heu⟩ := ih
    obtain ⟨v, hv, hev⟩ := (step_cases hs).simulates hl heu
    exact ⟨v, hu.tail hv, hev⟩

end Pool

end ActorRuntime
