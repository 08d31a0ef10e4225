import Svitock.ActorRuntime
import Mathlib.Algebra.BigOperators.Group.Finset.Piecewise
import Mathlib.Algebra.Order.Monoid.Canonical.Defs
import Mathlib.Tactic.Abel

/-!
# Conservation laws of a worker pool

A weight gives every message, output and failure a value in a commutative
monoid. If each message weighs as much as the actions of its handler, the
weight of everything in flight, emitted, dropped and failed is the weight of
what was accepted, whatever the interleaving. Counting, multisets and signed
counts are all instances.
-/

namespace ActorRuntime

variable {ι π ω ε M : Type*} [DecidableEq ι] [Fintype ι] [AddCommMonoid M]

structure Weight (ι π ω ε M : Type*) where
  message : ι → π → M
  output : ω → M
  failure : ε → M

namespace Weight

variable (Y : Weight ι π ω ε M)

def act : Act ι π ω ε → M
  | .send d m => Y.message d m
  | .emit o => Y.output o
  | .fail e => Y.failure e

def worker : Worker ι π ω ε → M
  | .busy _ todo _ => (todo.map Y.act).sum
  | _ => 0

def queued (b : ι → Mailbox π) (a : ι) : M := ((b a).queue.map (Y.message a)).sum

def envelopes (xs : List (ι × π)) : M := (xs.map fun x => Y.message x.1 x.2).sum

def inFlight (s : State ι π ω ε) : M := ∑ a, Y.queued s.mailbox a + (s.workers.map Y.worker).sum

def account (s : State ι π ω ε) : M :=
  Y.inFlight s + Y.envelopes s.dropped + (s.emitted.map Y.output).sum +
    (s.failed.map Y.failure).sum

/-- Handling a message gives back what the message weighs. -/
def Conserved (rt : Runtime ι π ω ε) : Prop :=
  ∀ a m, Y.message a m = ((rt.handle a m).map Y.act).sum

def Balanced (s : State ι π ω ε) : Prop := Y.account s = Y.envelopes s.accepted

omit [DecidableEq ι] [Fintype ι] in
@[simp] theorem envelopes_append (xs ys : List (ι × π)) :
    Y.envelopes (xs ++ ys) = Y.envelopes xs + Y.envelopes ys := by
  simp [envelopes]

omit [DecidableEq ι] [Fintype ι] in
@[simp] theorem envelopes_singleton (d : ι) (m : π) :
    Y.envelopes [(d, m)] = Y.message d m := by
  simp [envelopes]

theorem sum_queued_update (b : ι → Mailbox π) (a : ι) (c : Mailbox π) :
    ∑ x, Y.queued (Function.update b a c) x =
      (c.queue.map (Y.message a)).sum + ∑ x ∈ Finset.univ.erase a, Y.queued b x := by
  rw [← Finset.add_sum_erase Finset.univ _ (Finset.mem_univ a)]
  congr 1
  · simp [queued]
  · apply Finset.sum_congr rfl
    intro x hx
    simp [queued, Finset.ne_of_mem_erase hx]

theorem sum_queued_enqueue (s : State ι π ω ε) (d : ι) (m : π) :
    ∑ x, Y.queued (s.enqueue d m).mailbox x = ∑ x, Y.queued s.mailbox x + Y.message d m := by
  rw [State.enqueue, sum_queued_update, ← Finset.add_sum_erase _ _ (Finset.mem_univ d)]
  simp only [queued, Mailbox.withQueue_queue, List.map_append, List.map_cons, List.map_nil,
    List.sum_append, List.sum_cons, List.sum_nil]
  abel

theorem sum_queued_pop {b : ι → Mailbox π} {a : ι} {m : π} {q : List π}
    (hq : (b a).queue = m :: q) :
    ∑ x, Y.queued b x =
      Y.message a m + ∑ x, Y.queued (Function.update b a ((b a).withQueue q)) x := by
  rw [sum_queued_update, ← Finset.add_sum_erase _ _ (Finset.mem_univ a)]
  simp [queued, hq, add_assoc]

variable {Y} {rt : Runtime ι π ω ε}

/-- No step of a worker changes the account. -/
theorem account_move (hY : Y.Conserved rt) {s s' : State ι π ω ε} {out : Outcome ι π ω ε}
    (h : Move rt s out s') : Y.account s' = Y.account s := by
  cases h with
  | enter hw hr => simp [account, inFlight, queued, hw, worker]
  | leave hw hr => simp [account, inFlight, queued, hw, worker]
  | skip hw hq => simp [account, inFlight, queued, hw, worker]
  | ret hw => simp [account, inFlight, queued, hw, worker]
  | @pop l r a rest m q hw hq =>
    -- the weight of the message leaves the mailbox and is that of its handler's actions
    simp only [account, inFlight, Y.sum_queued_pop hq, hw, hY a m, worker, List.map_append,
      List.map_cons, List.sum_append, List.sum_cons]
    abel
  | @send l r a d m todo rest hw hd =>
    simp only [account, inFlight, Y.sum_queued_enqueue s d m, hw, worker, act, List.map_append,
      List.map_cons, List.sum_append, List.sum_cons]
    abel
  | drop hw hd =>
    simp only [account, inFlight, queued, hw, worker, act, envelopes_append, envelopes_singleton,
      List.map_append, List.map_cons, List.sum_append, List.sum_cons]
    abel
  | emit hw =>
    simp only [account, inFlight, queued, hw, worker, act, List.map_append, List.map_cons,
      List.map_nil, List.sum_append, List.sum_cons, List.sum_nil]
    abel
  | fail hw =>
    simp only [account, inFlight, queued, hw, worker, act, List.map_append, List.map_cons,
      List.map_nil, List.sum_append, List.sum_cons, List.sum_nil]
    abel

theorem Balanced.move (hY : Y.Conserved rt) {s s' : State ι π ω ε} {out : Outcome ι π ω ε}
    (h : Move rt s out s') (hs : Y.Balanced s) : Y.Balanced s' := by
  rw [Balanced, account_move hY h, h.accepted]
  exact hs

theorem Balanced.receive {s : State ι π ω ε} (hs : Y.Balanced s) (d : ι) (m : π) :
    Y.Balanced (s.receive rt d m) := by
  by_cases hd : s.Room rt d
  · rw [receive_of_room m hd]
    simp only [Balanced, account, inFlight, Y.sum_queued_enqueue, envelopes_append,
      envelopes_singleton] at hs ⊢
    rw [← hs]
    simp only [State.enqueue]
    abel
  · rw [receive_of_not_room m hd]
    exact hs

theorem Balanced.change (hY : Y.Conserved rt) {s s' : State ι π ω ε} (h : Change rt s s')
    (hs : Y.Balanced s) : Y.Balanced s' := by
  cases h with
  | stay => exact hs
  | receive d m => exact hs.receive d m
  | move hm => exact hs.move hY hm
  | halt => exact hs

omit [DecidableEq ι] in
theorem Balanced.emitted_le [PartialOrder M] [CanonicallyOrderedAdd M] {s : State ι π ω ε}
    (hs : Y.Balanced s) :
    (s.emitted.map Y.output).sum ≤ Y.envelopes s.accepted := by
  rw [← hs, account]
  exact le_trans le_add_self le_self_add

end Weight

end ActorRuntime
