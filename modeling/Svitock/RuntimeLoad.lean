import Svitock.RuntimeConservation
import Svitock.RuntimeInvariants
import Mathlib.Algebra.Order.BigOperators.Group.Finset
import Mathlib.Algebra.Order.BigOperators.Group.List

/-!
# The load of a worker pool

A message belongs to a job, and so do the messages that its handler sends. A
load bounds how many messages of a job one message accounts for in each mailbox,
itself and its descendants together. What is queued and what is still to be sent
then stays within the load of the jobs that are outstanding, so that a pool whose
mailboxes hold that much never drops a message.
-/

namespace ActorRuntime

variable {ι π ω ε κ : Type*} [DecidableEq ι] [DecidableEq κ]

/-- The job of a message, and the number of messages that it accounts for in a mailbox. -/
structure Load (ι π κ : Type*) where
  job : π → κ
  reach : ι → π → ι → ℕ

namespace Load

variable (L : Load ι π κ)

def arrivals (d : ι) : Act ι π ω ε → ℕ
  | .send a m => L.reach a m d
  | _ => 0

/-- Handling a message sends only messages of its job, and these account for no
more than the message did beside itself. -/
structure Bounds (rt : Runtime ι π ω ε) (bound : ℕ) : Prop where
  job : ∀ a m d m', .send d m' ∈ rt.handle a m → L.job m' = L.job m
  sends : ∀ a m d,
    (if a = d then 1 else 0) + ((rt.handle a m).map (L.arrivals d)).sum ≤ L.reach a m d
  le : ∀ a m d, L.reach a m d ≤ bound

/-- The messages of job `k` that are in mailbox `d` or may still get there. -/
def weight (k : κ) (d : ι) : Weight ι π ω ε ℕ where
  message a m := if L.job m = k then L.reach a m d else 0
  output _ := 0
  failure _ := 0

variable {L} {rt : Runtime ι π ω ε} {bound : ℕ} {k : κ} {d : ι} {s s' : State ι π ω ε}
  {out : Outcome ι π ω ε}

omit [DecidableEq κ] in
theorem Bounds.own (hL : L.Bounds rt bound) (a : ι) (m : π) : 1 ≤ L.reach a m a := by
  have hs := hL.sends a m a
  rw [if_pos rfl] at hs
  omega

omit [DecidableEq ι] in
theorem message_of_ne {a : ι} {m : π} (h : L.job m ≠ k) :
    (L.weight (ω := ω) (ε := ε) k d).message a m = 0 := by
  simp [weight, h]

theorem Bounds.message_le (hL : L.Bounds rt bound) (a : ι) (m : π) :
    (L.weight (ω := ω) (ε := ε) k d).message a m ≤ bound := by
  simp only [weight]
  split
  · exact hL.le a m d
  · exact Nat.zero_le _

omit [DecidableEq ι] in
theorem weight_act_le (act : Act ι π ω ε) : (L.weight k d).act act ≤ L.arrivals d act := by
  cases act with
  | send a m =>
    simp only [Weight.act, weight, arrivals]
    split
    · exact le_rfl
    · exact Nat.zero_le _
  | emit o => exact le_rfl
  | fail e => exact le_rfl

theorem Bounds.sum_act_le (hL : L.Bounds rt bound) (a : ι) (m : π) :
    ((rt.handle a m).map (L.weight (ω := ω) (ε := ε) k d).act).sum ≤
      (L.weight (ω := ω) (ε := ε) k d).message a m := by
  by_cases hk : L.job m = k
  · have hle : ((rt.handle a m).map (L.weight (ω := ω) (ε := ε) k d).act).sum ≤
        ((rt.handle a m).map (L.arrivals d)).sum := List.sum_le_sum fun act _ => weight_act_le act
    have hs := hL.sends a m d
    simp only [weight, if_pos hk] at hle ⊢
    omega
  · -- the handler sends nothing for another job
    have hzero : ((rt.handle a m).map (L.weight (ω := ω) (ε := ε) k d).act).sum = 0 := by
      apply List.sum_eq_zero
      intro x hx
      obtain ⟨act, hact, rfl⟩ := List.mem_map.mp hx
      cases act with
      | send a' m' => simp [Weight.act, weight, hL.job a m a' m' hact, hk]
      | emit o => rfl
      | fail e => rfl
    omega

section InFlight

variable [Fintype ι]

theorem inFlight_move_le (hL : L.Bounds rt bound) (h : Move rt s out s') :
    (L.weight k d).inFlight s' ≤ (L.weight k d).inFlight s := by
  cases h with
  | enter hw hr => simp [Weight.inFlight, hw, Weight.worker]
  | leave hw hr => simp [Weight.inFlight, hw, Weight.worker]
  | skip hw hq => simp [Weight.inFlight, hw, Weight.worker]
  | ret hw => simp [Weight.inFlight, hw, Weight.worker]
  | @pop l r a rest m q hw hq =>
    have hsum := (L.weight (ω := ω) (ε := ε) k d).sum_queued_pop hq
    have hle := hL.sum_act_le (k := k) (d := d) a m
    simp only [Weight.inFlight, hw, Weight.worker, List.map_append, List.map_cons,
      List.sum_append, List.sum_cons, hsum]
    omega
  | @send l r a c m todo rest hw hd =>
    have hsum := (L.weight (ω := ω) (ε := ε) k d).sum_queued_enqueue s c m
    simp only [Weight.inFlight, hw, Weight.worker, Weight.act, List.map_append, List.map_cons,
      List.sum_append, List.sum_cons, hsum]
    omega
  | drop hw hd => simp [Weight.inFlight, hw, Weight.worker]
  | emit hw => simp [Weight.inFlight, hw, Weight.worker]
  | fail hw => simp [Weight.inFlight, hw, Weight.worker]

theorem inFlight_receive_le (a : ι) (m : π) :
    (L.weight k d).inFlight (s.receive rt a m) ≤
      (L.weight k d).inFlight s + (L.weight (ω := ω) (ε := ε) k d).message a m := by
  by_cases hroom : s.Room rt a
  · rw [receive_of_room m hroom]
    simp only [Weight.inFlight, Weight.sum_queued_enqueue]
    simp only [State.enqueue]
    omega
  · rw [receive_of_not_room m hroom]
    exact Nat.le_add_right _ _

omit [Fintype ι] in
theorem count_job_le_queued (hL : L.Bounds rt bound) :
    ((s.mailbox d).queue.map L.job).count k ≤
      (L.weight (ω := ω) (ε := ε) k d).queued s.mailbox d := by
  simp only [Weight.queued]
  induction (s.mailbox d).queue with
  | nil => exact le_rfl
  | cons m q ih =>
    have hown := hL.own d m
    by_cases hk : L.job m = k
    · simp only [List.map_cons, List.sum_cons, weight, hk, List.count_cons_self, if_pos]
      simp only [weight] at ih
      omega
    · simp only [List.map_cons, List.sum_cons, weight, hk, if_false, List.count_cons_of_ne hk]
      simp only [weight] at ih
      omega

theorem count_job_le_sum (hL : L.Bounds rt bound) :
    ((s.mailbox d).queue.map L.job).count k ≤
      ∑ a, (L.weight (ω := ω) (ε := ε) k d).queued s.mailbox a :=
  (count_job_le_queued hL).trans
    (Finset.single_le_sum (fun _ _ => Nat.zero_le _) (Finset.mem_univ d))

theorem count_job_add_le_inFlight (hL : L.Bounds rt bound) {l r : List (Worker ι π ω ε)} {a : ι}
    {m : π} {todo : List (Act ι π ω ε)} {rest : List ι}
    (hw : s.workers = l ++ .busy a (.send d m :: todo) rest :: r) :
    ((s.mailbox d).queue.map L.job).count k + (if L.job m = k then 1 else 0) ≤
      (L.weight k d).inFlight s := by
  have hcount := count_job_le_sum (k := k) (s := s) (d := d) hL
  have hsend : (if L.job m = k then 1 else 0) ≤ (s.workers.map (L.weight k d).worker).sum := by
    rw [hw]
    simp only [List.map_append, List.map_cons, List.sum_append, List.sum_cons, Weight.worker,
      Weight.act, weight]
    have hown := hL.own d m
    split <;> omega
  simp only [Weight.inFlight]
  omega

end InFlight

omit [DecidableEq ι] in
theorem length_eq_sum_count {jobs : Finset κ} (hJ : ∀ m ∈ (s.mailbox d).queue, L.job m ∈ jobs) :
    (s.mailbox d).queue.length = ∑ k ∈ jobs, ((s.mailbox d).queue.map L.job).count k := by
  have hsum := Multiset.sum_count_eq_card (s := jobs) (m := ↑((s.mailbox d).queue.map L.job)) (by
    intro k hk
    obtain ⟨m, hm, rfl⟩ := List.mem_map.mp (Multiset.mem_coe.mp hk)
    exact hJ m hm)
  simpa using hsum.symm

variable [Fintype ι]

/-- While every job stays within `bound`, a mailbox that holds `bound` messages for each
outstanding job has room for a message that a worker is about to send. -/
theorem length_lt_of_send (hL : L.Bounds rt bound) {jobs : Finset κ}
    (hJ : ∀ m ∈ (s.mailbox d).queue, L.job m ∈ jobs)
    (hle : ∀ k, (L.weight k d).inFlight s ≤ bound) {l r : List (Worker ι π ω ε)} {a : ι} {m : π}
    {todo : List (Act ι π ω ε)} {rest : List ι}
    (hw : s.workers = l ++ .busy a (.send d m :: todo) rest :: r) (hm : L.job m ∈ jobs) :
    (s.mailbox d).queue.length < jobs.card * bound := by
  have hone : (∑ k ∈ jobs, if L.job m = k then 1 else 0) = 1 := by simp [hm]
  calc (s.mailbox d).queue.length
      < (s.mailbox d).queue.length + 1 := Nat.lt_succ_self _
    _ = ∑ k ∈ jobs, (((s.mailbox d).queue.map L.job).count k + if L.job m = k then 1 else 0) := by
      rw [Finset.sum_add_distrib, hone, ← length_eq_sum_count hJ]
    _ ≤ ∑ _k ∈ jobs, bound :=
      Finset.sum_le_sum fun k _ => (count_job_add_le_inFlight hL hw).trans (hle k)
    _ = jobs.card * bound := by simp

theorem length_le (hL : L.Bounds rt bound) {jobs : Finset κ}
    (hJ : ∀ m ∈ (s.mailbox d).queue, L.job m ∈ jobs)
    (hle : ∀ k, (L.weight k d).inFlight s ≤ bound) :
    (s.mailbox d).queue.length ≤ jobs.card * bound := by
  calc (s.mailbox d).queue.length
      = ∑ k ∈ jobs, ((s.mailbox d).queue.map L.job).count k := length_eq_sum_count hJ
    _ ≤ ∑ _k ∈ jobs, bound := Finset.sum_le_sum fun k _ =>
      (count_job_le_sum hL).trans ((Nat.le_add_right _ _).trans (hle k))
    _ = jobs.card * bound := by simp

end Load

omit [DecidableEq κ] in
theorem Change.mailbox {rt : Runtime ι π ω ε} {s s' : State ι π ω ε} (h : Change rt s s') (a : ι) :
    (s'.mailbox a).capacity = (s.mailbox a).capacity ∧
      (s'.mailbox a).active = (s.mailbox a).active := by
  have hupdate (b : ι) (q : List π) :
      (Function.update s.mailbox b ((s.mailbox b).withQueue q) a).capacity =
          (s.mailbox a).capacity ∧
        (Function.update s.mailbox b ((s.mailbox b).withQueue q) a).active =
          (s.mailbox a).active := by
    by_cases hab : a = b
    · subst hab
      simp [Mailbox.withQueue]
    · simp [hab]
  cases h with
  | stay => exact ⟨rfl, rfl⟩
  | halt => exact ⟨rfl, rfl⟩
  | receive d m =>
    by_cases hd : s.Room rt d
    · rw [receive_of_room m hd]
      exact hupdate _ _
    · rw [receive_of_not_room m hd]
      exact ⟨rfl, rfl⟩
  | move hm =>
    cases hm with
    | pop hw hq => exact hupdate _ _
    | send hw hd => exact hupdate _ _
    | _ => exact ⟨rfl, rfl⟩

end ActorRuntime
