import Svitock.ActorRuntime
import Svitock.Transition
import Mathlib.Algebra.BigOperators.Group.Finset.Piecewise
import Mathlib.Algebra.BigOperators.Group.List.Basic
import Mathlib.Algebra.Ring.Nat

/-!
# Who owns a message

The worker pool once more, with its messages on the heap. The thread that sends
a message allocates it and owns it until the mailbox takes it; the mailbox keeps a
raw pointer; the worker that pops it owns it until its handler returns, and then
destroys it. A mailbox that is inactive refuses a pointer and leaves it with the
sender, whose destructor runs; a full one refuses a pointer that was already
released, so that nothing refers to the message any more. Those messages are
recorded as lost.
-/

namespace ActorRuntime

structure Pointer (ι π : Type*) where
  address : ℕ
  destination : ι
  payload : π

/-- A worker with the messages that it owns: the one it handles, and the one it is
sending. -/
inductive Owner (ι π ω ε : Type*)
  | poll (rest : List ι)
  | busy (handles : Pointer ι π) (sends : Option (Pointer ι π)) (actor : ι)
      (todo : List (Act ι π ω ε)) (rest : List ι)
  | exited

/-- The pool and the threads outside it that send to it, each between two sends or
with the message it is sending. Addresses are given out in the order of allocation;
`refused` has those for which a send returned false. -/
structure Pool (ι π ω ε : Type*) where
  allocated : ℕ
  destroyed : List ℕ
  lost : List ℕ
  mailbox : ι → Mailbox (Pointer ι π)
  callers : List (Option (Pointer ι π))
  workers : List (Owner ι π ω ε)
  running : Bool
  failed : List ε
  refused : List ℕ

namespace Pool

inductive Label (ι π : Type*)
  | call (k : ℕ) (d : ι) (m : π)
  | callerSend (k : ℕ)
  | alloc (k : ℕ)
  | workerSend (k : ℕ)
  | worker (k : ℕ)
  | halt
  | deactivate (d : ι)
  | drain (d : ι)

def start (ω ε : Type*) {ι π : Type*} (capacity : ι → ℕ) (callers workers : ℕ) : Pool ι π ω ε where
  allocated := 0
  destroyed := []
  lost := []
  mailbox a := ⟨[], capacity a, true⟩
  callers := List.replicate callers none
  workers := List.replicate workers (.poll [])
  running := true
  failed := []
  refused := []

variable {ι π ω ε : Type*} [DecidableEq ι]

def destroy (s : Pool ι π ω ε) (p : Pointer ι π) : Pool ι π ω ε :=
  { s with destroyed := s.destroyed ++ [p.address] }

/-- A push releases the pointer before it knows whether the queue has room. -/
def push (s : Pool ι π ω ε) (d : ι) (p : Pointer ι π) : Pool ι π ω ε × Bool :=
  if (s.mailbox d).active = false then (s.destroy p, false)
  else
    match (s.mailbox d).push p with
    | (b, true) => ({ s with mailbox := Function.update s.mailbox d b }, true)
    | (_, false) => ({ s with lost := s.lost ++ [p.address] }, false)

def send (rt : Runtime ι π ω ε) (s : Pool ι π ω ε) (p : Pointer ι π) : Pool ι π ω ε × Bool :=
  if p.destination ∈ rt.order then s.push p.destination p else (s.destroy p, false)

/-- A send, with a refusal put on record. -/
def deliver (rt : Runtime ι π ω ε) (s : Pool ι π ω ε) (p : Pointer ι π) : Pool ι π ω ε :=
  match s.send rt p with
  | (s', true) => s'
  | (s', false) => { s' with refused := s'.refused ++ [p.address] }

def workerStep (rt : Runtime ι π ω ε) (s : Pool ι π ω ε) (k : ℕ) : Option (Pool ι π ω ε) :=
  match s.workers[k]? with
  | some (.poll []) =>
    if s.running then some { s with workers := s.workers.set k (.poll rt.order) }
    else some { s with workers := s.workers.set k .exited }
  | some (.poll (a :: rest)) =>
    match (s.mailbox a).pop with
    | none => some { s with workers := s.workers.set k (.poll rest) }
    | some (p, b) =>
      some { s with
        workers := s.workers.set k (.busy p none a (rt.handle a p.payload) rest)
        mailbox := Function.update s.mailbox a b }
  | some (.busy p none _ [] rest) =>
    some { s.destroy p with workers := s.workers.set k (.poll rest) }
  | some (.busy p none a (.emit _ :: todo) rest) =>
    some { s with workers := s.workers.set k (.busy p none a todo rest) }
  | some (.busy p none a (.fail e :: todo) rest) =>
    some { s with
      workers := s.workers.set k (.busy p none a todo rest)
      failed := s.failed ++ [e] }
  | _ => none

/-- One step. After a failure nobody moves. `deactivate` and `drain` are the
destructor of a mailbox, which destroys what is still queued. -/
def step (rt : Runtime ι π ω ε) (s : Pool ι π ω ε) (l : Label ι π) : Option (Pool ι π ω ε) :=
  if s.failed.isEmpty = false then none else
  match l with
  | .call k d m =>
    match s.callers[k]? with
    | some none =>
      some { s with
        allocated := s.allocated + 1
        callers := s.callers.set k (some ⟨s.allocated, d, m⟩) }
    | _ => none
  | .callerSend k =>
    match s.callers[k]? with
    | some (some p) => some { s.deliver rt p with callers := s.callers.set k none }
    | _ => none
  | .alloc k =>
    match s.workers[k]? with
    | some (.busy p none a (.send d m :: todo) rest) =>
      some { s with
        allocated := s.allocated + 1
        workers := s.workers.set k (.busy p (some ⟨s.allocated, d, m⟩) a todo rest) }
    | _ => none
  | .workerSend k =>
    match s.workers[k]? with
    | some (.busy p (some q) a todo rest) =>
      some { s.deliver rt q with workers := s.workers.set k (.busy p none a todo rest) }
    | _ => none
  | .worker k => s.workerStep rt k
  | .halt => some { s with running := false }
  | .deactivate d =>
    some { s with mailbox := Function.update s.mailbox d { s.mailbox d with active := false } }
  | .drain d =>
    if (s.mailbox d).active then none else
    match (s.mailbox d).pop with
    | none => none
    | some (p, b) => some { s.destroy p with mailbox := Function.update s.mailbox d b }

abbrev Runs (rt : Runtime ι π ω ε) (s : Pool ι π ω ε) (ls : List (Label ι π)) (s' : Pool ι π ω ε) :
    Prop :=
  Transition.Run (step rt) Transition.Anything s ls s'

def sent? (s : Pool ι π ω ε) : Label ι π → Option (Pointer ι π)
  | .callerSend k => (s.callers[k]?).join
  | .workerSend k =>
    match s.workers[k]? with
    | some (.busy _ sends _ _ _) => sends
    | _ => none
  | _ => none

/-- The step does not push to a mailbox that is active and full. -/
def spare (rt : Runtime ι π ω ε) (s : Pool ι π ω ε) (l : Label ι π) : Bool :=
  (s.sent? l).all fun p =>
    decide (p.destination ∈ rt.order → (s.mailbox p.destination).active = true →
      (s.mailbox p.destination).queue.length < (s.mailbox p.destination).capacity)

variable {rt : Runtime ι π ω ε} {s s' : Pool ι π ω ε} {l : Label ι π}

inductive Delivery (rt : Runtime ι π ω ε) (s : Pool ι π ω ε) (p : Pointer ι π) :
    Pool ι π ω ε → Prop
  | queued (hd : p.destination ∈ rt.order) (ha : (s.mailbox p.destination).active = true)
      (hl : (s.mailbox p.destination).queue.length < (s.mailbox p.destination).capacity) :
      Delivery rt s p { s with
        mailbox := Function.update s.mailbox p.destination
          ((s.mailbox p.destination).withQueue ((s.mailbox p.destination).queue ++ [p])) }
  | destroyed (hd : ¬ (p.destination ∈ rt.order ∧ (s.mailbox p.destination).active = true)) :
      Delivery rt s p
        { s with destroyed := s.destroyed ++ [p.address], refused := s.refused ++ [p.address] }
  | lost (hd : p.destination ∈ rt.order) (ha : (s.mailbox p.destination).active = true)
      (hl : ¬ (s.mailbox p.destination).queue.length < (s.mailbox p.destination).capacity) :
      Delivery rt s p { s with lost := s.lost ++ [p.address], refused := s.refused ++ [p.address] }

theorem deliver_cases (rt : Runtime ι π ω ε) (s : Pool ι π ω ε) (p : Pointer ι π) :
    Delivery rt s p (s.deliver rt p) := by
  unfold deliver send push
  by_cases hd : p.destination ∈ rt.order
  · cases ha : (s.mailbox p.destination).active with
    | false =>
      simp only [hd, if_true]
      exact .destroyed (by simp [ha])
    | true =>
      by_cases hl : (s.mailbox p.destination).queue.length < (s.mailbox p.destination).capacity
      · simp only [hd, ha, hl, Mailbox.push, if_true, Bool.true_eq_false, if_false]
        exact .queued hd ha hl
      · simp only [hd, ha, hl, Mailbox.push, if_true, Bool.true_eq_false, if_false]
        exact .lost hd ha hl
  · simp only [hd, if_false]
    exact .destroyed (by simp [hd])

/-- Every step, with the thread that takes it made visible in the list of threads. -/
inductive Step (rt : Runtime ι π ω ε) (s : Pool ι π ω ε) : Label ι π → Pool ι π ω ε → Prop
  | call {k : ℕ} {d : ι} {m : π} {before after : List (Option (Pointer ι π))}
      (hc : s.callers = before ++ none :: after) :
      Step rt s (.call k d m) { s with
        allocated := s.allocated + 1
        callers := before ++ some ⟨s.allocated, d, m⟩ :: after }
  | callerSend {k : ℕ} {p : Pointer ι π} {t : Pool ι π ω ε}
      {before after : List (Option (Pointer ι π))} (hk : s.sent? (.callerSend k) = some p)
      (hc : s.callers = before ++ some p :: after) (ht : Delivery rt s p t) :
      Step rt s (.callerSend k) { t with callers := before ++ none :: after }
  | alloc {k : ℕ} {p : Pointer ι π} {a d : ι} {m : π} {todo : List (Act ι π ω ε)} {rest : List ι}
      {before after : List (Owner ι π ω ε)}
      (hw : s.workers = before ++ .busy p none a (.send d m :: todo) rest :: after) :
      Step rt s (.alloc k) { s with
        allocated := s.allocated + 1
        workers := before ++ .busy p (some ⟨s.allocated, d, m⟩) a todo rest :: after }
  | workerSend {k : ℕ} {p q : Pointer ι π} {a : ι} {todo : List (Act ι π ω ε)} {rest : List ι}
      {t : Pool ι π ω ε} {before after : List (Owner ι π ω ε)}
      (hk : s.sent? (.workerSend k) = some q)
      (hw : s.workers = before ++ .busy p (some q) a todo rest :: after)
      (ht : Delivery rt s q t) :
      Step rt s (.workerSend k) { t with workers := before ++ .busy p none a todo rest :: after }
  | enter {k : ℕ} {before after : List (Owner ι π ω ε)}
      (hw : s.workers = before ++ .poll [] :: after) (hr : s.running = true) :
      Step rt s (.worker k) { s with workers := before ++ .poll rt.order :: after }
  | leave {k : ℕ} {before after : List (Owner ι π ω ε)}
      (hw : s.workers = before ++ .poll [] :: after) (hr : s.running = false) :
      Step rt s (.worker k) { s with workers := before ++ .exited :: after }
  | skip {k : ℕ} {a : ι} {rest : List ι} {before after : List (Owner ι π ω ε)}
      (hw : s.workers = before ++ .poll (a :: rest) :: after) (hq : (s.mailbox a).queue = []) :
      Step rt s (.worker k) { s with workers := before ++ .poll rest :: after }
  | pop {k : ℕ} {a : ι} {rest : List ι} {p : Pointer ι π} {q : List (Pointer ι π)}
      {before after : List (Owner ι π ω ε)}
      (hw : s.workers = before ++ .poll (a :: rest) :: after)
      (hq : (s.mailbox a).queue = p :: q) :
      Step rt s (.worker k) { s with
        workers := before ++ .busy p none a (rt.handle a p.payload) rest :: after
        mailbox := Function.update s.mailbox a ((s.mailbox a).withQueue q) }
  | ret {k : ℕ} {p : Pointer ι π} {a : ι} {rest : List ι} {before after : List (Owner ι π ω ε)}
      (hw : s.workers = before ++ .busy p none a [] rest :: after) :
      Step rt s (.worker k) { s with
        destroyed := s.destroyed ++ [p.address]
        workers := before ++ .poll rest :: after }
  | emit {k : ℕ} {p : Pointer ι π} {a : ι} {o : ω} {todo : List (Act ι π ω ε)} {rest : List ι}
      {before after : List (Owner ι π ω ε)}
      (hw : s.workers = before ++ .busy p none a (.emit o :: todo) rest :: after) :
      Step rt s (.worker k) { s with workers := before ++ .busy p none a todo rest :: after }
  | fail {k : ℕ} {p : Pointer ι π} {a : ι} {e : ε} {todo : List (Act ι π ω ε)} {rest : List ι}
      {before after : List (Owner ι π ω ε)}
      (hw : s.workers = before ++ .busy p none a (.fail e :: todo) rest :: after) :
      Step rt s (.worker k) { s with
        workers := before ++ .busy p none a todo rest :: after
        failed := s.failed ++ [e] }
  | halt : Step rt s .halt { s with running := false }
  | deactivate (d : ι) : Step rt s (.deactivate d)
      { s with mailbox := Function.update s.mailbox d { s.mailbox d with active := false } }
  | drain {d : ι} {p : Pointer ι π} {q : List (Pointer ι π)}
      (hq : (s.mailbox d).queue = p :: q) :
      Step rt s (.drain d) { s with
        destroyed := s.destroyed ++ [p.address]
        mailbox := Function.update s.mailbox d ((s.mailbox d).withQueue q) }

theorem workerStep_cases {k : ℕ} (h : s.workerStep rt k = some s') : Step rt s (.worker k) s' := by
  unfold workerStep at h
  split at h
  · next hk =>
    obtain ⟨before, after, hw, hset⟩ := split_getElem? hk
    split at h
    · next hr =>
      obtain rfl := Option.some.inj h
      rw [hset]
      exact .enter hw hr
    · next hr =>
      obtain rfl := Option.some.inj h
      rw [hset]
      exact .leave hw (by simpa using hr)
  · next a rest hk =>
    obtain ⟨before, after, hw, hset⟩ := split_getElem? hk
    unfold Mailbox.pop at h
    cases hq : (s.mailbox a).queue with
    | nil =>
      simp only [hq] at h
      obtain rfl := Option.some.inj h
      rw [hset]
      exact .skip hw hq
    | cons p q =>
      simp only [hq] at h
      obtain rfl := Option.some.inj h
      rw [hset]
      exact .pop hw hq
  · next p a rest hk =>
    obtain ⟨before, after, hw, hset⟩ := split_getElem? hk
    obtain rfl := Option.some.inj h
    rw [hset]
    exact .ret hw
  · next p a o todo rest hk =>
    obtain ⟨before, after, hw, hset⟩ := split_getElem? hk
    obtain rfl := Option.some.inj h
    rw [hset]
    exact .emit hw
  · next p a e todo rest hk =>
    obtain ⟨before, after, hw, hset⟩ := split_getElem? hk
    obtain rfl := Option.some.inj h
    rw [hset]
    exact .fail hw
  · cases h

theorem step_cases (h : step rt s l = some s') : Step rt s l s' := by
  unfold step at h
  by_cases hf : s.failed.isEmpty = false
  · simp [hf] at h
  rw [if_neg hf] at h
  cases l with
  | call k d m =>
    simp only at h
    split at h
    · next hk =>
      obtain ⟨before, after, hc, hset⟩ := split_getElem? hk
      obtain rfl := Option.some.inj h
      rw [hset]
      exact .call hc
    · cases h
  | callerSend k =>
    simp only at h
    split at h
    · next p hk =>
      obtain ⟨before, after, hc, hset⟩ := split_getElem? hk
      obtain rfl := Option.some.inj h
      rw [hset]
      exact .callerSend (by simp [sent?, hk]) hc (deliver_cases rt s p)
    · cases h
  | alloc k =>
    simp only at h
    split at h
    · next p a d m todo rest hk =>
      obtain ⟨before, after, hw, hset⟩ := split_getElem? hk
      obtain rfl := Option.some.inj h
      rw [hset]
      exact .alloc hw
    · cases h
  | workerSend k =>
    simp only at h
    split at h
    · next p q a todo rest hk =>
      obtain ⟨before, after, hw, hset⟩ := split_getElem? hk
      obtain rfl := Option.some.inj h
      rw [hset]
      exact .workerSend (by simp [sent?, hk]) hw (deliver_cases rt s q)
    · cases h
  | worker k => exact workerStep_cases h
  | halt =>
    obtain rfl := Option.some.inj h
    exact .halt
  | deactivate d =>
    obtain rfl := Option.some.inj h
    exact .deactivate d
  | drain d =>
    simp only [Mailbox.pop] at h
    split at h
    · cases h
    · cases hq : (s.mailbox d).queue with
      | nil => simp [hq] at h
      | cons p q =>
        simp only [hq] at h
        obtain rfl := Option.some.inj h
        exact .drain hq

def tally (n : ℕ) (p : Pointer ι π) : ℕ := if p.address = n then 1 else 0

def slots (n : ℕ) (b : Mailbox (Pointer ι π)) : ℕ := (b.queue.map (tally n)).sum

def sending (n : ℕ) (p : Option (Pointer ι π)) : ℕ := p.elim 0 (tally n)

def owns (n : ℕ) : Owner ι π ω ε → ℕ
  | .busy handles sends _ _ _ => tally n handles + sending n sends
  | _ => 0

/-- How many mailbox slots and threads own the message at the address `n`. -/
def owners [Fintype ι] (s : Pool ι π ω ε) (n : ℕ) : ℕ :=
  ∑ a, slots n (s.mailbox a) + (s.callers.map (sending n)).sum + (s.workers.map (owns n)).sum

/-- Nothing is queued, and no thread is sending or handling a message. -/
structure Drained (s : Pool ι π ω ε) : Prop where
  mailbox : ∀ a, (s.mailbox a).queue = []
  callers : ∀ c ∈ s.callers, c = none
  workers : ∀ w ∈ s.workers, ∀ p sends a todo rest, w ≠ .busy p sends a todo rest

/-- Every message that has not been destroyed has one owner, a message whose send
returned false has been destroyed, and once everything is drained nothing is left. -/
structure Owned [Fintype ι] (s : Pool ι π ω ε) : Prop where
  once : ∀ n < s.allocated, n ∉ s.destroyed → s.owners n = 1
  refused : ∀ n ∈ s.refused, n ∈ s.destroyed
  drained : Drained s → ∀ n < s.allocated, n ∈ s.destroyed

omit [DecidableEq ι] in
theorem count_snoc (l : List ℕ) (n : ℕ) (p : Pointer ι π) :
    (l ++ [p.address]).count n = l.count n + tally n p := by
  simp [tally, List.count_append, List.count_singleton]

variable [Fintype ι] {n : ℕ}

theorem sum_slots_update (b : ι → Mailbox (Pointer ι π)) (a : ι) (c : Mailbox (Pointer ι π)) :
    ∑ x, slots n (Function.update b a c x) + slots n (b a) = ∑ x, slots n (b x) + slots n c := by
  have hrest : ∑ x ∈ Finset.univ.erase a, slots n (Function.update b a c x) =
      ∑ x ∈ Finset.univ.erase a, slots n (b x) := by
    apply Finset.sum_congr rfl
    intro x hx
    rw [Function.update_of_ne (Finset.ne_of_mem_erase hx)]
  rw [← Finset.add_sum_erase Finset.univ _ (Finset.mem_univ a),
    ← Finset.add_sum_erase Finset.univ (fun x => slots n (b x)) (Finset.mem_univ a), hrest,
    Function.update_self]
  omega

def stowed (s : Pool ι π ω ε) (n : ℕ) : ℕ :=
  ∑ a, slots n (s.mailbox a) + s.destroyed.count n + s.lost.count n

def account (s : Pool ι π ω ε) (n : ℕ) : ℕ :=
  s.stowed n + (s.callers.map (sending n)).sum + (s.workers.map (owns n)).sum

theorem Delivery.stowed {p : Pointer ι π} (h : Delivery rt s p s') (n : ℕ) :
    s'.stowed n = s.stowed n + tally n p := by
  cases h with
  | queued hd ha hl =>
    have hsum := sum_slots_update (n := n) s.mailbox p.destination
      ((s.mailbox p.destination).withQueue ((s.mailbox p.destination).queue ++ [p]))
    simp only [slots, Mailbox.withQueue_queue, List.map_append, List.sum_append, List.map_cons,
      List.map_nil, List.sum_cons, List.sum_nil] at hsum
    simp only [Pool.stowed, slots]
    omega
  | destroyed hd =>
    simp only [Pool.stowed, count_snoc]
    omega
  | lost hd ha hl =>
    simp only [Pool.stowed, count_snoc]
    omega

omit [Fintype ι] in
theorem Delivery.frame {p : Pointer ι π} (h : Delivery rt s p s') :
    s'.callers = s.callers ∧ s'.workers = s.workers ∧ s'.allocated = s.allocated := by
  cases h <;> exact ⟨rfl, rfl, rfl⟩

theorem sum_map_split {α : Type*} (f : α → ℕ) (before after : List α) (x : α) :
    ((before ++ x :: after).map f).sum = (before.map f).sum + (after.map f).sum + f x := by
  rw [List.map_append, List.map_cons, List.sum_append, List.sum_cons]
  omega

theorem Step.account (h : Step rt s l s') (n : ℕ) :
    s'.account n + (if n < s.allocated then 1 else 0) =
      s.account n + (if n < s'.allocated then 1 else 0) := by
  -- the new address is the only one that the bound lets in
  have hnew : (if n < s.allocated + 1 then 1 else 0) =
      (if n < s.allocated then 1 else 0) + if s.allocated = n then 1 else 0 := by
    split_ifs <;> omega
  cases h with
  | call hc =>
    simp only [Pool.account, stowed, hc, sum_map_split, sending, Option.elim_none,
      Option.elim_some, tally, hnew]
    omega
  | @callerSend k p t before after hk hc ht =>
    obtain ⟨hcallers, hworkers, hallocated⟩ := ht.frame
    have hstowed : t.stowed n = s.stowed n + tally n p := ht.stowed n
    simp only [Pool.account, hc, hworkers, hallocated, sum_map_split, sending, Option.elim_none,
      Option.elim_some]
    change t.stowed n + _ + _ + _ = _
    omega
  | alloc hw =>
    simp only [Pool.account, stowed, hw, sum_map_split, owns, sending, Option.elim_none,
      Option.elim_some, tally, hnew]
    omega
  | @workerSend k p q a todo rest t before after hk hw ht =>
    obtain ⟨hcallers, hworkers, hallocated⟩ := ht.frame
    have hstowed : t.stowed n = s.stowed n + tally n q := ht.stowed n
    simp only [Pool.account, hw, hcallers, hallocated, sum_map_split, owns, sending,
      Option.elim_none, Option.elim_some]
    change t.stowed n + _ + _ + _ = _
    omega
  | enter hw hr => simp only [Pool.account, stowed, hw, sum_map_split, owns]
  | leave hw hr => simp only [Pool.account, stowed, hw, sum_map_split, owns]
  | skip hw hq => simp only [Pool.account, stowed, hw, sum_map_split, owns]
  | @pop k a rest p q before after hw hq =>
    have hsum := sum_slots_update (n := n) s.mailbox a ((s.mailbox a).withQueue q)
    simp only [slots, hq, Mailbox.withQueue_queue, List.map_cons, List.sum_cons] at hsum
    simp only [Pool.account, stowed, slots, hw, sum_map_split, owns, sending, Option.elim_none]
    omega
  | ret hw =>
    simp only [Pool.account, stowed, hw, sum_map_split, owns, sending, Option.elim_none,
      count_snoc]
    omega
  | emit hw => simp only [Pool.account, stowed, hw, sum_map_split, owns]
  | fail hw => simp only [Pool.account, stowed, hw, sum_map_split, owns]
  | halt => rfl
  | deactivate d =>
    have hsum := sum_slots_update (n := n) s.mailbox d { s.mailbox d with active := false }
    simp only [Pool.account, stowed]
    simp only [slots] at hsum ⊢
    omega
  | @drain d p q hq =>
    have hsum := sum_slots_update (n := n) s.mailbox d ((s.mailbox d).withQueue q)
    simp only [slots, hq, Mailbox.withQueue_queue, List.map_cons, List.sum_cons] at hsum
    simp only [Pool.account, stowed, slots, count_snoc]
    omega

/-- Every address that was given out is in exactly one place, and what a send refused
is destroyed or lost. -/
structure Inv (s : Pool ι π ω ε) : Prop where
  account : ∀ n, s.account n = if n < s.allocated then 1 else 0
  refused : ∀ n ∈ s.refused, n ∈ s.destroyed ∨ n ∈ s.lost

omit [DecidableEq ι] in
theorem inv_start (capacity : ι → ℕ) (callers workers : ℕ) :
    Inv (start ω ε (π := π) capacity callers workers) := by
  constructor
  · intro n
    simp [start, Pool.account, stowed, slots, sending, owns]
  · intro n hn
    cases hn

omit [Fintype ι] in
theorem Delivery.refused {p : Pointer ι π} (h : Delivery rt s p s')
    (hi : ∀ n ∈ s.refused, n ∈ s.destroyed ∨ n ∈ s.lost) :
    ∀ n ∈ s'.refused, n ∈ s'.destroyed ∨ n ∈ s'.lost := by
  intro n hn
  cases h with
  | queued hd ha hl => exact hi n hn
  | destroyed hd =>
    rcases List.mem_append.mp hn with hn | hn
    · exact (hi n hn).imp_left (List.mem_append_left _)
    · exact .inl (List.mem_append_right _ hn)
  | lost hd ha hl =>
    rcases List.mem_append.mp hn with hn | hn
    · exact (hi n hn).imp_right (List.mem_append_left _)
    · exact .inr (List.mem_append_right _ hn)

omit [Fintype ι] in
theorem Step.refused (h : Step rt s l s') (hi : ∀ n ∈ s.refused, n ∈ s.destroyed ∨ n ∈ s.lost) :
    ∀ n ∈ s'.refused, n ∈ s'.destroyed ∨ n ∈ s'.lost := by
  cases h with
  | callerSend hk hc ht =>
    have hd := ht.refused hi
    exact hd
  | workerSend hk hw ht =>
    have hd := ht.refused hi
    exact hd
  | ret hw =>
    intro n hn
    exact (hi n hn).imp_left (List.mem_append_left _)
  | drain hq =>
    intro n hn
    exact (hi n hn).imp_left (List.mem_append_left _)
  | _ => exact hi

theorem Inv.step (hi : Inv s) (h : Step rt s l s') : Inv s' := by
  refine ⟨fun n => ?_, h.refused hi.refused⟩
  have hs := h.account n
  rw [hi.account n] at hs
  omega

omit [DecidableEq ι] in
theorem Drained.owners_eq_zero (h : Drained s) (n : ℕ) : s.owners n = 0 := by
  have hslots : ∑ a, slots n (s.mailbox a) = 0 :=
    Finset.sum_eq_zero fun a _ => by simp [slots, h.mailbox a]
  have hcallers : (s.callers.map (sending n)).sum = 0 := by
    apply List.sum_eq_zero
    intro x hx
    obtain ⟨c, hc, rfl⟩ := List.mem_map.mp hx
    rw [h.callers c hc]
    rfl
  have hworkers : (s.workers.map (owns n)).sum = 0 := by
    apply List.sum_eq_zero
    intro x hx
    obtain ⟨w, hw, rfl⟩ := List.mem_map.mp hx
    cases w with
    | poll rest => rfl
    | exited => rfl
    | busy p sends a todo rest => exact absurd rfl (h.workers _ hw p sends a todo rest)
  rw [owners, hslots, hcallers, hworkers]

omit [DecidableEq ι] in
/-- Ownership is as it should be exactly as long as nothing is lost. -/
theorem Inv.owned_iff (hi : Inv s) : Owned s ↔ s.lost = [] := by
  have haccount (n : ℕ) : s.owners n + s.destroyed.count n + s.lost.count n =
      if n < s.allocated then 1 else 0 := by
    have h := hi.account n
    simp only [Pool.account, stowed] at h
    simp only [owners]
    omega
  constructor
  · intro ho
    by_contra hne
    obtain ⟨n, hn⟩ := List.exists_mem_of_ne_nil _ hne
    have hlost : 0 < s.lost.count n := List.count_pos_iff.mpr hn
    have hn' := haccount n
    split_ifs at hn' with hlt
    · have hd : n ∉ s.destroyed := by
        intro hd
        have := List.count_pos_iff.mpr hd
        omega
      have := ho.once n hlt hd
      omega
    · omega
  · intro hlost
    have honce : ∀ n < s.allocated, n ∉ s.destroyed → s.owners n = 1 := by
      intro n hn hd
      have h := haccount n
      rw [if_pos hn, hlost, List.count_eq_zero.mpr hd, List.count_nil] at h
      omega
    refine ⟨honce, ?_, ?_⟩
    · intro n hn
      simpa [hlost] using hi.refused n hn
    · intro hdrained n hn
      by_contra hd
      have h := honce n hn hd
      rw [hdrained.owners_eq_zero n] at h
      omega

omit [Fintype ι] in
theorem Delivery.lost_eq_nil {p : Pointer ι π} (h : Delivery rt s p s') (hp : s.sent? l = some p) :
    s'.lost = [] ↔ s.lost = [] ∧ spare rt s l = true := by
  cases h with
  | queued hd ha hl => simp [spare, hp, hl]
  | destroyed hd =>
    have hspare : spare rt s l = true := by
      simp only [spare, hp, Option.all_some, decide_eq_true_eq]
      exact fun hm ha => absurd ⟨hm, ha⟩ hd
    simp [hspare]
  | lost hd ha hl => simp [spare, hp, hd, ha, hl]

omit [Fintype ι] in
/-- A message is lost by a push to a full mailbox and by nothing else. -/
theorem Step.lost_eq_nil (h : Step rt s l s') :
    s'.lost = [] ↔ s.lost = [] ∧ spare rt s l = true := by
  cases h with
  | callerSend hk hc ht =>
    have hd := ht.lost_eq_nil hk
    exact hd
  | workerSend hk hw ht =>
    have hd := ht.lost_eq_nil hk
    exact hd
  | _ => simp [spare, sent?]

/-- In a run of the pool ownership is as it should be exactly when no step of the run
pushed to a mailbox that was active and full. -/
theorem owned_iff_spare {capacity : ι → ℕ} {callers workers : ℕ} {ls : List (Label ι π)}
    (h : Runs rt (start ω ε capacity callers workers) ls s) :
    Owned s ↔ Transition.Run (step rt) (fun s l => spare rt s l = true)
      (start ω ε capacity callers workers) ls s := by
  have hinv : Inv s :=
    h.invariant (inv_start capacity callers workers) fun _ _ _ hi _ hs => hi.step (step_cases hs)
  rw [hinv.owned_iff]
  constructor
  · apply h.history (I := fun ls t => t.lost = [] → Transition.Run (step rt)
      (fun s l => spare rt s l = true) (start ω ε capacity callers workers) ls t)
    · intro _
      exact .nil
    · intro ls t l u ih _ hs hlost
      obtain ⟨hlost, hspare⟩ := (step_cases hs).lost_eq_nil.mp hlost
      exact .snoc (ih hlost) hspare hs
  · intro h
    apply h.invariant (I := fun t => t.lost = [])
    · rfl
    · intro t l u hlost hspare hs
      exact (step_cases hs).lost_eq_nil.mpr ⟨hlost, hspare⟩

end Pool

end ActorRuntime
