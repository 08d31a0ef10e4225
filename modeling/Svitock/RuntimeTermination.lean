import Svitock.RuntimeInvariants
import Svitock.RuntimeConservation
import Mathlib.Logic.Relation

/-!
# Termination and progress of a worker pool

A handler may send several messages, so the number of waiting messages is not a
measure. Where every message can be given a price that pays for the steps of
its handler and for the messages these send, each pop and each action makes the
pool cheaper, and a pool with a live worker stands still only when it is empty.
-/

namespace ActorRuntime

variable {ι π ω ε : Type*} [DecidableEq ι]

section Measure

variable [Fintype ι] (price : ι → π → ℕ)

def actCost : Act ι π ω ε → ℕ
  | .send d m => price d m + 1
  | _ => 1

def workerCost : Worker ι π ω ε → ℕ
  | .busy _ todo _ => (todo.map (actCost price)).sum + 1
  | _ => 0

def prices : Weight ι π ω ε ℕ := ⟨price, fun _ => 0, fun _ => 0⟩

def budget (s : State ι π ω ε) : ℕ :=
  ∑ a, (prices (ω := ω) (ε := ε) price).queued s.mailbox a +
    (s.workers.map (workerCost price)).sum

/-- A message pays for its pop, its handler's actions and the return. -/
def Affordable (rt : Runtime ι π ω ε) : Prop :=
  ∀ a m, ((rt.handle a m).map (actCost price)).sum + 2 ≤ price a m

variable {price} {rt : Runtime ι π ω ε} {s s' : State ι π ω ε} {out : Outcome ι π ω ε}

theorem budget_idle (h : Move rt s .idle s') : budget price s' = budget price s := by
  cases h with
  | enter hw hr => simp [budget, hw, workerCost]
  | leave hw hr => simp [budget, hw, workerCost]
  | skip hw hq => simp [budget, hw, workerCost]

theorem budget_lt (hp : Affordable price rt) (h : Move rt s out s') (ho : out ≠ .idle) :
    budget price s' < budget price s := by
  cases h with
  | enter hw hr => exact absurd rfl ho
  | leave hw hr => exact absurd rfl ho
  | skip hw hq => exact absurd rfl ho
  | ret hw =>
    simp [budget, hw, workerCost]
  | @pop l r a rest m q hw hq =>
    -- the price of the message leaves the mailbox; its handler costs less by one
    have hm := hp a m
    have hs := (prices (ω := ω) (ε := ε) price).sum_queued_pop hq
    simp only [budget, hw, workerCost, List.map_append, List.map_cons, List.sum_append,
      List.sum_cons, hs]
    simp only [prices] at hs ⊢
    omega
  | @send l r a d m todo rest hw hd =>
    -- the action had paid for the new message
    have hs := (prices (ω := ω) (ε := ε) price).sum_queued_enqueue s d m
    simp only [budget, hw, workerCost, actCost, List.map_append, List.map_cons, List.sum_append,
      List.sum_cons, hs]
    simp only [prices] at hs ⊢
    omega
  | drop hw hd =>
    simp only [budget, hw, workerCost, actCost, List.map_append, List.map_cons, List.sum_append,
      List.sum_cons]
    omega
  | emit hw =>
    simp only [budget, hw, workerCost, actCost, List.map_append, List.map_cons, List.sum_append,
      List.sum_cons]
    omega
  | fail hw =>
    simp only [budget, hw, workerCost, actCost, List.map_append, List.map_cons, List.sum_append,
      List.sum_cons]
    omega

end Measure

section Progress

variable (rt : Runtime ι π ω ε)

def IdleStep (s s' : State ι π ω ε) : Prop := ∃ i, s.workerStep rt i = some (.idle, s')

def WorkStep (s s' : State ι π ω ε) : Prop :=
  ∃ i out, out ≠ Outcome.idle ∧ s.workerStep rt i = some (out, s')

/-- The next step of work, after any number of idle ones. -/
def Advance (s s' : State ι π ω ε) : Prop :=
  ∃ t, Relation.ReflTransGen (IdleStep rt) s t ∧ WorkStep rt t s'

variable {rt} {s : State ι π ω ε} {i : ℕ}

theorem WorkStep.advance {s' : State ι π ω ε} (h : WorkStep rt s s') : Advance rt s s' :=
  ⟨s, .refl, h⟩

theorem IdleStep.advance {t s' : State ι π ω ε} (h : IdleStep rt s t) (ha : Advance rt t s') :
    Advance rt s s' := by
  obtain ⟨u, hu, hw⟩ := ha
  exact ⟨u, .head h hu, hw⟩

theorem advance_of_busy {a : ι} {todo : List (Act ι π ω ε)} {rest : List ι}
    (hf : s.failed = []) (hi : s.workers[i]? = some (.busy a todo rest)) :
    ∃ s', Advance rt s s' := by
  cases todo with
  | nil =>
    exact ⟨_, WorkStep.advance ⟨i, .returned, by simp, by simp [State.workerStep, hf, hi]; rfl⟩⟩
  | cons act todo =>
    have hp : (s.perform rt i (.busy a todo rest) act).1 ≠ .idle := by
      cases act with
      | send d m =>
        by_cases hd : s.Room rt d
        · simp [State.perform, send_of_room m hd]
        · simp [State.perform, send_of_not_room m hd]
      | emit o => simp [State.perform]
      | fail e => simp [State.perform]
    exact ⟨_, WorkStep.advance ⟨i, _, hp, by simp [State.workerStep, hf, hi]; rfl⟩⟩

theorem advance_of_pop {a : ι} {rest : List ι} (hf : s.failed = [])
    (hi : s.workers[i]? = some (.poll (a :: rest))) (hq : (s.mailbox a).queue ≠ []) :
    ∃ s', Advance rt s s' := by
  obtain ⟨m, q, hmq⟩ := List.exists_cons_of_ne_nil hq
  exact ⟨_, WorkStep.advance ⟨i, .popped a m, by simp,
    by simp [State.workerStep, hf, hi, Mailbox.pop, hmq]; rfl⟩⟩

theorem idle_skip {a : ι} {rest : List ι} (hf : s.failed = [])
    (hi : s.workers[i]? = some (.poll (a :: rest))) (hq : (s.mailbox a).queue = []) :
    IdleStep rt s { s with workers := s.workers.set i (.poll rest) } :=
  ⟨i, by simp [State.workerStep, hf, hi, Mailbox.pop, hq]⟩

omit [DecidableEq ι] in
theorem getElem?_set_worker {w : Worker ι π ω ε} (hi : s.workers[i]? = some w)
    (w' : Worker ι π ω ε) : (s.workers.set i w')[i]? = some w' := by
  obtain ⟨hlt, -⟩ := List.getElem?_eq_some_iff.mp hi
  simp [hlt]

/-- A worker that will still visit a non-empty mailbox in this round. -/
theorem advance_of_ahead {rest : List ι} (hf : s.failed = [])
    (hi : s.workers[i]? = some (.poll rest)) (hq : ∃ a ∈ rest, (s.mailbox a).queue ≠ []) :
    ∃ s', Advance rt s s' := by
  -- each empty mailbox on the way is an idle step, which changes no mailbox
  induction rest generalizing s with
  | nil => simp at hq
  | cons a rest ih =>
    by_cases ha : (s.mailbox a).queue = []
    · have hrest : ∃ b ∈ rest, (s.mailbox b).queue ≠ [] := by
        obtain ⟨b, hb, hbq⟩ := hq
        rcases List.mem_cons.mp hb with rfl | hb
        · exact absurd ha hbq
        · exact ⟨b, hb, hbq⟩
      obtain ⟨s', hs'⟩ := ih (s := { s with workers := s.workers.set i (.poll rest) }) hf
        (getElem?_set_worker hi _) hrest
      exact ⟨s', (idle_skip hf hi ha).advance hs'⟩
    · exact advance_of_pop hf hi ha

/-- While the pool runs, a worker anywhere in its round gets to a non-empty mailbox. -/
theorem advance_of_waiting {rest : List ι} (hf : s.failed = []) (hr : s.running = true)
    (hi : s.workers[i]? = some (.poll rest)) (hq : ∃ a ∈ rt.order, (s.mailbox a).queue ≠ []) :
    ∃ s', Advance rt s s' := by
  -- on the mailboxes that are left of the round; at its end a whole round begins
  induction rest generalizing s with
  | nil =>
    have he : IdleStep rt s { s with workers := s.workers.set i (.poll rt.order) } :=
      ⟨i, by simp [State.workerStep, hf, hi, hr]⟩
    obtain ⟨s', hs'⟩ : ∃ s', Advance rt { s with workers := s.workers.set i (.poll rt.order) } s' :=
      advance_of_ahead hf (getElem?_set_worker hi _) hq
    exact ⟨s', he.advance hs'⟩
  | cons a rest ih =>
    by_cases ha : (s.mailbox a).queue = []
    · obtain ⟨s', hs'⟩ := ih (s := { s with workers := s.workers.set i (.poll rest) }) hf hr
        (getElem?_set_worker hi _) hq
      exact ⟨s', (idle_skip hf hi ha).advance hs'⟩
    · exact advance_of_pop hf hi ha

theorem Move.running {s' : State ι π ω ε} {out : Outcome ι π ω ε} (h : Move rt s out s') :
    s'.running = s.running := by
  cases h <;> rfl

theorem Move.live {s' : State ι π ω ε} {out : Outcome ι π ω ε} (h : Move rt s out s')
    (hr : s.running = true) : ∃ w ∈ s'.workers, w ≠ .exited := by
  cases h with
  | leave hw hrun => simp [hr] at hrun
  | enter hw hrun => exact ⟨_, List.mem_append_right _ List.mem_cons_self, by simp⟩
  | skip hw hq => exact ⟨_, List.mem_append_right _ List.mem_cons_self, by simp⟩
  | ret hw => exact ⟨_, List.mem_append_right _ List.mem_cons_self, by simp⟩
  | pop hw hq => exact ⟨_, List.mem_append_right _ List.mem_cons_self, by simp⟩
  | send hw hd => exact ⟨_, List.mem_append_right _ List.mem_cons_self, by simp⟩
  | drop hw hd => exact ⟨_, List.mem_append_right _ List.mem_cons_self, by simp⟩
  | emit hw => exact ⟨_, List.mem_append_right _ List.mem_cons_self, by simp⟩
  | fail hw => exact ⟨_, List.mem_append_right _ List.mem_cons_self, by simp⟩

theorem empty_of_no_advance (hf : s.failed = []) (hr : s.running = true)
    (hlive : ∃ w ∈ s.workers, w ≠ .exited) (h : ∀ s', ¬ Advance rt s s') :
    (∀ a ∈ rt.order, (s.mailbox a).queue = []) ∧
      ∀ w ∈ s.workers, ∀ a todo rest, w ≠ .busy a todo rest := by
  have hidle : ∀ w ∈ s.workers, ∀ a todo rest, w ≠ .busy a todo rest := by
    rintro w hw a todo rest rfl
    obtain ⟨i, hi⟩ := List.mem_iff_getElem?.mp hw
    obtain ⟨s', hs'⟩ : ∃ s', Advance rt s s' := advance_of_busy hf hi
    exact h s' hs'
  refine ⟨fun a ha => ?_, hidle⟩
  by_contra hq
  obtain ⟨w, hw, hne⟩ := hlive
  obtain ⟨i, hi⟩ := List.mem_iff_getElem?.mp hw
  cases w with
  | exited => exact hne rfl
  | busy b todo rest => exact hidle _ hw b todo rest rfl
  | poll rest =>
    obtain ⟨s', hs'⟩ := advance_of_waiting hf hr hi ⟨a, ha, hq⟩
    exact h s' hs'

end Progress

end ActorRuntime
