import Svitock.ActorRuntime

namespace ActorRuntime

variable {ι π ω ε : Type*} [DecidableEq ι] {rt : Runtime ι π ω ε}

def Worker.todo : Worker ι π ω ε → List (Act ι π ω ε)
  | .busy _ todo _ => todo
  | _ => []

def Act.Safe (P : ι → π → Prop) : Act ι π ω ε → Prop
  | .send d m => P d m
  | .emit _ => True
  | .fail _ => False

structure Everywhere (P : ι → π → Prop) (s : State ι π ω ε) : Prop where
  queue : ∀ a, ∀ m ∈ (s.mailbox a).queue, P a m
  todo : ∀ w ∈ s.workers, ∀ act ∈ w.todo, act.Safe P

/-- Handling a message that satisfies `P` neither fails nor sends one that does not. -/
def Closed (rt : Runtime ι π ω ε) (P : ι → π → Prop) : Prop :=
  ∀ a m, P a m → ∀ act ∈ rt.handle a m, act.Safe P

variable {P : ι → π → Prop} {s s' : State ι π ω ε} {out : Outcome ι π ω ε}

omit [DecidableEq ι] in
theorem forall_workers_swap {Q : Worker ι π ω ε → Prop} {ws l r : List (Worker ι π ω ε)}
    {w w' : Worker ι π ω ε} (h : ∀ x ∈ ws, Q x) (hw : ws = l ++ w :: r) (hw' : Q w') :
    ∀ x ∈ l ++ w' :: r, Q x := by
  intro x hx
  rcases List.mem_append.mp hx with hl | hr
  · exact h x (by simp [hw, hl])
  · rcases List.mem_cons.mp hr with rfl | hr
    · exact hw'
    · exact h x (by simp [hw, hr])

theorem Everywhere.enqueue (h : Everywhere P s) {d : ι} {m : π} (hm : P d m) :
    ∀ a, ∀ x ∈ ((s.enqueue d m).mailbox a).queue, P a x := by
  intro a x hx
  by_cases ha : a = d
  · subst ha
    rw [enqueue_queue_self, List.mem_append, List.mem_singleton] at hx
    rcases hx with hx | rfl
    · exact h.queue a x hx
    · exact hm
  · rw [enqueue_mailbox_of_ne s m ha] at hx
    exact h.queue a x hx

/-- A closed property is an invariant, and under it no handler fails. -/
theorem Everywhere.move (hP : Closed rt P) (hm : Move rt s out s') (h : Everywhere P s) :
    Everywhere P s' ∧ s'.failed = s.failed := by
  have hold {l r : List (Worker ι π ω ε)} {w : Worker ι π ω ε} (hw : s.workers = l ++ w :: r) :
      ∀ act ∈ w.todo, act.Safe P := h.todo w (by simp [hw])
  cases hm with
  | enter hw hr => exact ⟨⟨h.queue, forall_workers_swap h.todo hw (by simp [Worker.todo])⟩, rfl⟩
  | leave hw hr => exact ⟨⟨h.queue, forall_workers_swap h.todo hw (by simp [Worker.todo])⟩, rfl⟩
  | skip hw hq => exact ⟨⟨h.queue, forall_workers_swap h.todo hw (by simp [Worker.todo])⟩, rfl⟩
  | ret hw => exact ⟨⟨h.queue, forall_workers_swap h.todo hw (by simp [Worker.todo])⟩, rfl⟩
  | @pop l r a rest m q hw hq =>
    have ha : P a m := h.queue a m (by simp [hq])
    refine ⟨⟨fun b x hx => ?_, forall_workers_swap h.todo hw (hP a m ha)⟩, rfl⟩
    by_cases hb : b = a
    · subst hb
      exact h.queue b x (by simp_all)
    · exact h.queue b x (by simpa [hb] using hx)
  | send hw hd =>
    have ht := List.forall_mem_cons.mp (hold hw)
    exact ⟨⟨h.enqueue ht.1, forall_workers_swap h.todo hw ht.2⟩, rfl⟩
  | drop hw hd =>
    exact ⟨⟨h.queue, forall_workers_swap h.todo hw (List.forall_mem_cons.mp (hold hw)).2⟩, rfl⟩
  | emit hw =>
    exact ⟨⟨h.queue, forall_workers_swap h.todo hw (List.forall_mem_cons.mp (hold hw)).2⟩, rfl⟩
  | fail hw => exact absurd (List.forall_mem_cons.mp (hold hw)).1 id

theorem Everywhere.receive (h : Everywhere P s) {d : ι} {m : π} (hm : P d m) :
    Everywhere P (s.receive rt d m) := by
  by_cases hd : s.Room rt d
  · rw [receive_of_room m hd]
    exact ⟨h.enqueue hm, h.todo⟩
  · rw [receive_of_not_room m hd]
    exact ⟨h.queue, h.todo⟩

def HoldsSuffix (rt : Runtime ι π ω ε) (s : State ι π ω ε) : Prop :=
  ∀ w ∈ s.workers, ∀ a todo rest, w = .busy a todo rest → ∃ m, todo <:+ rt.handle a m

omit [DecidableEq ι] in
theorem HoldsSuffix.suffix (h : HoldsSuffix rt s) {l r : List (Worker ι π ω ε)} {a : ι}
    {todo : List (Act ι π ω ε)} {rest : List ι} (hw : s.workers = l ++ .busy a todo rest :: r) :
    ∃ m, todo <:+ rt.handle a m :=
  h (.busy a todo rest) (by simp [hw]) a todo rest rfl

theorem HoldsSuffix.change (h : HoldsSuffix rt s) (hc : Change rt s s') : HoldsSuffix rt s' := by
  cases hc with
  | stay => exact h
  | halt => exact h
  | receive d m =>
    rw [HoldsSuffix, receive_workers]
    exact h
  | move hm =>
    -- only `pop` starts a handler; the other actions drop the head of what is left
    have tail {l r : List (Worker ι π ω ε)} {a : ι} {act : Act ι π ω ε}
        {todo : List (Act ι π ω ε)} {rest : List ι}
        (hw : s.workers = l ++ .busy a (act :: todo) rest :: r) :
        ∀ b t u, Worker.busy a todo rest = .busy b t u → ∃ m, t <:+ rt.handle b m := by
      rintro b t u ⟨⟩
      obtain ⟨m, hm⟩ := h.suffix hw
      exact ⟨m, (List.suffix_cons act todo).trans hm⟩
    cases hm with
    | enter hw hr => exact forall_workers_swap h hw (by rintro a t u ⟨⟩)
    | leave hw hr => exact forall_workers_swap h hw (by rintro a t u ⟨⟩)
    | skip hw hq => exact forall_workers_swap h hw (by rintro a t u ⟨⟩)
    | ret hw => exact forall_workers_swap h hw (by rintro a t u ⟨⟩)
    | @pop l r a rest m q hw hq =>
      refine forall_workers_swap h hw ?_
      rintro b t u ⟨⟩
      exact ⟨m, List.suffix_rfl⟩
    | send hw hd => exact forall_workers_swap h hw (tail hw)
    | drop hw hd => exact forall_workers_swap h hw (tail hw)
    | emit hw => exact forall_workers_swap h hw (tail hw)
    | fail hw => exact forall_workers_swap h hw (tail hw)

end ActorRuntime
