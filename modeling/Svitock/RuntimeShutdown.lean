import Svitock.RuntimeTermination
import Svitock.RuntimeWaiting

namespace ActorRuntime

variable {ι π ω ε : Type*} [DecidableEq ι] {rt : Runtime ι π ω ε} {s s' : State ι π ω ε}
  {out : Outcome ι π ω ε} {c : ℕ}

theorem receive_running (rt : Runtime ι π ω ε) (s : State ι π ω ε) (d : ι) (m : π) :
    (s.receive rt d m).running = s.running := by
  by_cases hd : s.Room rt d
  · rw [receive_of_room m hd]
    rfl
  · rw [receive_of_not_room m hd]

def ShortHandlers (c : ℕ) (rt : Runtime ι π ω ε) : Prop := ∀ a m, (rt.handle a m).length ≤ c

/-- The steps of a worker until it has gone: a pop, the actions and a return for each
mailbox of its round, and its last look at the flag. -/
def Worker.stepsLeft (c : ℕ) : Worker ι π ω ε → ℕ
  | .poll rest => rest.length * (c + 2) + 1
  | .busy _ todo rest => todo.length + 1 + (rest.length * (c + 2) + 1)
  | .exited => 0

def State.stepsLeft (c : ℕ) (s : State ι π ω ε) : ℕ := (s.workers.map (Worker.stepsLeft c)).sum

omit [DecidableEq ι] in
theorem stepsLeft_swap {l r : List (Worker ι π ω ε)} {w w' : Worker ι π ω ε}
    (hw : s.workers = l ++ w :: r) (hw' : s'.workers = l ++ w' :: r)
    (h : w'.stepsLeft c + 1 ≤ w.stepsLeft c) : s'.stepsLeft c + 1 ≤ s.stepsLeft c := by
  simp only [State.stepsLeft, hw, hw', List.map_append, List.map_cons, List.sum_append,
    List.sum_cons]
  omega

omit [DecidableEq ι] in
theorem Worker.stepsLeft_busy (a : ι) (act : Act ι π ω ε) (todo : List (Act ι π ω ε))
    (rest : List ι) :
    (Worker.busy a todo rest).stepsLeft c + 1 ≤ (Worker.busy a (act :: todo) rest).stepsLeft c := by
  simp only [Worker.stepsLeft, List.length_cons]
  omega

/-- Once the pool is stopped, every step of a worker brings the end nearer. -/
theorem Move.stepsLeft (h : Move rt s out s') (hshort : ShortHandlers c rt)
    (hr : s.running = false) : s'.stepsLeft c + 1 ≤ s.stepsLeft c := by
  cases h with
  | enter hw hrun => simp [hr] at hrun
  | leave hw hrun => exact stepsLeft_swap hw rfl (by simp [Worker.stepsLeft])
  | skip hw hq =>
    refine stepsLeft_swap hw rfl ?_
    simp only [Worker.stepsLeft, List.length_cons, Nat.add_mul, Nat.one_mul]
    omega
  | @pop l r a rest m q hw hq =>
    have hm := hshort a m
    refine stepsLeft_swap hw rfl ?_
    simp only [Worker.stepsLeft, List.length_cons, Nat.add_mul, Nat.one_mul]
    omega
  | send hw hd => exact stepsLeft_swap hw rfl (Worker.stepsLeft_busy _ _ _ _)
  | drop hw hd => exact stepsLeft_swap hw rfl (Worker.stepsLeft_busy _ _ _ _)
  | emit hw => exact stepsLeft_swap hw rfl (Worker.stepsLeft_busy _ _ _ _)
  | fail hw => exact stepsLeft_swap hw rfl (Worker.stepsLeft_busy _ _ _ _)
  | ret hw =>
    refine stepsLeft_swap hw rfl ?_
    simp only [Worker.stepsLeft, List.length_nil]
    omega

omit [DecidableEq ι] in
theorem Worker.stepsLeft_le {w : Worker ι π ω ε} (hround : w.ahead <:+ rt.order)
    (htodo : w.todo.length ≤ c) : w.stepsLeft c ≤ rt.order.length * (c + 2) + 1 := by
  have hlength := hround.length_le
  cases w with
  | poll rest =>
    have hmul := Nat.mul_le_mul_right (c + 2) hlength
    simp only [Worker.stepsLeft, Worker.ahead] at hmul ⊢
    omega
  | busy a todo rest =>
    have hmul := Nat.mul_le_mul_right (c + 2) hlength
    simp only [Worker.stepsLeft, Worker.ahead, Worker.todo, List.length_cons, Nat.add_mul,
      Nat.one_mul] at hmul htodo ⊢
    omega
  | exited => exact Nat.zero_le _

omit [DecidableEq ι] in
theorem stepsLeft_le (hshort : ShortHandlers c rt) (hround : InRound rt s)
    (hheld : HoldsSuffix rt s) :
    s.stepsLeft c ≤ s.workers.length * (rt.order.length * (c + 2) + 1) := by
  have htodo : ∀ w ∈ s.workers, w.todo.length ≤ c := by
    intro w hw
    cases w with
    | poll rest => exact Nat.zero_le _
    | exited => exact Nat.zero_le _
    | busy a todo rest =>
      obtain ⟨m, hm⟩ := hheld _ hw a todo rest rfl
      exact hm.length_le.trans (hshort a m)
  have hle := List.sum_le_card_nsmul (s.workers.map (Worker.stepsLeft c))
    (rt.order.length * (c + 2) + 1) (by
      intro x hx
      obtain ⟨w, hw, rfl⟩ := List.mem_map.mp hx
      exact Worker.stepsLeft_le (hround w hw) (htodo w hw))
  simpa [State.stepsLeft] using hle

theorem workerStep_isSome {k : ℕ} {w : Worker ι π ω ε} (hf : s.failed = [])
    (hk : s.workers[k]? = some w) (hw : w ≠ .exited) : (s.workerStep rt k).isSome = true := by
  cases w with
  | exited => exact absurd rfl hw
  | poll rest =>
    cases rest with
    | nil => cases hr : s.running <;> simp [State.workerStep, hf, hk, hr]
    | cons a rest =>
      cases hq : (s.mailbox a).queue with
      | nil => simp [State.workerStep, hf, hk, Mailbox.pop, hq]
      | cons m q => simp [State.workerStep, hf, hk, Mailbox.pop, hq]
  | busy a todo rest =>
    cases todo with
    | nil => simp [State.workerStep, hf, hk]
    | cons act todo => simp [State.workerStep, hf, hk]

end ActorRuntime
