import Svitock.RoundRobin
import Svitock.Transition

/-!
# The connection pool

`infrastructure/database/postgres_pool.cpp` and its callers, the operations of
`infrastructure/repositories/*.cpp`. Connections are handed out round robin and
never handed back, so two transactions meet on one connection exactly when a
call outlasts a whole turn of the pool.
-/

namespace Svitock

open Transition

/-- The repository operations. Each acquires a connection, opens a transaction on
it and ends that at the latest when it returns. -/
inductive Operation
  | messageCreate
  | messageGetByChat
  | userFindByUsername
  | userCreate
  | chatCreate
  | chatFindById
  deriving DecidableEq, Repr

inductive Phase
  | acquired
  | transaction
  | ended
  deriving DecidableEq, Repr

structure Call where
  operation : Operation
  connection : ℕ
  phase : Phase
  deriving DecidableEq, Repr

/-- The constructor throws for size zero. -/
structure PostgresPool where
  size : ℕ
  pos : 0 < size

namespace PostgresPool

/-- `acquire` on the value of the counter: the index of the connection and the new
value. The counter is a 64-bit word. -/
def acquire (pool : PostgresPool) (next : ℕ) : ℕ × ℕ := (next % pool.size, (next + 1) % 2 ^ 64)

structure State where
  next : ℕ
  calls : List Call

def start : State := ⟨0, []⟩

inductive Label
  | acquire (operation : Operation)
  | openTransaction (k : ℕ)
  | finish (k : ℕ)

/-- A call can also end without a transaction, when opening one throws. -/
def step (pool : PostgresPool) (s : State) : Label → Option State
  | .acquire operation =>
    let (index, next) := pool.acquire s.next
    some ⟨next, s.calls ++ [⟨operation, index, .acquired⟩]⟩
  | .openTransaction k =>
    match s.calls[k]? with
    | some c =>
      if c.phase = .acquired then
        some { s with calls := s.calls.set k { c with phase := .transaction } }
      else none
    | none => none
  | .finish k =>
    match s.calls[k]? with
    | some c =>
      if c.phase = .ended then none
      else some { s with calls := s.calls.set k { c with phase := .ended } }
    | none => none

def inProgress (s : State) : ℕ := s.calls.countP fun c => c.phase ≠ .ended

/-- No connection has two open transactions. -/
def Exclusive (s : State) : Prop :=
  ∀ (i j : ℕ) (c d : Call), s.calls[i]? = some c → s.calls[j]? = some d →
    c.phase = .transaction → d.phase = .transaction → c.connection = d.connection → i = j

/-- When a call acquires, every call in progress is among the last `size - 1` that
did: none is still there when the `size`-th call after it acquires. -/
def withinTurn (pool : PostgresPool) (s : State) : Label → Bool
  | .acquire _ =>
    s.calls.zipIdx.all fun x => x.1.phase = .ended || s.calls.length < x.2 + pool.size
  | _ => true

def connections (s : State) : List ℕ := s.calls.map Call.connection

def Label.isAcquire : Label → Bool
  | .acquire _ => true
  | _ => false

def acquires (ls : List Label) : ℕ := ls.countP Label.isAcquire

/-- Fewer than `size` further calls have acquired since any call that has a transaction
open did. -/
def timely (pool : PostgresPool) (s : State) : Bool :=
  s.calls.zipIdx.all fun x =>
    x.1.phase ≠ .transaction || s.calls.length - (x.2 + 1) < pool.size

variable {pool : PostgresPool} {s s' : State} {l : Label} {ls : List Label}

theorem step_cases (hs : step pool s l = some s') :
    (∃ operation, l = .acquire operation ∧ s' = ⟨(pool.acquire s.next).2,
      s.calls ++ [⟨operation, (pool.acquire s.next).1, .acquired⟩]⟩) ∨
    (l.isAcquire = false ∧ ∃ k c phase, s.calls[k]? = some c ∧ c.phase ≠ .ended ∧
      s' = { s with calls := s.calls.set k { c with phase := phase } }) := by
  cases l with
  | acquire operation => exact .inl ⟨operation, rfl, (Option.some.inj hs).symm⟩
  | openTransaction k =>
    simp only [PostgresPool.step] at hs
    split at hs
    · next c hc =>
      split at hs
      · next hp => exact .inr ⟨rfl, k, c, _, hc, by simp [hp], (Option.some.inj hs).symm⟩
      · cases hs
    · cases hs
  | finish k =>
    simp only [PostgresPool.step] at hs
    split at hs
    · next c hc =>
      split at hs
      · cases hs
      · next hp => exact .inr ⟨rfl, k, c, _, hc, hp, (Option.some.inj hs).symm⟩
    · cases hs

structure Numbered (pool : PostgresPool) (s : State) : Prop where
  next : s.next = s.calls.length % 2 ^ 64
  connection : ∀ (i : ℕ) (c : Call), s.calls[i]? = some c → c.connection = i % 2 ^ 64 % pool.size

theorem Numbered.acquire (h : Numbered pool s) (operation : Operation) :
    Numbered pool ⟨(pool.acquire s.next).2,
      s.calls ++ [⟨operation, (pool.acquire s.next).1, .acquired⟩]⟩ := by
  refine ⟨?_, fun i c hc => ?_⟩
  · simp [PostgresPool.acquire, h.next]
  · rcases getElem?_append_singleton_cases hc with hc | ⟨rfl, rfl⟩
    · exact h.connection i c hc
    · simp [PostgresPool.acquire, h.next]

theorem Numbered.set (h : Numbered pool s) {k : ℕ} {c : Call} (hc : s.calls[k]? = some c)
    (phase : Phase) :
    Numbered pool { s with calls := s.calls.set k { c with phase := phase } } := by
  refine ⟨by simpa using h.next, fun i d hd => ?_⟩
  rcases getElem?_set_cases hd with ⟨rfl, rfl⟩ | ⟨-, hd⟩
  · exact h.connection i c hc
  · exact h.connection i d hd

theorem numbered_of_runs {C : State → Label → Prop} (h : Run (step pool) C start ls s) :
    Numbered pool s := by
  refine h.invariant ⟨rfl, by simp [start]⟩ fun s l s' hi _ hs => ?_
  rcases step_cases hs with ⟨operation, rfl, rfl⟩ | ⟨-, k, c, phase, hc, -, rfl⟩
  · exact hi.acquire operation
  · exact hi.set hc phase

/-- The counter keeps its residue: it does not wrap, or wraps at a multiple of the size. -/
theorem mod_mod_size {i : ℕ} (h : pool.size ∣ 2 ^ 64 ∨ i < 2 ^ 64) :
    i % 2 ^ 64 % pool.size = i % pool.size := by
  rcases h with h | h
  · exact Nat.mod_mod_of_dvd i h
  · rw [Nat.mod_eq_of_lt h]

theorem Numbered.connection_inj (h : Numbered pool s)
    (hwrap : pool.size ∣ 2 ^ 64 ∨ s.calls.length ≤ 2 ^ 64) {i j : ℕ} {c d : Call}
    (hc : s.calls[i]? = some c) (hd : s.calls[j]? = some d)
    (hle : i ≤ j) (hlt : j < i + pool.size) (heq : c.connection = d.connection) : i = j := by
  have hi := (List.getElem?_eq_some_iff.mp hc).1
  have hj := (List.getElem?_eq_some_iff.mp hd).1
  rw [h.connection i c hc, h.connection j d hd, mod_mod_size (hwrap.imp_right fun hw => by omega),
    mod_mod_size (hwrap.imp_right fun hw => by omega)] at heq
  have hfirst : i ∈ Finset.Ico i (i + pool.size) := by
    rw [Finset.mem_Ico]
    omega
  have hsecond : j ∈ Finset.Ico i (i + pool.size) := by
    rw [Finset.mem_Ico]
    omega
  exact Nat.mod_injOn_Ico i pool.size hfirst hsecond heq

theorem Numbered.exclusive (h : Numbered pool s)
    (hwrap : pool.size ∣ 2 ^ 64 ∨ s.calls.length ≤ 2 ^ 64)
    (hrecent : ∀ (i : ℕ) (c : Call), s.calls[i]? = some c → c.phase = .transaction →
      s.calls.length ≤ i + pool.size) : Exclusive s := by
  intro i j c d hc hd hcp hdp heq
  have hi := (List.getElem?_eq_some_iff.mp hc).1
  have hj := (List.getElem?_eq_some_iff.mp hd).1
  rcases Nat.le_total i j with hle | hle
  · have hfirst := hrecent i c hc hcp
    exact h.connection_inj hwrap hc hd hle (by omega) heq
  · have hfirst := hrecent j d hd hdp
    exact (h.connection_inj hwrap hd hc hle (by omega) heq.symm).symm

structure Turns (pool : PostgresPool) (s : State) : Prop extends Numbered pool s where
  recent : ∀ (i : ℕ) (c : Call), s.calls[i]? = some c → c.phase ≠ .ended →
    s.calls.length ≤ i + pool.size

theorem Turns.acquire (h : Turns pool s) (operation : Operation)
    (hw : withinTurn pool s (.acquire operation) = true) :
    Turns pool ⟨(pool.acquire s.next).2,
      s.calls ++ [⟨operation, (pool.acquire s.next).1, .acquired⟩]⟩ := by
  have hpos := pool.pos
  refine ⟨h.toNumbered.acquire operation, fun i c hc hp => ?_⟩
  simp only [List.length_append, List.length_singleton]
  rcases getElem?_append_singleton_cases hc with hc | ⟨rfl, rfl⟩
  · have hrecent := List.all_eq_true.mp hw (c, i) (List.mem_zipIdx_iff_getElem?.mpr hc)
    simp only [hp, decide_false, Bool.false_or, decide_eq_true_eq] at hrecent
    omega
  · omega

theorem Turns.set (h : Turns pool s) {k : ℕ} {c : Call} {phase : Phase}
    (hc : s.calls[k]? = some c) (hp : c.phase ≠ .ended) :
    Turns pool { s with calls := s.calls.set k { c with phase := phase } } := by
  refine ⟨h.toNumbered.set hc phase, fun i d hd hdp => ?_⟩
  rw [List.length_set]
  rcases getElem?_set_cases hd with ⟨rfl, rfl⟩ | ⟨-, hd⟩
  · exact h.recent i c hc hp
  · exact h.recent i d hd hdp

theorem turns_of_runs (h : Run (step pool) (fun s l => withinTurn pool s l = true) start ls s) :
    Turns pool s := by
  refine h.invariant ⟨⟨rfl, by simp [start]⟩, by simp [start]⟩ fun s l s' hi hw hs => ?_
  rcases step_cases hs with ⟨operation, rfl, rfl⟩ | ⟨-, k, c, phase, hc, hp, rfl⟩
  · exact hi.acquire operation hw
  · exact hi.set hc hp

/-- No connection has two open transactions as long as no call outlasts a turn of
the pool and the counter does not wrap in the middle of one. -/
theorem connections_exclusive
    (h : Run (step pool) (fun s l => withinTurn pool s l = true) start ls s)
    (hwrap : pool.size ∣ 2 ^ 64 ∨ s.calls.length ≤ 2 ^ 64) : Exclusive s := by
  have hturns := turns_of_runs h
  refine hturns.toNumbered.exclusive hwrap fun i c hc hp => ?_
  exact hturns.recent i c hc (by simp [hp])

def two : PostgresPool := ⟨2, by decide⟩

theorem connections_exclusive_two :
    ∃ s, Run (step two) (fun s l => withinTurn two s l = true) start
        [.acquire .messageCreate, .openTransaction 0, .acquire .userCreate, .openTransaction 1,
          .finish 0, .acquire .messageCreate, .openTransaction 2] s ∧
      inProgress s = 2 ∧ Exclusive s := by
  obtain ⟨s, hrun, hprogress⟩ : ∃ s,
      Run (step two) (fun s l => withinTurn two s l = true) start
        [.acquire .messageCreate, .openTransaction 0, .acquire .userCreate, .openTransaction 1,
          .finish 0, .acquire .messageCreate, .openTransaction 2] s ∧
      inProgress s = 2 := exists_run _ (by decide)
  exact ⟨s, hrun, hprogress, connections_exclusive hrun (.inl (by decide))⟩

/-- A short call next to a long one sends the third call to the connection of the
long one, with never more than two calls in progress. -/
theorem transactions_share_a_connection :
    ∃ s, Run (step two) (fun s _ => inProgress s ≤ two.size) start
        [.acquire .messageGetByChat, .openTransaction 0, .acquire .messageCreate,
          .openTransaction 1, .finish 1, .acquire .messageCreate, .openTransaction 2] s ∧
      inProgress s ≤ two.size ∧ ¬ Exclusive s := by
  obtain ⟨s, hrun, hprogress, h0, h2⟩ : ∃ s,
      Run (step two) (fun s _ => inProgress s ≤ two.size) start
        [.acquire .messageGetByChat, .openTransaction 0, .acquire .messageCreate,
          .openTransaction 1, .finish 1, .acquire .messageCreate, .openTransaction 2] s ∧
      inProgress s ≤ two.size ∧
      s.calls[0]? = some ⟨.messageGetByChat, 0, .transaction⟩ ∧
      s.calls[2]? = some ⟨.messageCreate, 0, .transaction⟩ := exists_run _ (by decide)
  refine ⟨s, hrun, hprogress, fun hex => ?_⟩
  cases hex 0 2 _ _ h0 h2 rfl rfl rfl

theorem Numbered.connections_eq (h : Numbered pool s)
    (hwrap : pool.size ∣ 2 ^ 64 ∨ s.calls.length ≤ 2 ^ 64) :
    connections s = RoundRobin.turns pool.size s.calls.length := by
  apply List.ext_getElem
  · simp [connections, RoundRobin.length_turns]
  · intro i hi _
    have hlt : i < s.calls.length := by simpa [connections] using hi
    have hconnection := h.connection i s.calls[i] (List.getElem?_eq_getElem hlt)
    rw [mod_mod_size (hwrap.imp_right fun hw => by omega)] at hconnection
    simpa [connections, RoundRobin.turns] using hconnection

theorem length_calls {C : State → Label → Prop} (h : Run (step pool) C start ls s) :
    s.calls.length = acquires ls := by
  refine h.history (I := fun ls s => s.calls.length = acquires ls) rfl
    fun ls s l s' hi _ hs => ?_
  rcases step_cases hs with ⟨operation, rfl, rfl⟩ | ⟨hl, k, c, phase, -, -, rfl⟩
  · simp [acquires, hi, Label.isAcquire]
  · simp [acquires, hi, hl]

theorem acquires_le_of_prefix {ls' : List Label} (h : ls' <+: ls) : acquires ls' ≤ acquires ls :=
  List.Sublist.countP_le h.sublist

theorem Numbered.exclusive_of_timely (h : Numbered pool s)
    (hwrap : pool.size ∣ 2 ^ 64 ∨ s.calls.length ≤ 2 ^ 64) (ht : timely pool s = true) :
    Exclusive s := by
  refine h.exclusive hwrap fun i c hc hp => ?_
  have hrecent := List.all_eq_true.mp ht (c, i) (List.mem_zipIdx_iff_getElem?.mpr hc)
  simp only [hp, ne_eq, not_true_eq_false, decide_false, Bool.false_or,
    decide_eq_true_eq] at hrecent
  omega

/-- What the pool promises until its counter wraps around: every call gets a connection,
`size` calls in a row get different ones, all are handed out equally often, and a
transaction that ends within a turn has its connection to itself. -/
theorem round_robin (pool : PostgresPool) (ls : List Label) (s : State)
    (h : Run (step pool) Anything start ls s) (hfew : acquires ls < 2 ^ 64) :
    (connections s).length = acquires ls ∧
      (∀ a ∈ connections s, a < pool.size) ∧
      (∀ i, (((connections s).drop i).take pool.size).Nodup) ∧
      (∀ a < pool.size, ∀ b < pool.size,
        (connections s).count a ≤ (connections s).count b + 1) ∧
      (Along (step pool) (fun s => timely pool s = true) start ls →
        Along (step pool) Exclusive start ls) := by
  have hlength := length_calls h
  have hturns := (numbered_of_runs h).connections_eq (.inr (by omega))
  rw [hturns]
  refine ⟨?_, fun a ha => ?_, fun i => ?_, fun a ha b hb => ?_, fun htimely ls' t hpre ht => ?_⟩
  · rw [RoundRobin.length_turns, hlength]
  · exact RoundRobin.lt_of_mem_turns pool.pos ha
  · exact RoundRobin.nodup_window i
  · exact RoundRobin.count_turns_le pool.pos ha hb
  · have hle := acquires_le_of_prefix hpre
    have hlength' := length_calls ht
    exact (numbered_of_runs ht).exclusive_of_timely (.inr (by omega)) (htimely ls' t hpre ht)

theorem round_robin_two :
    ∃ s, Run (step two) Anything start
        [.acquire .messageCreate, .openTransaction 0, .acquire .userCreate, .openTransaction 1,
          .finish 0, .acquire .messageCreate, .openTransaction 2] s ∧
      connections s = [0, 1, 0] ∧
      (∀ i, (((connections s).drop i).take 2).Nodup) ∧
      Along (step two) Exclusive start
        [.acquire .messageCreate, .openTransaction 0, .acquire .userCreate, .openTransaction 1,
          .finish 0, .acquire .messageCreate, .openTransaction 2] := by
  obtain ⟨s, hrun, hconnections⟩ : ∃ s,
      Run (step two) (fun s l => (step two s l).all (timely two) = true) start
        [.acquire .messageCreate, .openTransaction 0, .acquire .userCreate, .openTransaction 1,
          .finish 0, .acquire .messageCreate, .openTransaction 2] s ∧
      connections s = [0, 1, 0] := exists_run _ (by decide)
  obtain ⟨-, -, hnodup, -, hexclusive⟩ := round_robin two _ s hrun.anything (by decide)
  exact ⟨s, hrun.anything, hconnections, hnodup, hexclusive (hrun.along_of_all rfl)⟩

end PostgresPool

end Svitock
