import Svitock.ActorMessage
import Svitock.ActorRuntime
import Svitock.Transition

/-!
# The store of users

`application/use_cases/register_user_use_case.cpp` over
`infrastructure/repositories/postgres_user_repository.cpp`. Each operation of the
repository is a transaction of its own, so a registration takes two atomic steps
on the table: it looks the name up and, if nobody has it, inserts a row.
-/

namespace Svitock

open Transition

/-- A row of the table, and a `User`; `createdAt` counts clock ticks. -/
structure User where
  id : Uuid
  username : String
  passwordHash : String
  createdAt : ℤ
  deriving DecidableEq, Repr

namespace PostgresUserRepository

/-- The first row that the query gives, with the time of the call as its creation time. -/
def findByUsername (users : List User) (username : String) (now : ℤ) : Option User :=
  (users.find? fun user => user.username == username).map fun user => { user with createdAt := now }

/-- The table has no constraint that refuses a row. -/
def create (users : List User) (user : User) : List User × Bool := (users ++ [user], true)

theorem findByUsername_isSome {users : List User} {username : String} {now : ℤ} :
    (findByUsername users username now).isSome = true ↔ username ∈ users.map User.username := by
  simp [findByUsername]

end PostgresUserRepository

namespace RegisterUserUseCase

open PostgresUserRepository

/-- How far a call of `execute` has come. -/
inductive Progress
  | checking
  | creating
  | returned (result : Bool)
  deriving DecidableEq, Repr

structure Call where
  username : String
  passwordHash : String
  progress : Progress
  deriving DecidableEq, Repr

structure State where
  users : List User
  calls : List Call

def start : State := ⟨[], []⟩

/-- The start of `execute`, which refuses an empty name and an empty hash. -/
def execute (username passwordHash : String) : Call :=
  if username = "" ∨ passwordHash = "" then ⟨username, passwordHash, .returned false⟩
  else ⟨username, passwordHash, .checking⟩

inductive Label
  | call (username passwordHash : String)
  | find (k : ℕ) (now : ℤ)
  | create (k : ℕ) (id : Uuid) (now : ℤ)

def step (s : State) : Label → Option State
  | .call username passwordHash =>
    some { s with calls := s.calls ++ [execute username passwordHash] }
  | .find k now =>
    match s.calls[k]? with
    | some ⟨username, passwordHash, .checking⟩ =>
      if (findByUsername s.users username now).isSome then
        some { s with calls := s.calls.set k ⟨username, passwordHash, .returned false⟩ }
      else some { s with calls := s.calls.set k ⟨username, passwordHash, .creating⟩ }
    | _ => none
  | .create k id now =>
    match s.calls[k]? with
    | some ⟨username, passwordHash, .creating⟩ =>
      let (users, result) := PostgresUserRepository.create s.users ⟨id, username, passwordHash, now⟩
      some ⟨users, s.calls.set k ⟨username, passwordHash, .returned result⟩⟩
    | _ => none

abbrev Runs (s : State) (ls : List Label) (s' : State) : Prop := Run step Anything s ls s'

/-- No name has two rows, and no two calls for one name have returned true. -/
structure Unique (s : State) : Prop where
  rows : (s.users.map User.username).Nodup
  calls : ∀ (i j : ℕ) (c d : Call), s.calls[i]? = some c → s.calls[j]? = some d →
    c.progress = .returned true → d.progress = .returned true → c.username = d.username → i = j

/-- A call looks a name up only while no other call for that name is between its own
lookup and its insert. -/
def alone (s : State) : Label → Bool
  | .find k _ =>
    match s.calls[k]? with
    | some c => s.calls.all fun d => !(d.username == c.username && d.progress == .creating)
    | none => true
  | _ => true

variable {s s' : State} {l : Label} {ls : List Label}

inductive Step (s : State) : Label → State → Prop
  | call (username passwordHash : String) : Step s (.call username passwordHash)
      { s with calls := s.calls ++ [execute username passwordHash] }
  | taken {k : ℕ} {username passwordHash : String} {now : ℤ} {before after : List Call}
      (hk : s.calls[k]? = some ⟨username, passwordHash, .checking⟩)
      (hc : s.calls = before ++ ⟨username, passwordHash, .checking⟩ :: after)
      (hu : username ∈ s.users.map User.username) :
      Step s (.find k now)
        { s with calls := before ++ ⟨username, passwordHash, .returned false⟩ :: after }
  | free {k : ℕ} {username passwordHash : String} {now : ℤ} {before after : List Call}
      (hk : s.calls[k]? = some ⟨username, passwordHash, .checking⟩)
      (hc : s.calls = before ++ ⟨username, passwordHash, .checking⟩ :: after)
      (hu : username ∉ s.users.map User.username) :
      Step s (.find k now)
        { s with calls := before ++ ⟨username, passwordHash, .creating⟩ :: after }
  | create {k : ℕ} {username passwordHash : String} {id : Uuid} {now : ℤ}
      {before after : List Call}
      (hc : s.calls = before ++ ⟨username, passwordHash, .creating⟩ :: after) :
      Step s (.create k id now)
        ⟨s.users ++ [⟨id, username, passwordHash, now⟩],
          before ++ ⟨username, passwordHash, .returned true⟩ :: after⟩

theorem step_cases (h : step s l = some s') : Step s l s' := by
  cases l with
  | call username passwordHash =>
    obtain rfl := Option.some.inj h
    exact .call username passwordHash
  | find k now =>
    simp only [step] at h
    split at h
    · next username passwordHash hk =>
      obtain ⟨before, after, hc, hset⟩ := ActorRuntime.split_getElem? hk
      split at h
      · next hf =>
        obtain rfl := Option.some.inj h
        rw [hset]
        exact .taken hk hc (findByUsername_isSome.mp hf)
      · next hf =>
        obtain rfl := Option.some.inj h
        rw [hset]
        exact .free hk hc (mt findByUsername_isSome.mpr hf)
    · cases h
  | create k id now =>
    simp only [step, PostgresUserRepository.create] at h
    split at h
    · next username passwordHash hk =>
      obtain ⟨before, after, hc, hset⟩ := ActorRuntime.split_getElem? hk
      obtain rfl := Option.some.inj h
      rw [hset]
      exact .create hc
    · cases h

def Call.created? (c : Call) : Option String :=
  if c.progress = .returned true then some c.username else none

def Call.claimed? (c : Call) : Option String :=
  if c.progress = .returned true ∨ c.progress = .creating then some c.username else none

/-- The rows are those of the calls that created one, and no name is claimed twice. -/
structure Inv (s : State) : Prop where
  rows : (s.users.map User.username).Perm (s.calls.filterMap Call.created?)
  claimed : (s.calls.filterMap Call.claimed?).Nodup

theorem claimed?_of_created? {c : Call} {username : String} (h : c.created? = some username) :
    c.claimed? = some username := by
  unfold Call.created? at h
  split at h
  · next hp => simpa [Call.claimed?, hp] using h
  · cases h

theorem created_sublist_claimed (calls : List Call) :
    (calls.filterMap Call.created?).Sublist (calls.filterMap Call.claimed?) := by
  induction calls with
  | nil => exact .slnil
  | cons c cs ih =>
    cases hc : c.created? with
    | none =>
      rw [List.filterMap_cons_none hc]
      exact ih.trans ((List.sublist_cons_self c cs).filterMap _)
    | some username =>
      rw [List.filterMap_cons_some hc, List.filterMap_cons_some (claimed?_of_created? hc)]
      exact ih.cons_cons _

/-- What is claimed is in the table, unless a call is about to insert it. -/
theorem mem_users_of_claimed (h : Inv s) {username : String}
    (hm : username ∈ s.calls.filterMap Call.claimed?)
    (hn : ∀ c ∈ s.calls, c.username = username → c.progress ≠ .creating) :
    username ∈ s.users.map User.username := by
  obtain ⟨c, hc, hcu⟩ := List.mem_filterMap.mp hm
  rw [h.rows.mem_iff]
  refine List.mem_filterMap.mpr ⟨c, hc, ?_⟩
  unfold Call.claimed? at hcu
  split at hcu
  · next hp =>
    obtain rfl := Option.some.inj hcu
    rcases hp with hp | hp
    · simp [Call.created?, hp]
    · exact absurd hp (hn c hc rfl)
  · cases hcu

theorem Inv.step (h : Inv s) (ha : alone s l = true) (hs : Step s l s') : Inv s' := by
  cases hs with
  | call username passwordHash =>
    have hc : (execute username passwordHash).created? = none ∧
        (execute username passwordHash).claimed? = none := by
      unfold execute
      split <;> exact ⟨rfl, rfl⟩
    exact ⟨by simpa [hc.1] using h.rows, by simpa [hc.2] using h.claimed⟩
  | taken hk hc hu =>
    have hrows := h.rows
    have hclaimed := h.claimed
    rw [hc] at hrows hclaimed
    exact ⟨by simpa [Call.created?] using hrows, by simpa [Call.claimed?] using hclaimed⟩
  | @free k username passwordHash now before after hk hc hu =>
    have hfree : username ∉ s.calls.filterMap Call.claimed? := by
      refine fun hm => hu (mem_users_of_claimed h hm fun c hcm hcu hcp => ?_)
      simp only [alone, hk, List.all_eq_true] at ha
      simpa [hcu, hcp] using ha c hcm
    have hrows := h.rows
    have hclaimed := h.claimed
    rw [hc] at hrows hclaimed hfree
    refine ⟨by simpa [Call.created?] using hrows, ?_⟩
    simp only [List.filterMap_append, List.filterMap_cons, Call.claimed?] at hclaimed hfree ⊢
    simp only [reduceCtorEq, or_self, if_false, or_true, if_true] at hclaimed hfree ⊢
    exact List.nodup_middle.mpr (List.nodup_cons.mpr ⟨hfree, hclaimed⟩)
  | @create k username passwordHash id now before after hc =>
    have hrows := h.rows
    have hclaimed := h.claimed
    rw [hc] at hrows hclaimed
    refine ⟨?_, by simpa [Call.claimed?] using hclaimed⟩
    simp only [List.filterMap_append, List.filterMap_cons, Call.created?, reduceCtorEq, if_false]
      at hrows
    simp only [List.map_append, List.map_cons, List.map_nil, List.filterMap_append,
      List.filterMap_cons, Call.created?, if_true]
    exact (hrows.append_right [username]).trans
      ((List.perm_append_singleton _ _).trans List.perm_middle.symm)

theorem inv_of_runs (h : Run RegisterUserUseCase.step (fun s l => alone s l = true) start ls s) :
    Inv s :=
  h.invariant ⟨.nil, .nil⟩ fun _ _ _ hi ha hs => hi.step ha (step_cases hs)

/-- Names stay unique in every run in which no call looks a name up between the lookup
and the insert of another call for that name. -/
theorem unique_of_alone
    (h : Run RegisterUserUseCase.step (fun s l => alone s l = true) start ls s) : Unique s := by
  have hi := inv_of_runs h
  have hcreated := hi.claimed.sublist (created_sublist_claimed s.calls)
  refine ⟨hi.rows.nodup_iff.mpr hcreated, fun i j c d hc hd hcp hdp hu => ?_⟩
  have hpair := List.pairwise_filterMap.mp hcreated
  have hne {i j : ℕ} {c d : Call} (hc : s.calls[i]? = some c) (hd : s.calls[j]? = some d)
      (hcp : c.progress = .returned true) (hdp : d.progress = .returned true)
      (hu : c.username = d.username) : ¬ i < j := by
    intro hij
    obtain ⟨hi, rfl⟩ := List.getElem?_eq_some_iff.mp hc
    obtain ⟨hj, rfl⟩ := List.getElem?_eq_some_iff.mp hd
    exact List.pairwise_iff_getElem.mp hpair i j hi hj hij _ (by simp [Call.created?, hcp]) _
      (by simp [Call.created?, hdp]) hu
  rcases Nat.lt_trichotomy i j with hij | hij | hij
  · exact absurd hij (hne hc hd hcp hdp hu)
  · exact hij
  · exact absurd hij (hne hd hc hdp hcp hu.symm)

theorem unique_of_alone_two_calls :
    ∃ s, Run RegisterUserUseCase.step (fun s l => alone s l = true) start
        [.call "ann" "h", .call "ann" "k", .find 0 0, .create 0 1 0, .find 1 0] s ∧
      s.users.map User.username = ["ann"] ∧ Unique s := by
  obtain ⟨s, hrun, husers⟩ : ∃ s, Run RegisterUserUseCase.step (fun s l => alone s l = true) start
        [.call "ann" "h", .call "ann" "k", .find 0 0, .create 0 1 0, .find 1 0] s ∧
      s.users.map User.username = ["ann"] := exists_run _ (by decide)
  exact ⟨s, hrun, husers, unique_of_alone hrun⟩

/-- Two calls that both look the name up before either inserts it. -/
theorem names_are_registered_twice :
    ∃ s, Runs start [.call "ann" "h", .call "ann" "k", .find 0 0, .find 1 0, .create 0 1 0,
        .create 1 2 0] s ∧
      s.users.map User.username = ["ann", "ann"] ∧
      s.calls.map Call.progress = [.returned true, .returned true] ∧ ¬ Unique s := by
  obtain ⟨s, hrun, husers, hcalls⟩ : ∃ s, Runs start [.call "ann" "h", .call "ann" "k", .find 0 0,
        .find 1 0, .create 0 1 0, .create 1 2 0] s ∧
      s.users.map User.username = ["ann", "ann"] ∧
      s.calls.map Call.progress = [.returned true, .returned true] := exists_run _ (by decide)
  refine ⟨s, hrun, husers, hcalls, fun hu => ?_⟩
  have hn := hu.rows
  rw [husers] at hn
  simp at hn

end RegisterUserUseCase

end Svitock
