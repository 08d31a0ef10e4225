import Svitock.UserStore

/-!
# Registering and logging in

`application/use_cases/register_user_use_case.cpp` and `login_user_use_case.cpp`,
called one after another. Both are written against the interface of
`application/interfaces/user_repository.hpp`; what they need of it is in the
structure below, and the table of `UserStore` is one instance.
-/

namespace Svitock

open Transition

/-- A `UserRepository`, with what its operations promise. -/
structure UserRepository where
  Store : Type
  empty : Store
  rows : Store → List User
  findByUsername : Store → String → ℤ → Option User
  create : Store → User → Store × Bool
  rows_empty : rows empty = []
  found : ∀ store username now user, findByUsername store username now = some user →
    ∃ row ∈ rows store, row.username = username ∧ user = { row with createdAt := now }
  missing : ∀ store username now, findByUsername store username now = none →
    ∀ row ∈ rows store, row.username ≠ username
  rows_create : ∀ store user, rows (create store user).1 = rows store ++ [user]
  create_returns : ∀ store user, (create store user).2 = true

def PostgresUserRepository.repository : UserRepository where
  Store := List User
  empty := []
  rows := id
  findByUsername := findByUsername
  create := create
  rows_empty := rfl
  found store username now user h := by
    obtain ⟨row, hrow, rfl⟩ := Option.map_eq_some_iff.mp h
    exact ⟨row, List.mem_of_find?_eq_some hrow, by simpa using List.find?_some hrow, rfl⟩
  missing store username now h row hrow := by
    have hnone := Option.map_eq_none_iff.mp h
    simpa using List.find?_eq_none.mp hnone row hrow
  rows_create _ _ := rfl
  create_returns _ _ := rfl

/-- `execute` with no other call in between. The two readings of the clock are those
of the lookup and of the new user, whose `id` is random. -/
def RegisterUserUseCase.executeAtOnce (repo : UserRepository) (store : repo.Store)
    (username passwordHash : String) (id : Uuid) (lookedUpAt now : ℤ) : repo.Store × Bool :=
  if username = "" ∨ passwordHash = "" then (store, false)
  else if (repo.findByUsername store username lookedUpAt).isSome then (store, false)
  else repo.create store ⟨id, username, passwordHash, now⟩

def LoginUserUseCase.execute (repo : UserRepository) (store : repo.Store)
    (username passwordHash : String) (now : ℤ) : Bool :=
  match repo.findByUsername store username now with
  | none => false
  | some user => user.passwordHash == passwordHash

namespace RegisterUserUseCase

/-- Over the table of `UserStore`, a call whose steps are not interleaved with others
does what `executeAtOnce` says. -/
theorem executeAtOnce_eq_run (s : State) (username passwordHash : String) (id : Uuid)
    (lookedUpAt now : ℤ) :
    ∃ ls s', Runs s (.call username passwordHash :: ls) s' ∧
      s'.users = (executeAtOnce PostgresUserRepository.repository s.users username passwordHash id
        lookedUpAt now).1 ∧
      s'.calls = s.calls ++ [⟨username, passwordHash, .returned (executeAtOnce
        PostgresUserRepository.repository s.users username passwordHash id lookedUpAt now).2⟩] := by
  by_cases hempty : username = "" ∨ passwordHash = ""
  · refine ⟨[], { s with calls := s.calls ++ [execute username passwordHash] },
      Run.single trivial rfl, ?_, ?_⟩
    · simp [executeAtOnce, hempty]
    · simp [executeAtOnce, execute, hempty]
  · have hcall : Runs s [.call username passwordHash]
        { s with calls := s.calls ++ [⟨username, passwordHash, .checking⟩] } := by
      refine Run.single trivial ?_
      simp [step, execute, hempty]
    cases hfind : (PostgresUserRepository.findByUsername s.users username lookedUpAt).isSome with
    | true =>
      have hstep : step { s with calls := s.calls ++ [⟨username, passwordHash, .checking⟩] }
          (.find s.calls.length lookedUpAt) =
            some { s with calls := s.calls ++ [⟨username, passwordHash, .returned false⟩] } := by
        simp [step, hfind]
      refine ⟨_, _, hcall.snoc trivial hstep, ?_, ?_⟩ <;>
        simp [executeAtOnce, hempty, PostgresUserRepository.repository, hfind]
    | false =>
      have hstep : step { s with calls := s.calls ++ [⟨username, passwordHash, .checking⟩] }
          (.find s.calls.length lookedUpAt) =
            some { s with calls := s.calls ++ [⟨username, passwordHash, .creating⟩] } := by
        simp [step, hfind]
      have hcreate : step { s with calls := s.calls ++ [⟨username, passwordHash, .creating⟩] }
          (.create s.calls.length id now) =
            some ⟨s.users ++ [⟨id, username, passwordHash, now⟩],
              s.calls ++ [⟨username, passwordHash, .returned true⟩]⟩ := by
        simp [step, PostgresUserRepository.create]
      refine ⟨_, _, (hcall.snoc trivial hstep).snoc trivial hcreate, ?_, ?_⟩ <;>
        simp [executeAtOnce, hempty, PostgresUserRepository.repository, hfind,
          PostgresUserRepository.create]

end RegisterUserUseCase

namespace UserAccounts

/-- A call, with what the random generator and the clocks give on the way. -/
inductive Call
  | register (username passwordHash : String) (id : Uuid) (lookedUpAt now : ℤ)
  | login (username passwordHash : String) (now : ℤ)
  deriving DecidableEq, Repr

/-- The store and, as history, the calls so far with their results. -/
structure State (repo : UserRepository) where
  store : repo.Store
  returned : List (Call × Bool)

variable {repo : UserRepository} {s : State repo} {username passwordHash : String}

def start (repo : UserRepository) : State repo := ⟨repo.empty, []⟩

def call (s : State repo) : Call → State repo
  | .register username passwordHash id lookedUpAt now =>
    let (store, result) := RegisterUserUseCase.executeAtOnce repo s.store username passwordHash id
      lookedUpAt now
    ⟨store, s.returned ++ [(.register username passwordHash id lookedUpAt now, result)]⟩
  | .login username passwordHash now =>
    ⟨s.store, s.returned ++ [(.login username passwordHash now,
      LoginUserUseCase.execute repo s.store username passwordHash now)]⟩

def after (repo : UserRepository) (calls : List Call) : State repo := calls.foldl call (start repo)

def Registered (s : State repo) (username passwordHash : String) : Prop :=
  ∃ id lookedUpAt now, (Call.register username passwordHash id lookedUpAt now, true) ∈ s.returned

/-- The rows are those of the registrations that returned true. -/
structure Inv (s : State repo) : Prop where
  names : ((repo.rows s.store).map User.username).Nodup
  filled : ∀ user ∈ repo.rows s.store, user.username ≠ "" ∧ user.passwordHash ≠ ""
  registered : ∀ username passwordHash, Registered s username passwordHash ↔
    ∃ user ∈ repo.rows s.store, user.username = username ∧ user.passwordHash = passwordHash

theorem executeAtOnce_cases (store : repo.Store) (username passwordHash : String) (id : Uuid)
    (lookedUpAt now : ℤ) :
    (RegisterUserUseCase.executeAtOnce repo store username passwordHash id lookedUpAt now =
        (store, false) ∧
      (username = "" ∨ passwordHash = "" ∨ ∃ user ∈ repo.rows store, user.username = username)) ∨
    ((RegisterUserUseCase.executeAtOnce repo store username passwordHash id lookedUpAt now).2 =
        true ∧
      repo.rows (RegisterUserUseCase.executeAtOnce repo store username passwordHash id lookedUpAt
        now).1 = repo.rows store ++ [⟨id, username, passwordHash, now⟩] ∧
      username ≠ "" ∧ passwordHash ≠ "" ∧ ∀ user ∈ repo.rows store, user.username ≠ username) := by
  unfold RegisterUserUseCase.executeAtOnce
  split_ifs with hempty hfound
  · exact .inl ⟨rfl, hempty.imp_right .inl⟩
  · obtain ⟨user, huser⟩ := Option.isSome_iff_exists.mp hfound
    obtain ⟨row, hrow, hname, -⟩ := repo.found _ _ _ _ huser
    exact .inl ⟨rfl, .inr (.inr ⟨row, hrow, hname⟩)⟩
  · have hnone := Option.not_isSome_iff_eq_none.mp hfound
    obtain ⟨hu, hp⟩ := not_or.mp hempty
    exact .inr ⟨repo.create_returns _ _, repo.rows_create _ _, hu, hp, repo.missing _ _ _ hnone⟩

theorem login_iff (hnames : ((repo.rows s.store).map User.username).Nodup) (now : ℤ) :
    LoginUserUseCase.execute repo s.store username passwordHash now = true ↔
      ∃ user ∈ repo.rows s.store, user.username = username ∧ user.passwordHash = passwordHash := by
  unfold LoginUserUseCase.execute
  cases hfind : repo.findByUsername s.store username now with
  | none =>
    have hmissing := repo.missing _ _ _ hfind
    simp only [Bool.false_eq_true, false_iff]
    rintro ⟨user, huser, hname, -⟩
    exact hmissing user huser hname
  | some user =>
    obtain ⟨row, hrow, hname, rfl⟩ := repo.found _ _ _ _ hfind
    simp only [beq_iff_eq]
    constructor
    · intro hhash
      exact ⟨row, hrow, hname, hhash⟩
    · rintro ⟨other, hother, hsame, hhash⟩
      have heq := List.inj_on_of_nodup_map hnames hrow hother (hname.trans hsame.symm)
      rw [heq, hhash]

theorem executeAtOnce_iff {store : repo.Store} {id : Uuid} {lookedUpAt now : ℤ} :
    (RegisterUserUseCase.executeAtOnce repo store username passwordHash id lookedUpAt now).2 = true ↔
      username ≠ "" ∧ passwordHash ≠ "" ∧
        ¬ ∃ user ∈ repo.rows store, user.username = username := by
  rcases executeAtOnce_cases store username passwordHash id lookedUpAt now with
    ⟨hrefused, hwhy⟩ | ⟨htrue, -, hu, hp, hnew⟩
  · rw [hrefused]
    simp only [Bool.false_eq_true, false_iff]
    rintro ⟨hu, hp, hnone⟩
    rcases hwhy with hwhy | hwhy | hwhy
    · exact hu hwhy
    · exact hp hwhy
    · exact hnone hwhy
  · simp only [htrue, true_iff]
    refine ⟨hu, hp, ?_⟩
    rintro ⟨user, huser, hname⟩
    exact hnew user huser hname

theorem store_of_refused {store : repo.Store} {id : Uuid} {lookedUpAt now : ℤ}
    (h : (RegisterUserUseCase.executeAtOnce repo store username passwordHash id lookedUpAt now).2 =
      false) :
    (RegisterUserUseCase.executeAtOnce repo store username passwordHash id lookedUpAt now).1 =
      store := by
  rcases executeAtOnce_cases store username passwordHash id lookedUpAt now with
    ⟨hrefused, -⟩ | ⟨htrue, -⟩
  · rw [hrefused]
  · rw [htrue] at h
    cases h

theorem registered_append_login {store : repo.Store} {username' passwordHash' : String} {now : ℤ}
    {result : Bool} :
    Registered ⟨store, s.returned ++ [(.login username' passwordHash' now, result)]⟩ username
      passwordHash ↔ Registered s username passwordHash := by
  simp [Registered]

theorem registered_append_register {store : repo.Store} {username' passwordHash' : String}
    {id : Uuid} {lookedUpAt now : ℤ} {result : Bool} :
    Registered ⟨store, s.returned ++
        [(.register username' passwordHash' id lookedUpAt now, result)]⟩ username passwordHash ↔
      Registered s username passwordHash ∨
        (result = true ∧ username = username' ∧ passwordHash = passwordHash') := by
  constructor
  · rintro ⟨id, lookedUpAt, now, hmem⟩
    rcases List.mem_append.mp hmem with hmem | hmem
    · exact .inl ⟨id, lookedUpAt, now, hmem⟩
    · simp only [List.mem_singleton, Prod.mk.injEq, Call.register.injEq] at hmem
      exact .inr ⟨hmem.2.symm, hmem.1.1, hmem.1.2.1⟩
  · rintro (⟨id, lookedUpAt, now, hmem⟩ | ⟨rfl, rfl, rfl⟩)
    · exact ⟨id, lookedUpAt, now, List.mem_append_left _ hmem⟩
    · exact ⟨id, lookedUpAt, now, List.mem_append_right _ (List.mem_singleton_self _)⟩

theorem Inv.taken_iff (h : Inv s) : (∃ earlier, Registered s username earlier) ↔
    ∃ user ∈ repo.rows s.store, user.username = username := by
  simp only [h.registered]
  constructor
  · rintro ⟨_, user, huser, hname, -⟩
    exact ⟨user, huser, hname⟩
  · rintro ⟨user, huser, hname⟩
    exact ⟨_, user, huser, hname, rfl⟩

theorem Inv.call (h : Inv s) (c : Call) : Inv (call s c) := by
  cases c with
  | login username passwordHash now =>
    exact ⟨h.names, h.filled, fun _ _ => registered_append_login.trans (h.registered _ _)⟩
  | register username passwordHash id lookedUpAt now =>
    rcases executeAtOnce_cases s.store username passwordHash id lookedUpAt now with
      ⟨hfalse, -⟩ | ⟨htrue, hrows, hu, hp, hnew⟩
    · simp only [UserAccounts.call, hfalse]
      refine ⟨h.names, h.filled, fun u p => ?_⟩
      simpa [registered_append_register] using h.registered u p
    · simp only [UserAccounts.call, htrue]
      refine ⟨?_, ?_, fun u p => ?_⟩
      · -- the new name was not found, so that names stay distinct
        rw [hrows, List.map_append, List.map_singleton]
        refine List.nodup_append.mpr ⟨h.names, List.nodup_singleton _, fun a ha b hb => ?_⟩
        obtain ⟨user, huser, rfl⟩ := List.mem_map.mp ha
        rw [List.mem_singleton.mp hb]
        exact hnew user huser
      · intro user huser
        rw [hrows] at huser
        rcases List.mem_append.mp huser with huser | huser
        · exact h.filled user huser
        · rw [List.mem_singleton.mp huser]
          exact ⟨hu, hp⟩
      · rw [registered_append_register, h.registered, hrows]
        simp only [List.mem_append, List.mem_singleton, or_and_right, exists_or, exists_eq_left,
          true_and]
        simp only [eq_comm]

theorem inv_after (repo : UserRepository) (calls : List Call) : Inv (after repo calls) := by
  have hstart : Inv (start repo) := by
    refine ⟨?_, ?_, ?_⟩ <;> simp [start, repo.rows_empty, Registered]
  unfold after
  -- the claim for any state that has the invariant, by induction on the calls
  generalize start repo = s at hstart
  induction calls generalizing s with
  | nil => exact hstart
  | cons c calls ih => exact ih _ (hstart.call c)

/-- Login accepts exactly what was first registered. After any calls, names are distinct
and nothing stored is empty; a login succeeds exactly for a name and a hash with which a
registration succeeded, and a registration succeeds exactly for a non-empty name and hash
when none for that name has, and otherwise leaves the store. -/
theorem login_accepts_registered (repo : UserRepository) (calls : List Call) :
    ((repo.rows (after repo calls).store).map User.username).Nodup ∧
      (∀ user ∈ repo.rows (after repo calls).store,
        user.username ≠ "" ∧ user.passwordHash ≠ "") ∧
      (∀ username passwordHash now,
        LoginUserUseCase.execute repo (after repo calls).store username passwordHash now = true ↔
          Registered (after repo calls) username passwordHash) ∧
      (∀ username passwordHash id lookedUpAt now,
        (RegisterUserUseCase.executeAtOnce repo (after repo calls).store username passwordHash id
            lookedUpAt now).2 = true ↔
          username ≠ "" ∧ passwordHash ≠ "" ∧
            ¬ ∃ earlier, Registered (after repo calls) username earlier) ∧
      ∀ username passwordHash id lookedUpAt now,
        (RegisterUserUseCase.executeAtOnce repo (after repo calls).store username passwordHash id
            lookedUpAt now).2 = false →
          (RegisterUserUseCase.executeAtOnce repo (after repo calls).store username passwordHash id
            lookedUpAt now).1 = (after repo calls).store := by
  have hi := inv_after repo calls
  refine ⟨hi.names, hi.filled, fun u p now => ?_, fun u p id lookedUpAt now => ?_,
    fun u p id lookedUpAt now => store_of_refused⟩
  · rw [login_iff hi.names, hi.registered]
  · rw [executeAtOnce_iff, hi.taken_iff]

/-- The second registration of a name does not change what is accepted. -/
example : ((after PostgresUserRepository.repository
    [.register "ann" "h" 1 0 0, .register "ann" "k" 2 1 1, .login "ann" "k" 2, .login "ann" "h" 3,
      .register "" "h" 3 4 4]).returned.map Prod.snd) = [true, false, false, true, false] := by
  decide

end UserAccounts

end Svitock
