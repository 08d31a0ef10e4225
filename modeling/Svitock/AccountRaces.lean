import Svitock.Observation
import Svitock.UserLogin

/-!
# Logging in while others register

`application/use_cases/register_user_use_case.cpp` and `login_user_use_case.cpp` on
connections of their own. A registration looks the name up and inserts a row in two steps,
between which others may register the same name, so that a name can have several rows. A
login takes the first row of a query that asks for no order: any of them.
-/

namespace Svitock

open Transition RegisterUserUseCase

/-- The repository over a table that gives the rows of a name in an order of its own; `pick`
says which of them is the first. -/
def PostgresUserRepository.unordered (pick : ℕ) : UserRepository where
  Store := List User
  empty := []
  rows := id
  findByUsername users username now :=
    let result := users.filter fun user => user.username == username
    (result[pick % result.length]?).map fun user => { user with createdAt := now }
  create := create
  rows_empty := repository.rows_empty
  found users username now user h := by
    obtain ⟨row, hrow, rfl⟩ := Option.map_eq_some_iff.mp h
    obtain ⟨hmem, hname⟩ := List.mem_filter.mp (List.mem_of_getElem? hrow)
    exact ⟨row, hmem, of_decide_eq_true hname, rfl⟩
  missing users username now h row hrow hname := by
    have hlength : 0 < (users.filter fun user => user.username == username).length :=
      List.length_pos_of_mem (List.mem_filter.mpr ⟨hrow, decide_eq_true hname⟩)
    have hnone := List.getElem?_eq_none_iff.mp (Option.map_eq_none_iff.mp h)
    exact absurd (Nat.mod_lt pick hlength) (Nat.not_lt.mpr hnone)
  rows_create := repository.rows_create
  create_returns := repository.create_returns

namespace AccountRaces

inductive Label
  | register (l : RegisterUserUseCase.Label)
  | login (pick : ℕ) (username passwordHash : String) (now : ℤ)

def step (s : State) : Label → Option State
  | .register l => RegisterUserUseCase.step s l
  | .login _ _ _ _ => some s

def login (s : State) (pick : ℕ) (username passwordHash : String) (now : ℤ) : Bool :=
  LoginUserUseCase.execute (PostgresUserRepository.unordered pick) s.users username passwordHash now

/-- Nobody looks a name up between the lookup and the insert of another registration. -/
def Alone (s : State) : Label → Prop
  | .register l => alone s l = true
  | .login _ _ _ _ => True

structure Attempt where
  username : String
  passwordHash : String
  result : Bool
  deriving DecidableEq, Repr

def Attempt.Settles (a b : Attempt) : Prop :=
  a.result = true → a.username = b.username → b.result = (b.passwordHash == a.passwordHash)

def attempts (s : State) : Label → List Attempt
  | .register _ => []
  | .login pick username passwordHash now =>
    [⟨username, passwordHash, login s pick username passwordHash now⟩]

variable {s s' : State} {l : Label} {ls : List Label} {pick : ℕ} {username passwordHash : String}
  {now : ℤ}

theorem login_cases (s : State) (pick : ℕ) (username passwordHash : String) (now : ℤ) :
    ((∀ user ∈ s.users, user.username ≠ username) ∧
      login s pick username passwordHash now = false) ∨
    ∃ user ∈ s.users, user.username = username ∧
      login s pick username passwordHash now = (user.passwordHash == passwordHash) := by
  unfold login LoginUserUseCase.execute
  cases hfind : (PostgresUserRepository.unordered pick).findByUsername s.users username now with
  | none => exact .inl ⟨(PostgresUserRepository.unordered pick).missing _ _ _ hfind, rfl⟩
  | some user =>
    obtain ⟨row, hrow, hname, rfl⟩ :=
      (PostgresUserRepository.unordered pick).found _ _ _ _ hfind
    exact .inr ⟨row, hrow, hname, rfl⟩

theorem exists_pick {user : User} (huser : user ∈ s.users) (hname : user.username = username) :
    ∃ pick, ∀ passwordHash now,
      login s pick username passwordHash now = (user.passwordHash == passwordHash) := by
  have hmem : user ∈ s.users.filter fun user => user.username == username :=
    List.mem_filter.mpr ⟨huser, by simp [hname]⟩
  obtain ⟨pick, hlt, hget⟩ := List.mem_iff_getElem.mp hmem
  refine ⟨pick, fun passwordHash now => ?_⟩
  have hfind : (PostgresUserRepository.unordered pick).findByUsername s.users username now =
      some { user with createdAt := now } := by
    simp only [PostgresUserRepository.unordered, Nat.mod_eq_of_lt hlt,
      List.getElem?_eq_getElem hlt, hget, Option.map_some]
  unfold login LoginUserUseCase.execute
  rw [hfind]

def Registered (s : State) (username passwordHash : String) : Prop :=
  ⟨username, passwordHash, .returned true⟩ ∈ s.calls

def RowsRegistered (s : State) : Prop :=
  ∀ username passwordHash, Registered s username passwordHash ↔
    ∃ user ∈ s.users, user.username = username ∧ user.passwordHash = passwordHash

theorem RowsRegistered.step (hi : RowsRegistered s) (h : step s l = some s') :
    RowsRegistered s' := by
  cases l with
  | login pick username passwordHash now =>
    cases h
    exact hi
  | register l =>
    intro username passwordHash
    have hrows := hi username passwordHash
    unfold Registered at hrows ⊢
    cases RegisterUserUseCase.step_cases h with
    | call name hash =>
      have hnew : (⟨username, passwordHash, .returned true⟩ : RegisterUserUseCase.Call) ≠
          execute name hash := by
        unfold execute
        split <;> simp
      simpa [hnew] using hrows
    | taken _ hc _ =>
      rw [hc] at hrows
      simpa using hrows
    | free _ hc _ =>
      rw [hc] at hrows
      simpa using hrows
    | @create k name hash id now before after hc =>
      rw [hc] at hrows
      simp only [List.mem_append, List.mem_cons, List.not_mem_nil, or_false,
        RegisterUserUseCase.Call.mk.injEq, reduceCtorEq, and_false, false_or, and_true] at hrows ⊢
      constructor
      · rintro (hmem | ⟨rfl, rfl⟩ | hmem)
        · obtain ⟨user, huser, hrest⟩ := hrows.mp (.inl hmem)
          exact ⟨user, .inl huser, hrest⟩
        · exact ⟨_, .inr rfl, rfl, rfl⟩
        · obtain ⟨user, huser, hrest⟩ := hrows.mp (.inr hmem)
          exact ⟨user, .inl huser, hrest⟩
      · rintro ⟨user, huser | rfl, rfl, rfl⟩
        · rcases hrows.mpr ⟨user, huser, rfl, rfl⟩ with hmem | hmem
          · exact .inl hmem
          · exact .inr (.inr hmem)
        · exact .inr (.inl ⟨rfl, rfl⟩)

theorem rowsRegistered_of_run (h : Run step Anything start ls s) : RowsRegistered s := by
  refine h.invariant (I := RowsRegistered) ?_ fun _ _ _ hi _ hs => hi.step hs
  intro username passwordHash
  simp [Registered, start]

/-- Two registrations of one name with different hashes have returned true. -/
def Raced (s : State) (username : String) : Prop :=
  ∃ hash other, Registered s username hash ∧ Registered s username other ∧ other ≠ hash

theorem RowsRegistered.of_login (hi : RowsRegistered s)
    (h : login s pick username passwordHash now = true) : Registered s username passwordHash := by
  rcases login_cases s pick username passwordHash now with ⟨-, hfalse⟩ | ⟨user, huser, hname, heq⟩
  · rw [hfalse] at h
    cases h
  · rw [heq, beq_iff_eq] at h
    exact (hi _ _).mpr ⟨user, huser, hname, h⟩

theorem RowsRegistered.raced_of_refused (hi : RowsRegistered s)
    (hr : Registered s username passwordHash)
    (h : login s pick username passwordHash now = false) : Raced s username := by
  rcases login_cases s pick username passwordHash now with ⟨hnone, -⟩ | ⟨user, huser, hname, heq⟩
  · obtain ⟨user, huser, hname, -⟩ := (hi _ _).mp hr
    exact absurd hname (hnone user huser)
  · rw [heq, beq_eq_false_iff_ne] at h
    exact ⟨passwordHash, user.passwordHash, hr, (hi _ _).mpr ⟨user, huser, hname, rfl⟩, h⟩

theorem Registered.step (hr : Registered s username passwordHash) (h : step s l = some s') :
    Registered s' username passwordHash := by
  cases l with
  | login pick name hash now =>
    cases h
    exact hr
  | register l =>
    unfold Registered at hr ⊢
    cases RegisterUserUseCase.step_cases h with
    | call name hash => exact List.mem_append_left _ hr
    | taken _ hc _ =>
      rw [hc] at hr
      simpa using hr
    | free _ hc _ =>
      rw [hc] at hr
      simpa using hr
    | create hc =>
      rw [hc] at hr
      simp only [List.mem_append, List.mem_cons, RegisterUserUseCase.Call.mk.injEq,
        reduceCtorEq, and_false, false_or] at hr ⊢
      rcases hr with hr | hr
      · exact .inl hr
      · exact .inr (.inr hr)

theorem Raced.step (hr : Raced s username) (h : AccountRaces.step s l = some s') :
    Raced s' username := by
  obtain ⟨hash, other, hhash, hother, hne⟩ := hr
  exact ⟨hash, other, hhash.step h, hother.step h, hne⟩

theorem not_raced_of_alone (h : Run step Alone start ls s) (username : String) :
    ¬ Raced s username := by
  have hinv : Inv s := by
    refine h.invariant (I := Inv) ⟨.nil, .nil⟩ fun t l u hi ha hs => ?_
    cases l with
    | register l => exact hi.step ha (RegisterUserUseCase.step_cases hs)
    | login pick username passwordHash now =>
      cases hs
      exact hi
  have hnames : (s.users.map User.username).Nodup :=
    hinv.rows.nodup_iff.mpr (hinv.claimed.sublist (created_sublist_claimed s.calls))
  have hrows := rowsRegistered_of_run h.anything
  rintro ⟨hash, other, hhash, hother, hne⟩
  obtain ⟨user, huser, hname, rfl⟩ := (hrows _ _).mp hhash
  obtain ⟨user', huser', hname', rfl⟩ := (hrows _ _).mp hother
  apply hne
  rw [List.inj_on_of_nodup_map hnames huser' huser (hname'.trans hname.symm)]

theorem RowsRegistered.settles (hi : RowsRegistered s) {a : Attempt}
    (ha : a.result = true → Registered s a.username a.passwordHash) :
    a.Settles ⟨username, passwordHash, login s pick username passwordHash now⟩ ∨
      Raced s a.username := by
  by_cases hraced : Raced s a.username
  · exact .inr hraced
  refine .inl fun hresult hname => ?_
  have hregistered := ha hresult
  change a.username = username at hname
  rw [hname] at hregistered hraced
  change login s pick username passwordHash now = (passwordHash == a.passwordHash)
  cases hlogin : login s pick username passwordHash now with
  | true =>
    have hsame : passwordHash = a.passwordHash := by
      by_contra hne
      exact hraced ⟨a.passwordHash, passwordHash, hregistered, hi.of_login hlogin, hne⟩
    simp [hsame]
  | false =>
    have hne : passwordHash ≠ a.passwordHash := by
      rintro rfl
      exact hraced (hi.raced_of_refused hregistered hlogin)
    simp [hne]

structure AttemptInv (seen : List Attempt) (s : State) : Prop where
  rows : RowsRegistered s
  settled : seen.Pairwise fun a b => a.Settles b ∨ Raced s a.username
  accepted : ∀ a ∈ seen, a.result = true → Registered s a.username a.passwordHash

theorem AttemptInv.step {seen : List Attempt} (hi : AttemptInv seen s) (hs : step s l = some s') :
    AttemptInv (seen ++ attempts s l) s' := by
  have hsettled : seen.Pairwise fun a b => a.Settles b ∨ Raced s' a.username :=
    hi.settled.imp fun hab => hab.imp_right fun hr => hr.step hs
  have haccepted (a : Attempt) (ha : a ∈ seen) (hresult : a.result = true) :
      Registered s' a.username a.passwordHash := (hi.accepted a ha hresult).step hs
  cases l with
  | register l =>
    rw [attempts, List.append_nil]
    exact ⟨hi.rows.step hs, hsettled, haccepted⟩
  | login pick username passwordHash now =>
    cases hs
    refine ⟨hi.rows, List.pairwise_append.mpr ⟨hsettled, List.pairwise_singleton _ _, ?_⟩, ?_⟩
    · intro a ha b hb
      obtain rfl := List.mem_singleton.mp hb
      exact hi.rows.settles (hi.accepted a ha)
    · intro a ha hresult
      rcases List.mem_append.mp ha with ha | ha
      · exact haccepted a ha hresult
      · obtain rfl := List.mem_singleton.mp ha
        exact hi.rows.of_login hresult

theorem attemptInv_of_run (h : Run step Anything start ls s) :
    AttemptInv (observe step attempts start ls) s :=
  h.observed ⟨rowsRegistered_of_run .nil, .nil, by simp⟩ fun _ _ _ _ hi _ hs => hi.step hs

/-- However registrations and logins are interleaved, and whichever row of a name the
database puts first: a name can be logged in with exactly the hashes that were registered
for it, and surely with one only if no other was; once a login was accepted, later ones of
that name are accepted exactly with the same hash, unless two registrations of it with
different hashes have returned true; and this happens in no run in which the registrations
of a name keep apart. -/
theorem logins_settle_unless_raced (h : Run step Anything start ls s) :
    (∀ username passwordHash now,
      ((∃ pick, login s pick username passwordHash now = true) ↔
        Registered s username passwordHash) ∧
      ((∀ pick, login s pick username passwordHash now = true) ↔
        Registered s username passwordHash ∧
          ∀ other, Registered s username other → other = passwordHash)) ∧
    (observe step attempts start ls).Pairwise (fun a b => a.Settles b ∨ Raced s a.username) ∧
    (Run step Alone start ls s → (observe step attempts start ls).Pairwise Attempt.Settles) := by
  have hinv := attemptInv_of_run h
  refine ⟨fun username passwordHash now => ⟨⟨?_, fun hr => ?_⟩, fun hall => ⟨?_, ?_⟩, ?_⟩,
    hinv.settled, fun halone => ?_⟩
  · rintro ⟨pick, hlogin⟩
    exact hinv.rows.of_login hlogin
  · obtain ⟨user, huser, hname, rfl⟩ := (hinv.rows _ _).mp hr
    obtain ⟨pick, hpick⟩ := exists_pick huser hname
    exact ⟨pick, by simp [hpick]⟩
  · exact hinv.rows.of_login (hall 0)
  · intro other hother
    obtain ⟨user, huser, hname, rfl⟩ := (hinv.rows _ _).mp hother
    obtain ⟨pick, hpick⟩ := exists_pick huser hname
    have hsame := hall pick
    rwa [hpick, beq_iff_eq] at hsame
  · rintro ⟨hr, honly⟩ pick
    by_contra hlogin
    obtain ⟨hash, other, hhash, hother, hne⟩ :=
      hinv.rows.raced_of_refused hr (by simpa using hlogin)
    exact hne ((honly other hother).trans (honly hash hhash).symm)
  · exact hinv.settled.imp fun hab =>
      hab.resolve_right (not_raced_of_alone halone _)

/-- Two registrations of one name that overlap both return true, and the name is logged in
with the one hash or the other as the database likes. -/
theorem logins_settle_unless_raced_overlap :
    ∃ s, Run step Anything start
        [.register (.call "ann" "h"), .register (.call "ann" "k"), .register (.find 0 0),
          .register (.find 1 0), .register (.create 1 2 0), .login 0 "ann" "k" 0,
          .register (.create 0 1 0), .login 1 "ann" "k" 0] s ∧
      Registered s "ann" "h" ∧ Registered s "ann" "k" ∧
      (∃ pick, login s pick "ann" "h" 0 = true) ∧ (∃ pick, login s pick "ann" "k" 0 = true) ∧
      ¬ ∀ pick, login s pick "ann" "k" 0 = true := by
  obtain ⟨s, hrun, hh, hk⟩ : ∃ s, Run step Anything start
        [.register (.call "ann" "h"), .register (.call "ann" "k"), .register (.find 0 0),
          .register (.find 1 0), .register (.create 1 2 0), .login 0 "ann" "k" 0,
          .register (.create 0 1 0), .login 1 "ann" "k" 0] s ∧
      (⟨"ann", "h", .returned true⟩ : RegisterUserUseCase.Call) ∈ s.calls ∧
      (⟨"ann", "k", .returned true⟩ : RegisterUserUseCase.Call) ∈ s.calls :=
    exists_run _ (by decide +kernel)
  obtain ⟨hlogins, -, -⟩ := logins_settle_unless_raced hrun
  refine ⟨s, hrun, hh, hk, (hlogins "ann" "h" 0).1.mpr hh, (hlogins "ann" "k" 0).1.mpr hk, ?_⟩
  intro hall
  have honly := ((hlogins "ann" "k" 0).2.mp hall).2 "h" hh
  exact absurd honly (by decide)

end AccountRaces

end Svitock
