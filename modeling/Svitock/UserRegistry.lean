import Svitock.UserSessions

namespace Svitock

open Transition

namespace UserKeyed

variable {lib : Libraries} {s s' : State} {l : Label} {ls : List Label} {k : ℕ} {u : String}
  {face : Face}

structure WF (s : State) : Prop where
  reading : ∀ (k : ℕ) (face : Face), s.faces[k]? = some face → face.userId ≠ "" →
    face.closed = false → face.reading = true
  accepting : ∀ (k : ℕ) (face : Face), s.faces[k]? = some face → face.accepting = true →
    face.userId = "" ∧ face.reading = false
  key : s.manager "" = none

theorem WF.ne_empty (h : WF s) (hm : s.manager u = some k) : u ≠ "" := by
  rintro rfl
  rw [h.key] at hm
  cases hm

theorem wf_start : WF State.start := by
  constructor <;> simp [State.start, State.faces]

theorem WF.set {face' : Face} (h : WF s) (hk : s.faces[k]? = some face)
    (hf : s'.faces = s.faces.set k face')
    (hread : face'.userId ≠ "" → face'.closed = false → face'.reading = true)
    (hacc : face'.accepting = true → face'.userId = "" ∧ face'.reading = false)
    (hkey : s'.manager "" = none) : WF s' := by
  refine ⟨fun j x hx hu hc => ?_, fun j x hx ha => ?_, hkey⟩
  · rw [hf, getElem?_set_iff hk] at hx
    rcases hx with ⟨-, rfl⟩ | ⟨-, hx⟩
    · exact hread hu hc
    · exact h.reading j x hx hu hc
  · rw [hf, getElem?_set_iff hk] at hx
    rcases hx with ⟨-, rfl⟩ | ⟨-, hx⟩
    · exact hacc ha
    · exact h.accepting j x hx ha

theorem WF.step (h : WF s) (hs : step lib s l = some s') : WF s' := by
  cases step_change hs with
  | connect _ _ hf hm =>
    refine ⟨fun j x hx hu hc => ?_, fun j x hx ha => ?_, by rw [hm]; exact h.key⟩
    · rw [hf] at hx
      rcases getElem?_append_singleton_cases hx with hx | ⟨-, rfl⟩
      · exact h.reading j x hx hu hc
      · exact absurd rfl hu
    · rw [hf] at hx
      rcases getElem?_append_singleton_cases hx with hx | ⟨-, rfl⟩
      · exact h.accepting j x hx ha
      · exact ⟨rfl, rfl⟩
  | handshake _ _ hk hacc hf hm =>
    have hnew := h.accepting _ _ hk hacc
    exact h.set hk hf (fun hu _ => absurd hnew.1 hu) (fun ha => by cases ha)
      (by rw [hm]; exact h.key)
  | @auth k face u _ _ hu hk hr hf hm =>
    refine h.set hk hf (fun _ _ => hr) (fun ha => ?_) ?_
    · have hread := (h.accepting _ face hk ha).2
      rw [hr] at hread
      cases hread
    · rw [hm, SessionManager.registerSession, Function.update_of_ne (Ne.symm hu)]
      exact h.key
  | @close k face r _ _ hk hr hf hm =>
    refine h.set hk hf (fun _ hc => by cases hc) (fun ha => ?_) ?_
    · obtain ⟨hu, hread⟩ := h.accepting _ face hk ha
      refine ⟨hu, ?_⟩
      cases r with
      | false => rfl
      | true => exact absurd (hr rfl) (by simp [hread])
    · rw [hm]
      split
      · exact h.key
      · simp [SessionManager.removeSession, Function.update_apply, h.key]
  | none _ _ hf hm =>
    exact ⟨by rw [hf]; exact h.reading, by rw [hf]; exact h.accepting, by rw [hm]; exact h.key⟩

def Open (s : State) (k : ℕ) (u : String) : Prop :=
  ∃ face, s.faces[k]? = some face ∧ face.closed = false ∧ face.userId = u

theorem open_set_iff {face' : Face} {j : ℕ} {v : String} (hk : s.faces[k]? = some face)
    (hf : s'.faces = s.faces.set k face') : Open s' j v ↔
      (j = k ∧ face'.closed = false ∧ face'.userId = v) ∨ (j ≠ k ∧ Open s j v) := by
  unfold Open
  simp only [hf, getElem?_set_iff hk]
  constructor
  · rintro ⟨x, ⟨rfl, rfl⟩ | ⟨hne, hx⟩, hrest⟩
    · exact .inl ⟨rfl, hrest⟩
    · exact .inr ⟨hne, x, hx, hrest⟩
  · rintro (⟨rfl, hrest⟩ | ⟨hne, x, hx, hrest⟩)
    · exact ⟨face', .inl ⟨rfl, rfl⟩, hrest⟩
    · exact ⟨x, .inr ⟨hne, hx⟩, hrest⟩

theorem open_self_iff {v : String} (hk : s.faces[k]? = some face) :
    Open s k v ↔ face.closed = false ∧ face.userId = v := by
  simp [Open, hk]

theorem open_append_iff {j : ℕ} {v : String} (hv : v ≠ "")
    (hf : s'.faces = s.faces ++ [⟨"", true, false, false⟩]) : Open s' j v ↔ Open s j v := by
  unfold Open
  constructor
  · rintro ⟨x, hx, hclosed, huser⟩
    rw [hf] at hx
    rcases getElem?_append_singleton_cases hx with hx | ⟨-, rfl⟩
    · exact ⟨x, hx, hclosed, huser⟩
    · exact absurd huser.symm hv
  · rintro ⟨x, hx, hrest⟩
    have hlt := (List.getElem?_eq_some_iff.mp hx).1
    exact ⟨x, by rw [hf, List.getElem?_append_left hlt]; exact hx, hrest⟩

theorem Open.set {face' : Face} {j : ℕ} {v : String} (h : Open s j v)
    (hk : s.faces[k]? = some face) (hf : s'.faces = s.faces.set k face')
    (hne : j = k → v ≠ face.userId) : Open s' j v := by
  rw [open_set_iff hk hf]
  refine .inr ⟨?_, h⟩
  rintro rfl
  exact hne rfl ((open_self_iff hk).mp h).2.symm

theorem manager_of_findSession (h : s.findSession u = some k) : s.manager u = some k :=
  (Option.filter_eq_some_iff.mp h).1

theorem findSession_of_reading (hm : s.manager u = some k) (hk : s.faces[k]? = some face)
    (hr : face.reading = true) : s.findSession u = some k := by
  rw [faces_getElem?] at hk
  obtain ⟨session, hsession, rfl⟩ := Option.map_eq_some_iff.mp hk
  have hread : session.reading = true := hr
  refine Option.filter_eq_some_iff.mpr ⟨hm, ?_⟩
  simp [hsession, WebSocketSession.alive, hread]

/-- A session that is found is open and is that of the user. -/
def FindsUsers (s : State) : Prop :=
  ∀ u k, s.findSession u = some k →
    ∃ face, s.faces[k]? = some face ∧ face.closed = false ∧ face.userId = u

/-- A user authenticates on a session that is open and that the map does not hold under
another user. -/
def settles (lib : Libraries) (s : State) (l : Label) : Bool :=
  (l.auths? lib).all fun (k, u) => (s.faces[k]?).all fun face =>
    !face.closed && (s.manager face.userId != some k || face.userId == u)

/-- Every entry of the map points to an open session of its user. -/
structure Faithful (s : State) : Prop extends WF s where
  points : ∀ u k, s.manager u = some k →
    ∃ face, s.faces[k]? = some face ∧ face.closed = false ∧ face.userId = u

theorem faithful_start : Faithful State.start :=
  ⟨wf_start, fun u k h => by cases h⟩

theorem Faithful.findsUsers (h : Faithful s) : FindsUsers s :=
  fun u k hk => h.points u k (manager_of_findSession hk)

theorem settles_iff (hl : l.auths? lib = some (k, u)) (hk : s.faces[k]? = some face) :
    settles lib s l = true ↔
      face.closed = false ∧ (s.manager face.userId = some k → face.userId = u) := by
  simp [settles, hl, hk, imp_iff_not_or]

theorem Faithful.step (h : Faithful s) (hc : settles lib s l = true)
    (hs : UserKeyed.step lib s l = some s') : Faithful s' := by
  refine ⟨h.toWF.step hs, fun v j hv => ?_⟩
  show Open s' j v
  cases step_change hs with
  | connect _ _ hf hm =>
    rw [hm] at hv
    exact (open_append_iff (h.toWF.ne_empty hv) hf).mpr (h.points v j hv)
  | handshake _ _ hk hacc hf hm =>
    rw [hm] at hv
    -- a session in its handshake has no user, and the map no entry for none
    refine Open.set (h.points v j hv) hk hf fun _ => ?_
    rw [(h.accepting _ _ hk hacc).1]
    exact h.toWF.ne_empty hv
  | @auth k face u ha _ hu hk hr hf hm =>
    obtain ⟨hopen, hold⟩ := (settles_iff ha hk).mp hc
    rw [hm, SessionManager.registerSession, Function.update_apply] at hv
    split at hv
    · next hvu =>
      obtain rfl := Option.some.inj hv
      exact (open_set_iff hk hf).mpr (.inl ⟨rfl, hopen, hvu.symm⟩)
    · next hvu =>
      refine Open.set (h.points v j hv) hk hf ?_
      rintro rfl rfl
      exact hvu (hold hv)
  | @close k face r _ _ hk hr hf hm =>
    obtain ⟨hv, hne⟩ : s.manager v = some j ∧ v ≠ face.userId := by
      rw [hm] at hv
      split at hv
      · next hempty =>
        rw [hempty]
        exact ⟨hv, h.toWF.ne_empty hv⟩
      · rw [SessionManager.removeSession, Function.update_apply] at hv
        split at hv
        · cases hv
        · next hvu => exact ⟨hv, hvu⟩
    exact Open.set (h.points v j hv) hk hf fun _ => hne
  | none _ _ hf hm =>
    rw [hm] at hv
    rw [Open, hf]
    exact h.points v j hv

/-- Where a user authenticates on a session that is closed or that the map holds under
another user, a lookup finds the wrong session at once. -/
theorem not_findsUsers (hc : ¬ settles lib s l = true)
    (hs : step lib s l = some s') : ¬ FindsUsers s' := by
  intro hfinds
  apply hc
  unfold settles
  cases step_change hs with
  | connect ha _ _ _ => simp [ha]
  | handshake ha _ _ _ _ _ => simp [ha]
  | close ha _ _ _ _ _ => simp [ha]
  | none ha _ _ _ => simp [ha]
  | @auth k face u ha _ hu hk hr hf hm =>
    have hself : s'.faces[k]? = some { face with userId := u } := by
      rw [hf, getElem?_set_iff hk]
      exact .inl ⟨rfl, rfl⟩
    have hfound {v : String} (hv : s'.manager v = some k) : face.closed = false ∧ u = v := by
      obtain ⟨x, hx, hclosed, huser⟩ := hfinds v k (findSession_of_reading hv hself hr)
      obtain rfl := Option.some.inj (hself.symm.trans hx)
      exact ⟨hclosed, huser⟩
    rw [← settles, settles_iff ha hk]
    refine ⟨(hfound (v := u) (by simp [hm, SessionManager.registerSession])).1, fun hold => ?_⟩
    by_contra hne
    refine hne (hfound ?_).2.symm
    rw [hm, SessionManager.registerSession, Function.update_of_ne hne]
    exact hold

/-- Lookups find no session but an open one of the user, all along a run, exactly when every
user authenticates on an open session that the map does not hold under another user. -/
theorem finds_users_iff_settles (lib : Libraries) (ls : List Label) (s : State)
    (h : Run (step lib) Anything State.start ls s) :
    Along (step lib) FindsUsers State.start ls ↔
      Run (step lib) (fun s l => settles lib s l = true) State.start ls s :=
  h.along_iff faithful_start (fun _ hi => hi.findsUsers)
    (fun _ _ _ hi hc hs => hi.step hc hs) (fun _ _ _ _ hc hs => not_findsUsers hc hs)

def authFrame (u : String) : Json := .object [("type", .string "auth"), ("user_id", .string u)]

def sampleLibraries : Libraries :=
  (WebSample.libraries [authFrame "ann", authFrame "bob"]).toLibraries

def sampleAuth (k : ℕ) (u : String) : Label :=
  .frame k (WebSample.dump (authFrame u)).toByteArray ⟨true, 0, 0⟩

theorem finds_users_iff_settles_two_users :
    ∃ s, Run (step sampleLibraries) Anything State.start
        [.connect, .handshake 0 true, .connect, .handshake 1 true, sampleAuth 0 "ann",
          sampleAuth 1 "bob", sampleAuth 0 "ann", .readError 0] s ∧
      s.findSession "ann" = none ∧ s.findSession "bob" = some 1 ∧
      Along (step sampleLibraries) FindsUsers State.start
        [.connect, .handshake 0 true, .connect, .handshake 1 true, sampleAuth 0 "ann",
          sampleAuth 1 "bob", sampleAuth 0 "ann", .readError 0] := by
  obtain ⟨s, hrun, hann, hbob⟩ : ∃ s, Run (step sampleLibraries)
      (fun s l => settles sampleLibraries s l = true) State.start
        [.connect, .handshake 0 true, .connect, .handshake 1 true, sampleAuth 0 "ann",
          sampleAuth 1 "bob", sampleAuth 0 "ann", .readError 0] s ∧
      s.findSession "ann" = none ∧ s.findSession "bob" = some 1 :=
    exists_run _ (by decide +kernel)
  exact ⟨s, hrun.anything, hann, hbob,
    (finds_users_iff_settles sampleLibraries _ s hrun.anything).mpr hrun⟩

/-- A session that authenticates as one user and then as another is found as both. -/
theorem second_user_is_found_as_first :
    ∃ s, Run (step sampleLibraries) Anything State.start
        [.connect, .handshake 0 true, sampleAuth 0 "ann", sampleAuth 0 "bob"] s ∧
      s.findSession "ann" = some 0 ∧ (s.faces[0]?).map Face.userId = some "bob" ∧
      ¬ FindsUsers s := by
  obtain ⟨s, hrun, hfound, huser⟩ : ∃ s, Run (step sampleLibraries) Anything State.start
        [.connect, .handshake 0 true, sampleAuth 0 "ann", sampleAuth 0 "bob"] s ∧
      s.findSession "ann" = some 0 ∧ (s.faces[0]?).map Face.userId = some "bob" :=
    exists_run _ (by decide +kernel)
  refine ⟨s, hrun, hfound, huser, fun hf => ?_⟩
  obtain ⟨face, hface, -, hann⟩ := hf "ann" 0 hfound
  rw [hface, Option.map_some, hann] at huser
  exact absurd huser (by decide)

/-- A user who is authenticated on an open session is found, on such a session. -/
def ReachesUsers (s : State) : Prop :=
  ∀ u, u ≠ "" → (∃ k, Open s k u) → ∃ k, s.findSession u = some k ∧ Open s k u

def elsewhere (s : State) (k : ℕ) (u : String) : Bool :=
  s.faces.zipIdx.any fun (face, j) => j != k && !face.closed && face.userId == u

/-- No session ends, and none that the map points to authenticates as somebody else, while
another is open for its user; and no closed session authenticates as the user of an open one. -/
def spares (lib : Libraries) (s : State) (l : Label) : Bool :=
  ((l.auths? lib).all fun (k, u) => (s.faces[k]?).all fun face =>
    (!face.closed || !elsewhere s k u) &&
      (face.userId == u || s.manager face.userId != some k || !elsewhere s k face.userId)) &&
  l.fails?.all fun k => (s.faces[k]?).all fun face =>
    face.userId == "" || !elsewhere s k face.userId

theorem elsewhere_iff : elsewhere s k u = true ↔ ∃ j, j ≠ k ∧ Open s j u := by
  constructor
  · intro h
    obtain ⟨⟨face, j⟩, hmem, hface⟩ := List.any_eq_true.mp h
    have hj := List.mem_zipIdx_iff_getElem?.mp hmem
    simp only [Bool.and_eq_true, bne_iff_ne, Bool.not_eq_true', beq_iff_eq] at hface
    exact ⟨j, hface.1.1, face, hj, hface.1.2, hface.2⟩
  · rintro ⟨j, hne, face, hj, hopen, huser⟩
    refine List.any_eq_true.mpr ⟨(face, j), List.mem_zipIdx_iff_getElem?.mpr hj, ?_⟩
    simp [hne, hopen, huser]

theorem spares_auth_iff (ha : l.auths? lib = some (k, u)) (hl : l.fails? = none)
    (hk : s.faces[k]? = some face) : spares lib s l = true ↔
      (face.closed = true → ¬ ∃ j, j ≠ k ∧ Open s j u) ∧
      (face.userId ≠ u → s.manager face.userId = some k →
        ¬ ∃ j, j ≠ k ∧ Open s j face.userId) := by
  simp only [← elsewhere_iff]
  simp [spares, ha, hl, hk, imp_iff_not_or, or_assoc]

theorem spares_fail_iff (ha : l.auths? lib = none) (hl : l.fails? = some k)
    (hk : s.faces[k]? = some face) : spares lib s l = true ↔
      (face.userId ≠ "" → ¬ ∃ j, j ≠ k ∧ Open s j face.userId) := by
  simp only [← elsewhere_iff]
  simp [spares, ha, hl, hk, imp_iff_not_or]

/-- An open session of a user is the one that the map has, or the map has another. -/
structure Reaching (s : State) : Prop extends WF s where
  held : ∀ u, u ≠ "" → (∃ k, Open s k u) → ∃ k, s.manager u = some k ∧ Open s k u

theorem Reaching.reachesUsers (h : Reaching s) : ReachesUsers s := by
  intro u hu hopen
  obtain ⟨k, hm, hk⟩ := h.held u hu hopen
  obtain ⟨face, hface, hclosed, huser⟩ := hk
  have hread := h.reading k face hface (by rwa [huser]) hclosed
  exact ⟨k, findSession_of_reading hm hface hread, face, hface, hclosed, huser⟩

theorem reaching_start : Reaching State.start :=
  ⟨wf_start, fun u _ ⟨k, face, hk, _⟩ => by simp [State.start, State.faces] at hk⟩

theorem Reaching.congr (h : Reaching s) (hwf : WF s') (hm : s'.manager = s.manager)
    (ho : ∀ j v, v ≠ "" → (Open s' j v ↔ Open s j v)) : Reaching s' := by
  refine ⟨hwf, ?_⟩
  rintro v hv ⟨j, hj⟩
  obtain ⟨i, hi, hopen⟩ := h.held v hv ⟨j, (ho j v hv).mp hj⟩
  exact ⟨i, by rw [hm]; exact hi, (ho i v hv).mpr hopen⟩

theorem Reaching.auth (h : Reaching s) (hwf : WF s') (hk : s.faces[k]? = some face)
    (hf : s'.faces = s.faces.set k { face with userId := u })
    (hm : s'.manager = s.manager.registerSession u k)
    (hclosed : face.closed = true → ¬ ∃ j, j ≠ k ∧ Open s j u)
    (hmoved : face.userId ≠ u → s.manager face.userId = some k →
      ¬ ∃ j, j ≠ k ∧ Open s j face.userId) : Reaching s' := by
  refine ⟨hwf, ?_⟩
  rintro v hv ⟨j, hj⟩
  rw [open_set_iff hk hf] at hj
  by_cases hvu : v = u
  · -- the map now has the session that has just authenticated
    subst hvu
    have hopen : face.closed = false := by
      by_contra hne
      rcases hj with ⟨-, hj, -⟩ | hj
      · exact hne hj
      · exact hclosed (by simpa using hne) ⟨j, hj⟩
    refine ⟨k, by simp [hm, SessionManager.registerSession], ?_⟩
    rw [open_set_iff hk hf]
    exact .inl ⟨rfl, hopen, rfl⟩
  · obtain ⟨hjk, hjv⟩ : j ≠ k ∧ Open s j v := by
      rcases hj with ⟨-, -, hj⟩ | hj
      · exact absurd hj.symm hvu
      · exact hj
    obtain ⟨i, hi, hopen⟩ := h.held v hv ⟨j, hjv⟩
    refine ⟨i, ?_, ?_⟩
    · rw [hm, SessionManager.registerSession, Function.update_of_ne hvu]
      exact hi
    · refine hopen.set hk hf ?_
      rintro rfl rfl
      exact hmoved hvu hi ⟨j, hjk, hjv⟩

theorem Reaching.close {r : Bool} (h : Reaching s) (hwf : WF s') (hk : s.faces[k]? = some face)
    (hf : s'.faces = s.faces.set k { face with reading := r, closed := true })
    (hm : s'.manager =
      if face.userId = "" then s.manager else s.manager.removeSession face.userId)
    (hended : face.userId ≠ "" → ¬ ∃ j, j ≠ k ∧ Open s j face.userId) : Reaching s' := by
  refine ⟨hwf, ?_⟩
  rintro v hv ⟨j, hj⟩
  rw [open_set_iff hk hf] at hj
  obtain ⟨hjk, hjv⟩ : j ≠ k ∧ Open s j v := by
    rcases hj with ⟨-, hj, -⟩ | hj
    · cases hj
    · exact hj
  -- the entry that goes is that of a user with no other open session
  have hother : v ≠ face.userId := by
    rintro rfl
    exact hended hv ⟨j, hjk, hjv⟩
  obtain ⟨i, hi, hopen⟩ := h.held v hv ⟨j, hjv⟩
  refine ⟨i, ?_, ?_⟩
  · rw [hm]
    split
    · exact hi
    · rw [SessionManager.removeSession, Function.update_of_ne hother]
      exact hi
  · exact hopen.set hk hf fun _ => hother

theorem Reaching.step (h : Reaching s) (hc : spares lib s l = true)
    (hs : UserKeyed.step lib s l = some s') : Reaching s' := by
  have hwf := h.toWF.step hs
  cases step_change hs with
  | connect _ _ hf hm => exact h.congr hwf hm fun _ _ hv => open_append_iff hv hf
  | none _ _ hf hm =>
    refine h.congr hwf hm fun j v _ => ?_
    rw [Open, hf]
    rfl
  | @handshake k face ok _ _ hk _ hf hm =>
    refine h.congr hwf hm fun j v _ => ?_
    rw [open_set_iff hk hf]
    by_cases hj : j = k
    · rw [hj, open_self_iff hk]
      simp
    · simp [hj]
  | @auth k face u ha hl _ hk _ hf hm =>
    obtain ⟨hclosed, hmoved⟩ := (spares_auth_iff ha hl hk).mp hc
    exact h.auth hwf hk hf hm hclosed hmoved
  | @close k face r ha hl hk _ hf hm =>
    exact h.close hwf hk hf hm ((spares_fail_iff ha hl hk).mp hc)

theorem ReachesUsers.of_manager (h : ReachesUsers s) {j : ℕ} (hu : u ≠ "") (hj : Open s j u)
    (hm : s.manager u = some k) : Open s k u := by
  obtain ⟨i, hi, hopen⟩ := h u hu ⟨j, hj⟩
  obtain rfl : k = i := Option.some.inj (hm.symm.trans (manager_of_findSession hi))
  exact hopen

/-- Where a session that shares its user with an open one ends or authenticates as somebody
else, or a closed one authenticates as the user of an open one, the open one is lost at once. -/
theorem not_reachesUsers (h : WF s) (hc : ¬ spares lib s l = true)
    (hs : step lib s l = some s') : ¬ ReachesUsers s' := by
  intro hreach
  apply hc
  cases step_change hs with
  | connect ha hl _ _ => simp [spares, ha, hl]
  | handshake ha hl _ _ _ _ => simp [spares, ha, hl]
  | none ha hl _ _ => simp [spares, ha, hl]
  | @auth k face u ha hl hu hk hr hf hm =>
    rw [spares_auth_iff ha hl hk]
    refine ⟨fun hclosed => ?_, fun hne hheld => ?_⟩
    · rintro ⟨j, hjk, hj⟩
      have hj' : Open s' j u := (open_set_iff hk hf).mpr (.inr ⟨hjk, hj⟩)
      have hk' : Open s' k u :=
        hreach.of_manager hu hj' (by simp [hm, SessionManager.registerSession])
      rcases (open_set_iff hk hf).mp hk' with ⟨-, hopen, -⟩ | ⟨hself, -⟩
      · rw [hclosed] at hopen
        cases hopen
      · exact hself rfl
    · rintro ⟨j, hjk, hj⟩
      have hold := h.ne_empty hheld
      have hj' : Open s' j face.userId := (open_set_iff hk hf).mpr (.inr ⟨hjk, hj⟩)
      have hk' : Open s' k face.userId := by
        refine hreach.of_manager hold hj' ?_
        rw [hm, SessionManager.registerSession, Function.update_of_ne hne]
        exact hheld
      rcases (open_set_iff hk hf).mp hk' with ⟨-, -, huser⟩ | ⟨hself, -⟩
      · exact hne huser.symm
      · exact hself rfl
  | @close k face r ha hl hk hr hf hm =>
    rw [spares_fail_iff ha hl hk]
    rintro hu ⟨j, hjk, hj⟩
    obtain ⟨i, hi, -⟩ := hreach face.userId hu ⟨j, (open_set_iff hk hf).mpr (.inr ⟨hjk, hj⟩)⟩
    have hgone := manager_of_findSession hi
    rw [hm, if_neg hu, SessionManager.removeSession, Function.update_self] at hgone
    cases hgone

/-- Users who are connected are found, all along a run, exactly when no session ends and none
that the map points to authenticates as somebody else while another is open for its user, and
no closed session authenticates as the user of an open one. -/
theorem reaches_users_iff_spares (lib : Libraries) (ls : List Label) (s : State)
    (h : Run (step lib) Anything State.start ls s) :
    Along (step lib) ReachesUsers State.start ls ↔
      Run (step lib) (fun s l => spares lib s l = true) State.start ls s :=
  h.along_iff reaching_start (fun _ hi => hi.reachesUsers)
    (fun _ _ _ hi hc hs => hi.step hc hs) (fun _ _ _ hi hc hs => not_reachesUsers hi.toWF hc hs)

theorem reaches_users_iff_spares_two_sessions :
    ∃ s, Run (step sampleLibraries) Anything State.start
        [.connect, .handshake 0 true, .connect, .handshake 1 true, sampleAuth 0 "ann",
          sampleAuth 1 "ann"] s ∧
      s.findSession "ann" = some 1 ∧
      Along (step sampleLibraries) ReachesUsers State.start
        [.connect, .handshake 0 true, .connect, .handshake 1 true, sampleAuth 0 "ann",
          sampleAuth 1 "ann"] := by
  obtain ⟨s, hrun, hfound⟩ : ∃ s, Run (step sampleLibraries)
      (fun s l => spares sampleLibraries s l = true) State.start
        [.connect, .handshake 0 true, .connect, .handshake 1 true, sampleAuth 0 "ann",
          sampleAuth 1 "ann"] s ∧
      s.findSession "ann" = some 1 := exists_run _ (by decide +kernel)
  exact ⟨s, hrun.anything, hfound,
    (reaches_users_iff_spares sampleLibraries _ s hrun.anything).mpr hrun⟩

/-- The end of one of the two sessions of a user makes the other unreachable. -/
theorem other_session_is_lost :
    ∃ s, Run (step sampleLibraries) Anything State.start
        [.connect, .handshake 0 true, .connect, .handshake 1 true, sampleAuth 0 "ann",
          sampleAuth 1 "ann", .readError 0] s ∧
      s.findSession "ann" = none ∧ Open s 1 "ann" ∧ ¬ ReachesUsers s := by
  obtain ⟨s, hrun, hfound, hface⟩ : ∃ s, Run (step sampleLibraries) Anything State.start
        [.connect, .handshake 0 true, .connect, .handshake 1 true, sampleAuth 0 "ann",
          sampleAuth 1 "ann", .readError 0] s ∧
      s.findSession "ann" = none ∧ s.faces[1]? = some ⟨"ann", false, true, false⟩ :=
    exists_run _ (by decide +kernel)
  have hopen : Open s 1 "ann" := ⟨_, hface, rfl, rfl⟩
  refine ⟨s, hrun, hfound, hopen, fun hreach => ?_⟩
  obtain ⟨k, hk, -⟩ := hreach "ann" (by decide) ⟨1, hopen⟩
  rw [hfound] at hk
  cases hk

end UserKeyed

end Svitock
