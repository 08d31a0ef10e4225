import Mathlib.Data.List.Induction

/-!
# Runs of a step function

A system is a partial step function on states, driven by labels; a label the
system cannot take in a state has no successor there. `Run step C s ls t` says
that the labels `ls` lead from `s` to `t` and that each of them, taken in the
state before it, met the condition `C`. The condition `Anything` admits every
run, so one relation serves for all interleavings and for a restricted kind of
them.
-/

namespace Transition

variable {σ Λ : Type*} {step : σ → Λ → Option σ} {C D : σ → Λ → Prop}

inductive Run (step : σ → Λ → Option σ) (C : σ → Λ → Prop) (s : σ) : List Λ → σ → Prop
  | nil : Run step C s [] s
  | snoc {ls : List Λ} {l : Λ} {t u : σ} :
      Run step C s ls t → C t l → step t l = some u → Run step C s (ls ++ [l]) u

/-- The condition that rules nothing out. -/
def Anything (_ : σ) (_ : Λ) : Prop := True

theorem Run.mono {s t : σ} {ls : List Λ} (h : Run step C s ls t)
    (hCD : ∀ s l, C s l → D s l) : Run step D s ls t := by
  induction h with
  | nil => exact .nil
  | snoc _ hc hs ih => exact .snoc ih (hCD _ _ hc) hs

theorem Run.anything {s t : σ} {ls : List Λ} (h : Run step C s ls t) :
    Run step Anything s ls t :=
  h.mono fun _ _ _ => trivial

/-- The invariant rule: what holds at the start and survives every admitted
step holds at the end of every run. -/
theorem Run.invariant {s t : σ} {ls : List Λ} (h : Run step C s ls t) {I : σ → Prop} (h0 : I s)
    (hstep : ∀ t l u, I t → C t l → step t l = some u → I u) : I t := by
  induction h with
  | nil => exact h0
  | snoc _ hc hs ih => exact hstep _ _ _ ih hc hs

/-- The invariant rule for a property of the state and of the labels so far. -/
theorem Run.history {s t : σ} {ls : List Λ} (h : Run step C s ls t) {I : List Λ → σ → Prop}
    (h0 : I [] s)
    (hstep : ∀ ls t l u, I ls t → C t l → step t l = some u → I (ls ++ [l]) u) : I ls t := by
  induction h with
  | nil => exact h0
  | snoc _ hc hs ih => exact hstep _ _ _ _ ih hc hs

theorem Run.trans {s t u : σ} {ls ls' : List Λ} (h : Run step C s ls t) (h' : Run step C t ls' u) :
    Run step C s (ls ++ ls') u := by
  induction h' with
  | nil => simpa using h
  | snoc _ hc hs ih =>
    rw [← List.append_assoc]
    exact .snoc ih hc hs

theorem Run.single {s t : σ} {l : Λ} (hc : C s l) (hs : step s l = some t) :
    Run step C s [l] t := by
  have hnil : Run step C s [] s := .nil
  simpa using hnil.snoc hc hs

theorem Run.unique {s t u : σ} {ls : List Λ} (h : Run step C s ls t) (h' : Run step D s ls u) :
    t = u := by
  induction h generalizing u with
  | nil =>
    generalize hls : ([] : List Λ) = ls at h'
    cases h' with
    | nil => rfl
    | snoc _ _ _ => simp at hls
  | @snoc ls l t t' _ _ hs ih =>
    generalize hls : ls ++ [l] = ls' at h'
    cases h' with
    | nil => simp at hls
    | @snoc ls' l' v u hrun _ hs' =>
      obtain ⟨rfl, hl⟩ := List.append_inj' hls rfl
      obtain rfl : l = l' := by simpa using hl
      obtain rfl := ih hrun
      exact Option.some.inj (hs.symm.trans hs')

theorem Run.take {s t : σ} {ls ls' : List Λ} (h : Run step C s (ls ++ ls') t) :
    ∃ u, Run step C s ls u := by
  induction ls' using List.reverseRecOn generalizing t with
  | nil => exact ⟨t, by simpa using h⟩
  | append_singleton ls' l ih =>
    rw [← List.append_assoc] at h
    generalize hls : ls ++ ls' ++ [l] = all at h
    cases h with
    | nil => simp at hls
    | @snoc front l' v _ hrun _ _ =>
      obtain ⟨rfl, -⟩ := List.append_inj' hls rfl
      exact ih hrun

theorem Run.of_snoc {s u : σ} {ls : List Λ} {l : Λ} (h : Run step C s (ls ++ [l]) u) :
    ∃ t, Run step C s ls t ∧ C t l ∧ step t l = some u := by
  generalize hls : ls ++ [l] = all at h
  cases h with
  | nil => simp at hls
  | @snoc front l' t _ hrun hc hs =>
    obtain ⟨rfl, hl⟩ := List.append_inj' hls rfl
    obtain rfl : l = l' := by simpa using hl
    exact ⟨t, hrun, hc, hs⟩

/-- The rule for a fault that stays: where it is there after a step exactly if it was there
before or the step did not meet the condition, a run without it at the end is one whose
steps all met the condition. -/
theorem Run.faultless_iff {s t : σ} {ls : List Λ} (h : Run step Anything s ls t) {I F : σ → Prop}
    (hI : I s) (hF : ¬ F s) (hkeep : ∀ t l u, I t → step t l = some u → I u)
    (hstep : ∀ t l u, I t → step t l = some u → (F u ↔ F t ∨ ¬ C t l)) :
    Run step C s ls t ↔ ¬ F t := by
  induction h with
  | nil => exact iff_of_true .nil hF
  | @snoc ls l t u hrun _ hs ih =>
    have hi := hrun.invariant hI fun t l u hi _ hs => hkeep t l u hi hs
    rw [hstep t l u hi hs, not_or, not_not, ← ih]
    constructor
    · intro h'
      obtain ⟨v, hv, hc, -⟩ := h'.of_snoc
      obtain rfl := hrun.unique hv
      exact ⟨hv, hc⟩
    · rintro ⟨hbefore, hc⟩
      exact hbefore.snoc hc hs

def Along (step : σ → Λ → Option σ) (P : σ → Prop) (s : σ) (ls : List Λ) : Prop :=
  ∀ ls' t, ls' <+: ls → Run step Anything s ls' t → P t

/-- The rule for an exact condition: where every step that meets it keeps the invariant, from
which the property follows, and every step that does not breaks the property, the property
holds all along a run exactly when all steps meet the condition. -/
theorem Run.along_iff {s t : σ} {ls : List Λ} (h : Run step Anything s ls t) {I P : σ → Prop}
    (hI : I s) (hP : ∀ t, I t → P t)
    (hstep : ∀ t l u, I t → C t l → step t l = some u → I u)
    (hbreak : ∀ t l u, I t → ¬ C t l → step t l = some u → ¬ P u) :
    Along step P s ls ↔ Run step C s ls t := by
  constructor
  · intro hall
    induction h with
    | nil => exact .nil
    | @snoc ls l t u hrun _ hs ih =>
      have hbefore : Run step C s ls t :=
        ih fun ls' v hpre => hall ls' v (hpre.trans (List.prefix_append _ _))
      have hc : C t l := by
        by_contra hne
        exact hbreak t l u (hbefore.invariant hI hstep) hne hs
          (hall _ u List.prefix_rfl (hrun.snoc trivial hs))
      exact .snoc hbefore hc hs
  · rintro hrun ls' u ⟨rest, rfl⟩ hu
    obtain ⟨v, hv⟩ := hrun.take
    rw [hu.unique hv]
    exact hP v (hv.invariant hI hstep)

theorem Run.along_of_all {s t : σ} {ls : List Λ} {P : σ → Bool}
    (h : Run step (fun s l => (step s l).all P = true) s ls t) (h0 : P s = true) :
    Along step (fun s => P s = true) s ls := by
  refine (h.anything.along_iff h0 (fun _ hi => hi) (fun t l u _ hc hs => ?_)
    fun t l u _ hne hs hP => hne ?_).mpr h
  · rwa [hs] at hc
  · rwa [hs]

/-- Runs labels one after another, giving up at the first one that the system
cannot take or the condition does not admit. -/
def exec (step : σ → Λ → Option σ) (C : σ → Λ → Prop) [∀ s l, Decidable (C s l)] :
    σ → List Λ → Option σ
  | s, [] => some s
  | s, l :: ls => if C s l then (step s l).bind (exec step C · ls) else none

theorem exec_run [∀ s l, Decidable (C s l)] {s t : σ} {ls : List Λ}
    (h : exec step C s ls = some t) : Run step C s ls t := by
  induction ls generalizing s with
  | nil =>
    cases h
    exact .nil
  | cons l ls ih =>
    rw [exec] at h
    split_ifs at h with hc
    obtain ⟨u, hu, ht⟩ := Option.bind_eq_some_iff.mp h
    exact (Run.single hc hu).trans (ih ht)

theorem Run.exec [∀ s l, Decidable (C s l)] {s t : σ} {ls : List Λ} (h : Run step C s ls t) :
    exec step C s ls = some t := by
  have happend (ls : List Λ) (l : Λ) (s : σ) : Transition.exec step C s (ls ++ [l]) =
      (Transition.exec step C s ls).bind (Transition.exec step C · [l]) := by
    induction ls generalizing s with
    | nil => rfl
    | cons l' ls ih =>
      rw [List.cons_append, Transition.exec, Transition.exec]
      split
      · cases step s l' with
        | none => rfl
        | some u => exact ih u
      · rfl
  induction h with
  | nil => rfl
  | snoc _ hc hs ih => simp [happend, ih, Transition.exec, hc, hs]

/-- A run found by computation, with what can be checked of its end. -/
theorem exists_run [∀ s l, Decidable (C s l)] {s : σ} {ls : List Λ} (P : σ → Prop)
    [DecidablePred P] (h : (exec step C s ls).any (fun t => decide (P t)) = true) :
    ∃ t, Run step C s ls t ∧ P t := by
  obtain ⟨t, ht, hP⟩ := (Option.any_eq_true _ _).mp h
  exact ⟨t, exec_run ht, of_decide_eq_true hP⟩

theorem exists_run_run [∀ s l, Decidable (C s l)] [∀ s l, Decidable (D s l)] {s : σ}
    {ls ls' : List Λ} (P : σ → σ → Prop) [∀ s t, Decidable (P s t)]
    (h : (exec step C s ls).any (fun t => (exec step D t ls').any fun u => decide (P t u)) = true) :
    ∃ t u, Run step C s ls t ∧ Run step D t ls' u ∧ P t u := by
  obtain ⟨t, ht, h⟩ := (Option.any_eq_true _ _).mp h
  obtain ⟨u, hu, hP⟩ := (Option.any_eq_true _ _).mp h
  exact ⟨t, u, exec_run ht, exec_run hu, of_decide_eq_true hP⟩

instance (s : σ) (l : Λ) : Decidable (Anything s l) := .isTrue trivial

section History

variable {α : Type*} {P : List α → α → Prop} {h : List α} {x : α}

/-- Every element of a history is as `P` wants it after the ones before it. -/
def Preceded (P : List α → α → Prop) (h : List α) : Prop :=
  ∀ before x after, h = before ++ x :: after → P before x

theorem preceded_nil : Preceded P [] := by
  intro before x after h
  simp at h

theorem preceded_append_singleton : Preceded P (h ++ [x]) ↔ Preceded P h ∧ P h x := by
  constructor
  · intro hp
    refine ⟨fun before y after hh => ?_, hp h x [] rfl⟩
    exact hp before y (after ++ [x]) (by simp [hh])
  · rintro ⟨hp, hx⟩ before y after hh
    rcases List.eq_nil_or_concat after with rfl | ⟨after, z, rfl⟩
    · obtain ⟨rfl, hxy⟩ := List.append_inj' hh rfl
      obtain rfl : x = y := by simpa using hxy
      exact hx
    · refine hp before y after ?_
      rw [List.concat_eq_append, ← List.cons_append, ← List.append_assoc] at hh
      exact (List.append_inj' hh rfl).1

theorem Preceded.left {h' : List α} (hp : Preceded P (h ++ h')) : Preceded P h := by
  intro before x after hh
  exact hp before x (after ++ h') (by simp [hh])

theorem Preceded.snoc (hp : Preceded P h) (hx : P h x) : Preceded P (h ++ [x]) :=
  preceded_append_singleton.mpr ⟨hp, hx⟩

end History

section Components

variable {α : Type*} {l : List α} {k j : ℕ} {a b x : α}

theorem getElem?_set_cases (h : (l.set k b)[j]? = some x) :
    (j = k ∧ x = b) ∨ (j ≠ k ∧ l[j]? = some x) := by
  rw [List.getElem?_set] at h
  split at h
  · next hkj =>
    subst hkj
    split at h
    · exact .inl ⟨rfl, (Option.some.inj h).symm⟩
    · cases h
  · next hkj => exact .inr ⟨Ne.symm hkj, h⟩

theorem getElem?_set_iff (hk : l[k]? = some a) :
    (l.set k b)[j]? = some x ↔ (j = k ∧ x = b) ∨ (j ≠ k ∧ l[j]? = some x) := by
  refine ⟨getElem?_set_cases, ?_⟩
  have hlt := (List.getElem?_eq_some_iff.mp hk).1
  rintro (⟨rfl, rfl⟩ | ⟨hne, hx⟩)
  · simp [hlt]
  · rw [List.getElem?_set_ne (Ne.symm hne), hx]

theorem getElem?_set_of_some (hk : l[k]? = some a) (hj : l[j]? = some x) :
    (l.set k b)[j]? = some (if j = k then b else x) := by
  rw [getElem?_set_iff hk]
  by_cases hjk : j = k
  · simp [hjk]
  · simp [hjk, hj]

theorem getElem?_append_singleton_cases (h : (l ++ [b])[j]? = some x) :
    l[j]? = some x ∨ (j = l.length ∧ x = b) := by
  rw [List.getElem?_append] at h
  split at h
  · exact .inl h
  · obtain ⟨hlt, rfl⟩ := List.getElem?_eq_some_iff.mp h
    rw [List.length_singleton] at hlt
    exact .inr ⟨by omega, by simp⟩

end Components

end Transition
