import Svitock.Transition

namespace Transition

variable {σ Λ β : Type*} {step : σ → Λ → Option σ} {C : σ → Λ → Prop} {f : σ → Λ → List β}
  {s t : σ} {l : Λ} {ls : List Λ}

/-- What the labels show when they are taken one after another from `s`. -/
def observe (step : σ → Λ → Option σ) (f : σ → Λ → List β) : σ → List Λ → List β
  | _, [] => []
  | s, l :: ls => f s l ++ (step s l).elim [] (observe step f · ls)

theorem observe_append (h : Run step C s ls t) (ls' : List Λ) :
    observe step f s (ls ++ ls') = observe step f s ls ++ observe step f t ls' := by
  induction h generalizing ls' with
  | nil => rfl
  | @snoc ls l t u _ _ hs ih =>
    have hlast : observe step f t [l] = f t l := by simp [observe, hs]
    have hrest : observe step f t ([l] ++ ls') = f t l ++ observe step f u ls' := by
      simp [observe, hs]
    rw [List.append_assoc, ih, hrest, ih, hlast, List.append_assoc]

theorem observe_snoc (h : Run step C s ls t) :
    observe step f s (ls ++ [l]) = observe step f s ls ++ f t l := by
  rw [observe_append h]
  cases hs : step t l with
  | none => simp [observe, hs]
  | some u => simp [observe, hs]

/-- The invariant rule for a property of the state and of what was observed so far. -/
theorem Run.observed (h : Run step C s ls t) {I : List β → σ → Prop} (h0 : I [] s)
    (hstep : ∀ seen t l u, I seen t → C t l → step t l = some u → I (seen ++ f t l) u) :
    I (observe step f s ls) t := by
  induction h with
  | nil => exact h0
  | snoc hrun hc hs ih =>
    rw [observe_snoc hrun]
    exact hstep _ _ _ _ ih hc hs

end Transition
