import Svitock.Transition

namespace Transition

variable {σ Λ τ M : Type*} {step : σ → Λ → Option σ} {C : σ → Λ → Prop} {s t : σ} {ls : List Λ}

/-- A part of the state that every step leaves as it is or takes through a step of its own. -/
theorem Run.part {part : τ → M → Option τ} (h : Run step C s ls t) (π : σ → τ)
    (hstep : ∀ t l u, step t l = some u → π u = π t ∨ ∃ m, part (π t) m = some (π u)) :
    ∃ ms, Run part Anything (π s) ms (π t) := by
  induction h with
  | nil => exact ⟨[], .nil⟩
  | @snoc ls l t u _ _ hs ih =>
    obtain ⟨ms, hms⟩ := ih
    rcases hstep t l u hs with heq | ⟨m, hm⟩
    · exact ⟨ms, heq ▸ hms⟩
    · exact ⟨ms ++ [m], hms.snoc trivial hm⟩

/-- What a step of a system may do to a list of components: nothing, add a new one at the
end, or take one of them through a step of its own. -/
inductive Touches (part : τ → M → Option τ) (fresh : τ) (cs : List τ) : List τ → Prop
  | none : Touches part fresh cs cs
  | spawn : Touches part fresh cs (cs ++ [fresh])
  | own {i : ℕ} {c c' : τ} {m : M} (hi : cs[i]? = some c) (hm : part c m = some c') :
      Touches part fresh cs (cs.set i c')

/-- Each component of a system that starts without any has made a run of its own. -/
theorem Run.component {part : τ → M → Option τ} {fresh : τ} (h : Run step C s ls t)
    (π : σ → List τ) (h0 : π s = [])
    (hstep : ∀ t l u, step t l = some u → Touches part fresh (π t) (π u)) :
    ∀ (i : ℕ) (c : τ), (π t)[i]? = some c → ∃ ms, Run part Anything fresh ms c := by
  refine h.invariant (I := fun t => ∀ (i : ℕ) (c : τ), (π t)[i]? = some c →
    ∃ ms, Run part Anything fresh ms c) (by simp [h0]) ?_
  intro t l u ih _ hs i c hc
  generalize hu : π u = cs at hc
  have htouch := hstep t l u hs
  rw [hu] at htouch
  cases htouch with
  | none => exact ih i c hc
  | spawn =>
    rcases getElem?_append_singleton_cases hc with hc | ⟨-, rfl⟩
    · exact ih i c hc
    · exact ⟨[], .nil⟩
  | @own k d d' m hd hm =>
    rcases getElem?_set_cases hc with ⟨-, rfl⟩ | ⟨-, hc⟩
    · obtain ⟨ms, hms⟩ := ih k d hd
      exact ⟨ms ++ [m], hms.snoc trivial hm⟩
    · exact ih i c hc

end Transition
