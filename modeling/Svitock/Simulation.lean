import Mathlib.Logic.Basic

namespace Simulation

variable {σ τ κ ρ : Type*}

def after (call : σ → κ → σ × ρ) (s : σ) (ks : List κ) : σ := ks.foldl (fun s k => (call s k).1) s

def answers (call : σ → κ → σ × ρ) : σ → List κ → List ρ
  | _, [] => []
  | s, k :: ks => (call s k).2 :: answers call (call s k).1 ks

def Admits (call : σ → κ → σ × ρ) (C : σ → κ → Prop) : σ → List κ → Prop
  | _, [] => True
  | s, k :: ks => C s k ∧ Admits call C (call s k).1 ks

instance Admits.decidable (call : σ → κ → σ × ρ) (C : σ → κ → Prop) [∀ s k, Decidable (C s k)] :
    (s : σ) → (ks : List κ) → Decidable (Admits call C s ks)
  | _, [] => .isTrue trivial
  | s, k :: ks =>
    have := Admits.decidable call C (call s k).1 ks
    inferInstanceAs (Decidable (C s k ∧ Admits call C (call s k).1 ks))

/-- What one call of a simulation has to keep. -/
def Simulates (call : σ → κ → σ × ρ) (spec : τ → κ → τ × ρ) (C : σ → κ → Prop)
    (R : σ → τ → Prop) : Prop :=
  ∀ s t k, R s t → C s k → R (call s k).1 (spec t k).1 ∧ (call s k).2 = (spec t k).2

theorem Simulates.run {call : σ → κ → σ × ρ} {spec : τ → κ → τ × ρ} {C : σ → κ → Prop}
    {R : σ → τ → Prop} (h : Simulates call spec C R) {s : σ} {t : τ} (hR : R s t) {ks : List κ}
    (hC : Admits call C s ks) :
    R (after call s ks) (after spec t ks) ∧ answers call s ks = answers spec t ks := by
  induction ks generalizing s t with
  | nil => exact ⟨hR, rfl⟩
  | cons k ks ih =>
    obtain ⟨hk, hks⟩ := hC
    obtain ⟨hR', hanswer⟩ := h s t k hR hk
    obtain ⟨hafter, hrest⟩ := ih hR' hks
    exact ⟨hafter, by rw [answers, answers, hanswer, hrest]⟩

end Simulation
