import Mathlib.Data.Int.CardIntervalMod

namespace RoundRobin

variable {n k : ℕ}

/-- Whose turn it was, for the first `k` turns of `n`. -/
def turns (n k : ℕ) : List ℕ := (List.range k).map (· % n)

theorem length_turns : (turns n k).length = k := by simp [turns]

theorem lt_of_mem_turns (hn : 0 < n) {a : ℕ} (ha : a ∈ turns n k) : a < n := by
  obtain ⟨i, -, rfl⟩ := List.mem_map.mp ha
  exact Nat.mod_lt i hn

theorem window_eq (i : ℕ) :
    ((turns n k).drop i).take n = (List.range' i (min (i + n) k - i)).map (· % n) := by
  rw [turns, ← List.map_drop, ← List.map_take, List.take_drop, List.take_range,
    List.range_eq_range', List.drop_range']
  simp

theorem nodup_window (i : ℕ) : (((turns n k).drop i).take n).Nodup := by
  rw [window_eq]
  refine List.Nodup.map_on (fun x hx y hy h => ?_) (List.nodup_range' 1)
  rw [List.mem_range'_1] at hx hy
  have hwindow : ∀ z, i ≤ z ∧ z < i + (min (i + n) k - i) → z ∈ Finset.Ico i (i + n) := by
    intro z hz
    rw [Finset.mem_Ico]
    omega
  exact Nat.mod_injOn_Ico i n (hwindow x hx) (hwindow y hy) h

theorem count_turns (hn : 0 < n) {a : ℕ} (ha : a < n) :
    (turns n k).count a = k / n + if a < k % n then 1 else 0 := by
  have hmod : a % n = a := Nat.mod_eq_of_lt ha
  have hcard := Nat.count_modEq_card (b := k) hn a
  rw [hmod] at hcard
  rw [← hcard, turns, List.count, List.countP_map, Nat.count]
  refine List.countP_congr fun i _ => ?_
  simp [Nat.ModEq, hmod]

theorem count_turns_le (hn : 0 < n) {a b : ℕ} (ha : a < n) (hb : b < n) :
    (turns n k).count a ≤ (turns n k).count b + 1 := by
  rw [count_turns hn ha, count_turns hn hb]
  split_ifs <;> omega

end RoundRobin
