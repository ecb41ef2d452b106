import Mathlib.Algebra.BigOperators.Ring.List
import Mathlib.Algebra.Order.BigOperators.Group.List
import Mathlib.Algebra.Order.Field.Rat
import Mathlib.Data.Rat.Floor
import Mathlib.Tactic.Linarith
import Mathlib.Tactic.Positivity

/-!
# Rounded averages

Rounding half up, as scripts do, and averages with weights. Rounding keeps the order and leaves
integers as they are, so what lies between two integers does so when it is rounded
(`Rounding.le_round`, `Rounding.round_le`). An average with weights does not depend on the order of
its entries and lies between bounds of its values (`Rounding.mean_perm`, `Rounding.le_mean`,
`Rounding.mean_le`).
-/

namespace Rounding

/-- Half up. -/
def round (value : ℚ) : ℤ := ⌊value + 1 / 2⌋

theorem round_mono {a b : ℚ} (h : a ≤ b) : round a ≤ round b :=
  Int.floor_le_floor (by linarith)

@[simp] theorem round_intCast (n : ℤ) : round n = n := by
  rw [round, Int.floor_eq_iff]
  constructor
  · linarith
  · linarith

theorem le_round {n : ℤ} {value : ℚ} (h : n ≤ value) : n ≤ round value := by
  rw [← round_intCast n]
  exact round_mono h

theorem round_le {n : ℤ} {value : ℚ} (h : value ≤ n) : round value ≤ n := by
  rw [← round_intCast n]
  exact round_mono h

/-! ### Averages -/

section

variable {α : Type} (value weight : α → ℚ)

/-- The average of some values with weights. -/
def mean (entries : List α) : ℚ :=
  (entries.map fun a => value a * weight a).sum / (entries.map weight).sum

variable {value weight}

theorem mean_perm {entries entries' : List α} (h : entries.Perm entries') :
    mean value weight entries = mean value weight entries' := by
  rw [mean, mean, (h.map _).sum_eq, (h.map _).sum_eq]

/-- Entries with positive weights have some weight. -/
theorem sum_weight_pos {entries : List α} (hne : entries ≠ [])
    (hpos : ∀ a ∈ entries, 0 < weight a) : 0 < (entries.map weight).sum := by
  refine List.sum_pos _ (fun w hw => ?_) (by simpa using hne)
  obtain ⟨a, ha, rfl⟩ := List.mem_map.mp hw
  exact hpos a ha

theorem le_mean {entries : List α} (hne : entries ≠ []) (hpos : ∀ a ∈ entries, 0 < weight a)
    {bound : ℚ} (h : ∀ a ∈ entries, bound ≤ value a) : bound ≤ mean value weight entries := by
  rw [mean, le_div_iff₀ (sum_weight_pos hne hpos), ← List.sum_map_mul_left]
  refine List.sum_le_sum fun a ha => ?_
  exact mul_le_mul_of_nonneg_right (h a ha) (hpos a ha).le

theorem mean_le {entries : List α} (hne : entries ≠ []) (hpos : ∀ a ∈ entries, 0 < weight a)
    {bound : ℚ} (h : ∀ a ∈ entries, value a ≤ bound) : mean value weight entries ≤ bound := by
  rw [mean, div_le_iff₀ (sum_weight_pos hne hpos), ← List.sum_map_mul_left]
  refine List.sum_le_sum fun a ha => ?_
  exact mul_le_mul_of_nonneg_right (h a ha) (hpos a ha).le

end

end Rounding
