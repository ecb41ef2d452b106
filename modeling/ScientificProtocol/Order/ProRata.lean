import Mathlib.Algebra.BigOperators.Group.List.Basic
import Mathlib.Algebra.Order.BigOperators.Group.List
import Mathlib.Algebra.Ring.Nat

/-!
# Splitting an amount by weight

An amount is split among weights in proportion, and every share is rounded down. What is
rounded away is less than one unit for each weight that is not zero, so the shares never
exceed the amount (`ProRata.sum_share_le`) and leave less of it than there are weights to
share it (`ProRata.amount_sub_sum_lt`). A share grows with the amount and with the weight,
and it does not change if all weights are multiplied by the same number
(`ProRata.share_mul_left`).
-/

namespace ProRata

/-- The share of a weight, of all the weights there are. -/
def share (amount total weight : ℕ) : ℕ := amount * weight / total

variable {amount amount' total weight weight' : ℕ} {weights : List ℕ}

@[simp] theorem share_zero_left : share 0 total weight = 0 := by
  rw [share, Nat.zero_mul, Nat.zero_div]

@[simp] theorem share_zero_right : share amount total 0 = 0 := by
  rw [share, Nat.mul_zero, Nat.zero_div]

/-- A share grows with the amount. -/
theorem share_mono_amount (h : amount ≤ amount') :
    share amount total weight ≤ share amount' total weight :=
  Nat.div_le_div_right (Nat.mul_le_mul_right weight h)

/-- A share grows with the weight. -/
theorem share_mono_weight (h : weight ≤ weight') :
    share amount total weight ≤ share amount total weight' :=
  Nat.div_le_div_right (Nat.mul_le_mul_left amount h)

/-- **Only the proportions count.** -/
theorem share_mul_left {c : ℕ} (hc : 0 < c) :
    share amount (c * total) (c * weight) = share amount total weight := by
  rw [share, Nat.mul_left_comm, Nat.mul_div_mul_left _ _ hc, share]

/-- What the shares and the remainders come to. -/
theorem total_mul_sum_share (amount total : ℕ) (weights : List ℕ) :
    total * (weights.map (share amount total)).sum + (weights.map (amount * · % total)).sum =
      amount * weights.sum := by
  induction weights with
  | nil => simp
  | cons weight weights ih =>
    have hdiv := Nat.div_add_mod (amount * weight) total
    simp only [List.map_cons, List.sum_cons, Nat.mul_add, share] at ih ⊢
    omega

/-- **The shares never exceed the amount.** -/
theorem sum_share_le (amount : ℕ) (weights : List ℕ) :
    (weights.map (share amount weights.sum)).sum ≤ amount := by
  rcases Nat.eq_zero_or_pos weights.sum with hzero | hpos
  · have hshares : ∀ n ∈ weights.map (share amount weights.sum), n = 0 := by
      intro n hn
      obtain ⟨weight, -, rfl⟩ := List.mem_map.mp hn
      rw [hzero, share, Nat.div_zero]
    rw [List.sum_eq_zero hshares]
    exact Nat.zero_le _
  · have htotal := total_mul_sum_share amount weights.sum weights
    rw [Nat.mul_comm amount] at htotal
    exact Nat.le_of_mul_le_mul_left (htotal ▸ Nat.le_add_right _ _) hpos

/-- The remainders of a division, one for each weight that is not zero. -/
theorem sum_mod_add_countP (amount : ℕ) (weights : List ℕ) (hpos : 0 < total) :
    (weights.map (amount * · % total)).sum + weights.countP (0 < ·) ≤
      weights.countP (0 < ·) * total := by
  induction weights with
  | nil => simp
  | cons weight weights ih =>
    rcases Nat.eq_zero_or_pos weight with rfl | hweight
    · simpa [List.countP_cons] using ih
    · have hmod : amount * weight % total < total := Nat.mod_lt _ hpos
      simp only [List.map_cons, List.sum_cons, List.countP_cons, hweight, decide_true, if_true,
        Nat.add_mul, Nat.one_mul]
      omega

/-- **Less is left over than there are weights** that are not zero. -/
theorem amount_sub_sum_lt (amount : ℕ) {weights : List ℕ} (hpos : 0 < weights.sum) :
    amount - (weights.map (share amount weights.sum)).sum < weights.countP (0 < ·) := by
  have htotal := total_mul_sum_share amount weights.sum weights
  have hmod := sum_mod_add_countP amount weights hpos
  have hcount : 0 < weights.countP (0 < ·) := by
    obtain ⟨weight, hmem, hweight⟩ : ∃ weight ∈ weights, 0 < weight := by
      by_contra hnone
      refine absurd (List.sum_eq_zero fun weight hmem => ?_) (Nat.ne_of_gt hpos)
      exact Nat.eq_zero_of_not_pos fun hweight => hnone ⟨weight, hmem, hweight⟩
    exact List.countP_pos_iff.mpr ⟨weight, hmem, decide_eq_true hweight⟩
  -- The remainders of the shares add up to what is left over, as often as there are weights.
  refine Nat.lt_of_mul_lt_mul_left (a := weights.sum) ?_
  rw [Nat.mul_sub, Nat.mul_comm weights.sum amount, Nat.mul_comm _ (weights.countP _)]
  omega

end ProRata
