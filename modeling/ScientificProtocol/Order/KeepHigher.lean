import Mathlib.Data.List.Perm.Basic
import Mathlib.Order.Defs.LinearOrder
import Mathlib.Tactic.Order

/-!
# Keeping the higher of two

A value that only ever moves up: each newcomer replaces it exactly if its rank is
higher. Folding a list of newcomers into a start keeps the first of those that stand
highest, so the order of the list matters only among newcomers of equal rank
(`Ranked.foldl_keepHigher_perm`).
-/

namespace Ranked

variable {α β : Type} [LinearOrder β] (rank : α → β)

/-- The second value if it stands higher, and otherwise the first. -/
def keepHigher (s t : α) : α := if rank s < rank t then t else s

variable {rank}

theorem rank_le_keepHigher (s t : α) : rank s ≤ rank (keepHigher rank s t) := by
  unfold keepHigher
  split
  next hlt => exact hlt.le
  next => exact le_rfl

theorem rank_le_keepHigher_right (s t : α) : rank t ≤ rank (keepHigher rank s t) := by
  unfold keepHigher
  split
  next => exact le_rfl
  next hle => exact not_lt.mp hle

/-- Two values that stand at different heights can be kept in either order. -/
theorem keepHigher_comm {t t' : α} (h : rank t = rank t' → t = t') (s : α) :
    keepHigher rank (keepHigher rank s t) t' = keepHigher rank (keepHigher rank s t') t := by
  by_cases heq : t = t'
  · rw [heq]
  · have hne : rank t ≠ rank t' := fun hrank => heq (h hrank)
    unfold keepHigher
    -- Of two newcomers above `s` the higher one stays, whichever comes first.
    split_ifs <;> first | rfl | (exfalso; order)

variable (rank) in
/-- **Keeping the highest does not depend on the order**, if no two values stand
equally high. -/
theorem foldl_keepHigher_perm {ts ts' : List α} (hperm : ts.Perm ts')
    (h : ∀ t ∈ ts, ∀ t' ∈ ts, rank t = rank t' → t = t') (s : α) :
    ts.foldl (keepHigher rank) s = ts'.foldl (keepHigher rank) s :=
  hperm.foldl_eq' (fun t ht t' ht' s => keepHigher_comm (h t ht t' ht') s) s

/-- What stands as high as anything in the list stays. -/
theorem foldl_keepHigher_eq_self {ts : List α} {s : α} (h : ∀ t ∈ ts, rank t ≤ rank s) :
    ts.foldl (keepHigher rank) s = s := by
  induction ts with
  | nil => rfl
  | cons t ts ih =>
    have hstays : keepHigher rank s t = s := if_neg (not_lt.mpr (h t List.mem_cons_self))
    rw [List.foldl_cons, hstays]
    exact ih fun t' ht' => h t' (List.mem_cons_of_mem t ht')

/-- Nothing in the list stands higher than what is kept, nor does the start. -/
theorem rank_le_foldl_keepHigher (ts : List α) (s : α) :
    rank s ≤ rank (ts.foldl (keepHigher rank) s) ∧
      ∀ t ∈ ts, rank t ≤ rank (ts.foldl (keepHigher rank) s) := by
  induction ts generalizing s with
  | nil => exact ⟨le_rfl, by simp⟩
  | cons t ts ih =>
    rw [List.foldl_cons]
    obtain ⟨hstart, hrest⟩ := ih (keepHigher rank s t)
    refine ⟨(rank_le_keepHigher s t).trans hstart, fun t' ht' => ?_⟩
    rcases List.mem_cons.mp ht' with rfl | ht'
    · exact (rank_le_keepHigher_right s t').trans hstart
    · exact hrest t' ht'

variable (rank) in
/-- What is kept is the start or from the list. -/
theorem foldl_keepHigher_mem (ts : List α) (s : α) :
    ts.foldl (keepHigher rank) s = s ∨ ts.foldl (keepHigher rank) s ∈ ts := by
  induction ts generalizing s with
  | nil => exact .inl rfl
  | cons t ts ih =>
    rw [List.foldl_cons]
    rcases ih (keepHigher rank s t) with heq | hmem
    · rw [heq]
      unfold keepHigher
      split
      · exact .inr List.mem_cons_self
      · exact .inl rfl
    · exact .inr (List.mem_cons_of_mem t hmem)

end Ranked
