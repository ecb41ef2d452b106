import Mathlib.Algebra.BigOperators.Group.List.Basic
import Mathlib.Algebra.Ring.Nat
import Mathlib.Data.List.Range

/-!
# Ledgers of numbered steps

Somebody pays towards a target that moves: each entry of the ledger has a number, an
amount, and the total it means to reach. In a `Concurrency.StepLedger` the entries are
numbered from one, and each of them reaches what it means to.

Whoever makes an entry may have looked at the ledger long before. A `Concurrency.View` is
what it saw: the first so many entries, and their total. A view never becomes false, it
only becomes old, and an entry made from a view that is as long as the ledger is right
(`Concurrency.StepLedger.snoc_of_view`).
-/

namespace Concurrency

section

variable {ε : Type} (step amount target : ε → ℕ)

/-- **A ledger of numbered steps**: each entry has the next number, and brings the total to
its target. -/
inductive StepLedger : List ε → Prop
  | nil : StepLedger []
  | snoc {entries : List ε} {entry : ε} : StepLedger entries →
      step entry = entries.length + 1 →
      (entries.map amount).sum + amount entry = target entry → StepLedger (entries ++ [entry])

/-- What somebody saw of a ledger: its first entries, and their total. -/
structure View (entries : List ε) (seen total : ℕ) : Prop where
  seen_le : seen ≤ entries.length
  total_eq : total = ((entries.take seen).map amount).sum

variable {step amount target} {entries : List ε} {entry : ε} {seen total bound : ℕ}

namespace StepLedger

/-- The last step of a ledger. -/
theorem last (h : StepLedger step amount target (entries ++ [entry])) :
    StepLedger step amount target entries ∧ step entry = entries.length + 1 ∧
      (entries.map amount).sum + amount entry = target entry := by
  generalize hsnoc : entries ++ [entry] = whole at h
  cases h with
  | nil => exact absurd hsnoc (by simp)
  | snoc h hstep htotal =>
    obtain ⟨rfl, heq⟩ := List.append_inj' hsnoc rfl
    obtain rfl := (List.cons.inj heq).1
    exact ⟨h, hstep, htotal⟩

/-- **The steps are numbered from one, without gaps.** -/
theorem map_step (h : StepLedger step amount target entries) :
    entries.map step = List.range' 1 entries.length := by
  induction h with
  | nil => rfl
  | snoc h hstep _ ih =>
    rw [List.map_append, ih, List.length_append, List.map_singleton, List.length_singleton,
      List.range'_concat, hstep, Nat.one_mul, Nat.add_comm 1]

/-- **After every entry the total is what the entry meant it to be.** -/
theorem total_eq (h : StepLedger step amount target (entries ++ [entry])) :
    ((entries ++ [entry]).map amount).sum = target entry := by
  rw [List.map_append, List.sum_append, List.map_singleton, List.sum_singleton]
  exact h.last.2.2

/-- **The total is never beyond all targets.** -/
theorem total_le (h : StepLedger step amount target entries)
    (hbound : ∀ e ∈ entries, target e ≤ bound) : (entries.map amount).sum ≤ bound := by
  rcases List.eq_nil_or_concat entries with rfl | ⟨others, entry, rfl⟩
  · exact Nat.zero_le _
  · rw [List.concat_eq_append] at h hbound ⊢
    rw [h.total_eq]
    exact hbound entry (by simp)

/-- **Every number up to the last one has its entry**, and no other number has. -/
theorem exists_step_iff (h : StepLedger step amount target entries) {n : ℕ} :
    (∃ e ∈ entries, step e = n) ↔ 1 ≤ n ∧ n ≤ entries.length := by
  rw [← List.mem_map, h.map_step, List.mem_range'_1]
  omega

/-- **Whoever has not seen all entries would repeat a number.** -/
theorem seen_eq (h : StepLedger step amount target entries) (hseen : seen ≤ entries.length)
    (hfresh : ∀ e ∈ entries, step e ≠ seen + 1) : seen = entries.length := by
  by_contra hne
  obtain ⟨e, he, hstep⟩ := h.exists_step_iff.mpr
    (⟨by omega, by omega⟩ : 1 ≤ seen + 1 ∧ seen + 1 ≤ entries.length)
  exact hfresh e he hstep

/-- **An entry made from a view as long as the ledger is right.** -/
theorem snoc_of_view (h : StepLedger step amount target entries)
    (hview : View amount entries seen total) (hseen : seen = entries.length)
    (hstep : step entry = seen + 1) (htotal : total + amount entry = target entry) :
    StepLedger step amount target (entries ++ [entry]) := by
  refine h.snoc (hseen ▸ hstep) ?_
  rw [← htotal, hview.total_eq, hseen, List.take_length]

end StepLedger

namespace View

/-- **A view only becomes old.** -/
theorem append (h : View amount entries seen total) (others : List ε) :
    View amount (entries ++ others) seen total where
  seen_le := by
    rw [List.length_append]
    exact h.seen_le.trans (Nat.le_add_right _ _)
  total_eq := by rw [List.take_append_of_le_length h.seen_le, h.total_eq]

/-- Who saw all entries but the last, and learns of that one, has seen them all. -/
theorem next (h : View amount (entries ++ [entry]) seen total) (hseen : seen = entries.length) :
    View amount (entries ++ [entry]) (seen + 1) (total + amount entry) where
  seen_le := by rw [List.length_append, List.length_singleton, hseen]
  total_eq := by
    rw [h.total_eq, hseen, List.take_left, List.take_of_length_le (by simp), List.map_append,
      List.sum_append, List.map_singleton, List.sum_singleton]

end View

end

end Concurrency
