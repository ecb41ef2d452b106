import Mathlib.Algebra.BigOperators.Group.List.Lemmas
import Mathlib.Algebra.Order.BigOperators.Group.List
import Mathlib.Algebra.Order.Group.Nat
import Mathlib.Algebra.Ring.Nat
import Mathlib.Data.List.Induction
import Mathlib.Data.List.Nodup

/-!
# The maps of a script

A script builds a `Map` in a loop and reads it afterwards, in one of two ways: setting
one value for a key, so that the last one counts, or pushing values to the list of their
key. Both are functions of the list the loop goes through.
-/

namespace Js

section

variable {κ ν : Type} [DecidableEq κ]

/-- What a map answers once these entries have been set, one after the other. -/
def mapGet (entries : List (κ × ν)) (key : κ) : Option ν :=
  ((entries.filter (·.1 = key)).map (·.2)).getLast?

/-- **The last writer wins.** -/
theorem mapGet_append (entries entries' : List (κ × ν)) (key : κ) :
    mapGet (entries ++ entries') key = (mapGet entries' key).or (mapGet entries key) := by
  rw [mapGet, List.filter_append, List.map_append, List.getLast?_append, mapGet, mapGet]

theorem mem_of_mapGet {entries : List (κ × ν)} {key : κ} {value : ν}
    (h : mapGet entries key = some value) : (key, value) ∈ entries := by
  obtain ⟨⟨key', value'⟩, hmem, rfl⟩ := List.mem_map.mp (List.mem_of_getLast? h)
  obtain ⟨hentry, hkey⟩ := List.mem_filter.mp hmem
  obtain rfl : key' = key := by simpa using hkey
  exact hentry

theorem sum_map_ite (keys : List κ) (key : κ) (value : ℕ) :
    (keys.map fun k => if k = key then value else 0).sum = keys.count key * value := by
  induction keys with
  | nil => simp
  | cons k keys ih =>
    rw [List.map_cons, List.sum_cons, ih, List.count_cons, Nat.add_mul, Nat.add_comm]
    by_cases hkey : k = key <;> simp [hkey]

/-- Distinct keys have no more than all the entries together. -/
theorem sum_mapGet_le (entries : List (κ × ℕ)) {keys : List κ} (hnodup : keys.Nodup) :
    (keys.map fun key => (mapGet entries key).getD 0).sum ≤ (entries.map (·.2)).sum := by
  induction entries with
  | nil => simp [mapGet]
  | cons entry entries ih =>
    -- The first entry counts for its key alone, and only if nothing has been set for it since.
    have hentry : ∀ key, (mapGet (entry :: entries) key).getD 0 ≤
        (mapGet entries key).getD 0 + if key = entry.1 then entry.2 else 0 := by
      intro key
      rw [← List.singleton_append, mapGet_append]
      cases hget : mapGet entries key with
      | some value => simp
      | none =>
        by_cases hkey : key = entry.1
        · simp [mapGet, hkey]
        · simp [mapGet, Ne.symm hkey]
    have hsum : (keys.map fun key => if key = entry.1 then entry.2 else 0).sum ≤ entry.2 := by
      rw [sum_map_ite]
      have hcount : keys.count entry.1 ≤ 1 := List.nodup_iff_count_le_one.mp hnodup entry.1
      calc keys.count entry.1 * entry.2 ≤ 1 * entry.2 := Nat.mul_le_mul_right _ hcount
        _ = entry.2 := Nat.one_mul _
    calc (keys.map fun key => (mapGet (entry :: entries) key).getD 0).sum
        ≤ (keys.map fun key =>
            (mapGet entries key).getD 0 + if key = entry.1 then entry.2 else 0).sum :=
          List.sum_le_sum fun key _ => hentry key
      _ = (keys.map fun key => (mapGet entries key).getD 0).sum +
            (keys.map fun key => if key = entry.1 then entry.2 else 0).sum :=
          List.sum_map_add
      _ ≤ ((entry :: entries).map (·.2)).sum := by
          rw [List.map_cons, List.sum_cons, Nat.add_comm]
          exact Nat.add_le_add hsum ih

variable {α : Type}

/-- What is set for each value of a list: the last one with the key counts. -/
theorem mapGet_map_key (key : α → κ) (value : α → ν) (values : List α) (k : κ) :
    mapGet (values.map fun a => (key a, value a)) k =
      ((values.filter (key · = k)).getLast?).map value := by
  rw [mapGet, List.filter_map, List.map_map, List.getLast?_map]
  rfl

/-- Setting one value for several keys. -/
theorem mapGet_map (keys : List κ) (value : ν) (key : κ) :
    mapGet (keys.map (·, value)) key = if key ∈ keys then some value else none := by
  have hvalues : ((keys.map (·, value)).filter (·.1 = key)).map (·.2) =
      List.replicate (keys.filter (· = key)).length value := by
    rw [List.filter_map, List.map_map, ← List.map_const']
    rfl
  rw [mapGet, hvalues, List.getLast?_replicate]
  by_cases hkey : key ∈ keys
  · have hmem : key ∈ keys.filter (· = key) := List.mem_filter.mpr ⟨hkey, by simp⟩
    rw [if_neg (Nat.ne_of_gt (List.length_pos_of_mem hmem)), if_pos hkey]
  · have hlength : (keys.filter (· = key)).length = 0 := by
      rw [List.length_eq_zero_iff, List.filter_eq_nil_iff]
      rintro key' hkey' heq
      exact hkey (of_decide_eq_true heq ▸ hkey')
    rw [if_pos hlength, if_neg hkey]

/-- The entries of one row: a value for several keys, if the row has a value. -/
def entriesOf (keys : List κ) : Option ν → List (κ × ν)
  | some value => keys.map (·, value)
  | none => []

/-- **A map filled row by row** answers with the last row that has the key, if every row
has a value. -/
theorem mapGet_flatMap {keys : α → List κ} {value : α → Option ν} {rows : List α}
    (hvalue : ∀ row ∈ rows, (value row).isSome = true) (key : κ) :
    mapGet (rows.flatMap fun row => entriesOf (keys row) (value row)) key =
      (rows.filter fun row => decide (key ∈ keys row)).getLast?.bind value := by
  induction rows using List.reverseRecOn with
  | nil => rfl
  | append_singleton rows row ih =>
    have ih := ih fun row hrow => hvalue row (List.mem_append_left _ hrow)
    obtain ⟨v, hv⟩ := Option.isSome_iff_exists.mp (hvalue row (by simp))
    rw [List.flatMap_append, mapGet_append, ih, List.flatMap_singleton, List.filter_append, hv,
      entriesOf, mapGet_map]
    -- The last row decides if it has the key, and otherwise nothing has changed.
    by_cases hkey : key ∈ keys row
    · simp [hkey, hv]
    · simp [hkey]

/-- The values of a `Set`, in the order in which they first came up, are different. -/
theorem nodup_eraseDups (values : List κ) : values.eraseDups.Nodup := by
  match values with
  | [] => exact List.nodup_nil
  | value :: values =>
    have hlt : (values.filter fun v => !v == value).length < values.length + 1 :=
      Nat.lt_succ_of_le (List.length_filter_le _ _)
    rw [List.eraseDups_cons, List.nodup_cons]
    refine ⟨fun hmem => ?_, nodup_eraseDups _⟩
    have hfilter := List.mem_filter.mp (List.mem_eraseDups.mp hmem)
    simp at hfilter
termination_by values.length

/-- The entries of a map of lists, once every value has been pushed to the list of its
key: the keys in the order in which they first came up. -/
def groupBy (key : α → κ) (values : List α) : List (κ × List α) :=
  (values.map key).eraseDups.map fun k => (k, values.filter (key · = k))

/-- A group has the values of its key. -/
theorem mem_of_mem_groupBy {key : α → κ} {values group : List α} {k : κ} {value : α}
    (hgroup : (k, group) ∈ groupBy key values) (h : value ∈ group) :
    value ∈ values ∧ key value = k := by
  obtain ⟨k', -, heq⟩ := List.mem_map.mp hgroup
  obtain ⟨rfl, rfl⟩ := Prod.mk.inj heq
  simpa using List.mem_filter.mp h

/-- **A row is found by its primary key.** -/
theorem find?_of_nodup {key : α → κ} {rows : List α} (h : (rows.map key).Nodup) {row : α}
    (hrow : row ∈ rows) : rows.find? (key · = key row) = some row := by
  obtain ⟨found, hfound⟩ : ∃ found, rows.find? (key · = key row) = some found :=
    Option.isSome_iff_exists.mp (List.find?_isSome.mpr ⟨row, hrow, by simp⟩)
  have hkey : key found = key row := by simpa using List.find?_some hfound
  rw [hfound, List.inj_on_of_nodup_map h (List.mem_of_find?_eq_some hfound) hrow hkey]

end

end Js
