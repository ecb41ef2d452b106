import Mathlib.Data.List.Basic
import Mathlib.Data.List.Nodup

/-!
# Tables with a primary key

A table has at most one row under each key, and a statement changes it as a whole. What
`INSERT`, `UPDATE ... WHERE` and `INSERT ... ON CONFLICT` do to it is said row by row, so
that two tables are the same exactly if they have the same rows (`Sql.Table.ext`),
whatever the order the rows were written in.

A serial key is handed out by the database: `Sql.Serial` is a table that carries the
proof that nothing is stored under a key still to come, so that an inserted row never
meets another one. Its rows can be listed by key (`Sql.Serial.select`), counted
(`Sql.Serial.count`), and found by another key that a unique index keeps apart
(`Sql.Serial.findBy`).
-/

namespace Sql

/-- A table: at most one row under each key. -/
structure Table (κ ρ : Type) where
  row : κ → Option ρ

namespace Table

variable {κ ρ : Type}

instance : CoeFun (Table κ ρ) fun _ => κ → Option ρ := ⟨row⟩

@[ext] theorem ext {t t' : Table κ ρ} (h : ∀ k, t k = t' k) : t = t' := by
  obtain ⟨f⟩ := t
  obtain ⟨g⟩ := t'
  obtain rfl : f = g := funext h
  rfl

/-- The table without rows. -/
def empty : Table κ ρ := ⟨fun _ => none⟩

instance : Inhabited (Table κ ρ) := ⟨empty⟩

@[simp] theorem empty_apply (k : κ) : (empty : Table κ ρ) k = none := rfl

/-- `UPDATE ... WHERE p`. -/
def updateWhere (t : Table κ ρ) (p : κ → ρ → Bool) (f : ρ → ρ) : Table κ ρ :=
  ⟨fun k => (t k).map fun r => if p k r then f r else r⟩

variable [DecidableEq κ]

/-- Writing the row of a key, whatever was there. -/
def set (t : Table κ ρ) (k : κ) (r : ρ) : Table κ ρ :=
  ⟨fun k' => if k' = k then some r else t k'⟩

theorem set_apply (t : Table κ ρ) (k k' : κ) (r : ρ) :
    t.set k r k' = if k' = k then some r else t k' := rfl

@[simp] theorem set_self (t : Table κ ρ) (k : κ) (r : ρ) : t.set k r k = some r := by
  simp [set_apply]

@[simp] theorem set_of_ne (t : Table κ ρ) {k k' : κ} (h : k' ≠ k) (r : ρ) :
    t.set k r k' = t k' := by
  simp [set_apply, h]

/-- `UPDATE ... WHERE key = k`: nothing happens if there is no such row. -/
def update (t : Table κ ρ) (k : κ) (f : ρ → ρ) : Table κ ρ :=
  match t k with
  | some r => t.set k (f r)
  | none => t

theorem update_of_none {t : Table κ ρ} {k : κ} (h : t k = none) (f : ρ → ρ) :
    t.update k f = t := by
  rw [update, h]

theorem update_of_some {t : Table κ ρ} {k : κ} {r : ρ} (h : t k = some r) (f : ρ → ρ) :
    t.update k f = t.set k (f r) := by
  rw [update, h]

@[simp] theorem update_self (t : Table κ ρ) (k : κ) (f : ρ → ρ) :
    t.update k f k = (t k).map f := by
  cases h : t k with
  | none => rw [update_of_none h, h, Option.map_none]
  | some r => rw [update_of_some h, set_self, Option.map_some]

@[simp] theorem update_of_ne (t : Table κ ρ) {k k' : κ} (h : k' ≠ k) (f : ρ → ρ) :
    t.update k f k' = t k' := by
  cases hk : t k with
  | none => rw [update_of_none hk]
  | some r => rw [update_of_some hk, set_of_ne t h]

theorem update_apply (t : Table κ ρ) (k k' : κ) (f : ρ → ρ) :
    t.update k f k' = if k' = k then (t k').map f else t k' := by
  by_cases h : k' = k
  · rw [h, update_self, if_pos rfl]
  · rw [update_of_ne t h, if_neg h]

/-- A row after an update was there before it. -/
theorem update_eq_some {t : Table κ ρ} {k k' : κ} {f : ρ → ρ} {r : ρ} :
    t.update k f k' = some r ↔ ∃ r', t k' = some r' ∧ (if k' = k then f r' else r') = r := by
  rw [update_apply]
  split <;> simp

/-- `INSERT ... ON CONFLICT (key) DO UPDATE`. -/
def upsert (t : Table κ ρ) (k : κ) (new : ρ) (merge : ρ → ρ) : Table κ ρ :=
  t.set k (((t k).map merge).getD new)

/-- `INSERT ... ON CONFLICT (key) DO NOTHING`. -/
def insertOrIgnore (t : Table κ ρ) (k : κ) (new : ρ) : Table κ ρ :=
  t.set k ((t k).getD new)

end Table

/-! ### Serial keys -/

/-- A table whose keys are handed out in order. -/
structure Serial (ρ : Type) where
  table : Table ℕ ρ
  /-- The key the next row gets. -/
  next : ℕ
  /-- Nothing is stored under a key still to come. -/
  fresh : ∀ k, next ≤ k → table k = none

namespace Serial

variable {ρ : Type}

instance : CoeFun (Serial ρ) fun _ => ℕ → Option ρ := ⟨fun t => t.table⟩

/-- The table without rows, whose first key is 1. -/
def empty : Serial ρ := ⟨.empty, 1, fun _ _ => rfl⟩

instance : Inhabited (Serial ρ) := ⟨empty⟩

@[simp] theorem empty_apply (k : ℕ) : (empty : Serial ρ) k = none := rfl

variable (t : Serial ρ)

/-- `INSERT`, with the key the row gets. -/
def insert (r : ρ) : Serial ρ where
  table := t.table.set t.next r
  next := t.next + 1
  fresh k hk := by
    rw [Table.set_of_ne _ (by omega)]
    exact t.fresh k (by omega)

/-- `UPDATE ... WHERE key = k`. -/
def update (k : ℕ) (f : ρ → ρ) : Serial ρ where
  table := t.table.update k f
  next := t.next
  fresh k' hk' := by
    rw [Table.update_apply, t.fresh k' hk', Option.map_none, ite_self]

/-- `DELETE ... WHERE p`. -/
def deleteWhere (p : ℕ → ρ → Bool) : Serial ρ where
  table := ⟨fun k => (t k).filter fun r => !p k r⟩
  next := t.next
  fresh k hk := by
    change (t k).filter _ = none
    rw [t.fresh k hk, Option.filter_none]

@[simp] theorem insert_self (r : ρ) : t.insert r t.next = some r := Table.set_self _ _ _

theorem insert_of_ne {k : ℕ} (h : k ≠ t.next) (r : ρ) : t.insert r k = t k :=
  Table.set_of_ne _ h r

@[simp] theorem insert_next (r : ρ) : (t.insert r).next = t.next + 1 := rfl

@[simp] theorem update_self (k : ℕ) (f : ρ → ρ) : t.update k f k = (t k).map f :=
  Table.update_self _ _ _

@[simp] theorem update_of_ne {k k' : ℕ} (h : k' ≠ k) (f : ρ → ρ) : t.update k f k' = t k' :=
  Table.update_of_ne _ h f

@[simp] theorem update_next (k : ℕ) (f : ρ → ρ) : (t.update k f).next = t.next := rfl

variable {t} {k k' : ℕ} {f : ρ → ρ} {r : ρ}

theorem update_apply : t.update k f k' = if k' = k then (t k').map f else t k' :=
  Table.update_apply _ _ _ _

theorem update_eq_some :
    t.update k f k' = some r ↔ ∃ r', t k' = some r' ∧ (if k' = k then f r' else r') = r :=
  Table.update_eq_some

/-- What is left after a deletion. -/
theorem deleteWhere_eq_some {p : ℕ → ρ → Bool} :
    t.deleteWhere p k = some r ↔ t k = some r ∧ p k r = false := by
  change (t k).filter (fun r => !p k r) = some r ↔ _
  rw [Option.filter_eq_some_iff, Bool.not_eq_true']

@[ext] theorem ext {t t' : Serial ρ} (h : ∀ k, t k = t' k) (hnext : t.next = t'.next) : t = t' := by
  obtain ⟨table, next, fresh⟩ := t
  obtain ⟨table', next', fresh'⟩ := t'
  obtain rfl : table = table' := Table.ext h
  obtain rfl : next = next' := hnext
  rfl

theorem update_of_none (h : t k = none) : t.update k f = t := by
  ext k' : 1
  · rw [update_apply]
    split
    next heq => rw [heq, h, Option.map_none]
    next => rfl
  · rfl

/-- A row is stored below the next key. -/
theorem lt_next (h : t k = some r) : k < t.next := by
  by_contra hle
  rw [t.fresh k (by omega)] at h
  exact absurd h (by simp)

/-- A stored row is not the one being inserted. -/
theorem ne_next (h : t k = some r) : k ≠ t.next := Nat.ne_of_lt (lt_next h)

theorem insert_of_some {new : ρ} (h : t k = some r) : t.insert new k = some r := by
  rw [insert_of_ne t (ne_next h), h]

/-- The rows after an insertion: the new one, and those that were there. -/
theorem insert_eq_some {new : ρ} :
    t.insert new k = some r ↔ (k = t.next ∧ r = new) ∨ t k = some r := by
  by_cases hk : k = t.next
  · rw [hk, insert_self, t.fresh _ (Nat.le_refl _)]
    simp [eq_comm]
  · rw [insert_of_ne t hk]
    simp [hk]

variable (t) in
/-- `SELECT ... WHERE p ORDER BY key ASC`. -/
def select (p : ℕ → ρ → Bool) : List (ℕ × ρ) :=
  (List.range t.next).filterMap fun k => (t k).bind fun r => if p k r then some (k, r) else none

theorem mem_select {p : ℕ → ρ → Bool} : (k, r) ∈ t.select p ↔ t k = some r ∧ p k r = true := by
  simp only [select, List.mem_filterMap, List.mem_range, Option.bind_eq_some_iff,
    Option.ite_none_right_eq_some, Option.some.injEq, Prod.mk.injEq]
  constructor
  · rintro ⟨_, -, _, hrow, hp, rfl, rfl⟩
    exact ⟨hrow, hp⟩
  · rintro ⟨hrow, hp⟩
    exact ⟨k, lt_next hrow, r, hrow, hp, rfl, rfl⟩

/-- The keys of the rows that are listed. -/
theorem map_fst_select (p : ℕ → ρ → Bool) :
    (t.select p).map Prod.fst = (List.range t.next).filter fun k => (t k).any (p k) := by
  rw [select, List.map_filterMap, ← List.filterMap_eq_filter]
  congr 1
  ext k : 1
  cases hrow : t k with
  | none => simp [Option.guard, hrow]
  | some r => by_cases hp : p k r = true <;> simp [Option.guard, hrow, hp]

/-- Every row is listed once. -/
theorem nodup_select (p : ℕ → ρ → Bool) : ((t.select p).map Prod.fst).Nodup := by
  rw [map_fst_select]
  exact List.nodup_range.filter _

/-! ### Counting rows -/

variable (t) in
/-- `SELECT COUNT(*) ... WHERE p`. -/
def count (p : ℕ → ρ → Bool) : ℕ := (t.select p).length

theorem count_eq (p : ℕ → ρ → Bool) :
    t.count p = (List.range t.next).countP fun k => (t k).any (p k) := by
  rw [count, ← List.length_map Prod.fst, map_fst_select, List.countP_eq_length_filter]

/-- Listing rows and picking from the list is listing fewer. -/
theorem filter_select (p q : ℕ → ρ → Bool) :
    (t.select p).filter (fun s => q s.1 s.2) = t.select fun k r => p k r && q k r := by
  rw [select, select, List.filter_filterMap]
  refine congrArg (List.filterMap · _) (funext fun k => ?_)
  cases t k with
  | none => rfl
  | some r => cases hp : p k r <;> cases hq : q k r <;> simp [hp, hq]

/-- How many of the rows that are listed have a property. -/
theorem countP_select (p q : ℕ → ρ → Bool) :
    (t.select p).countP (fun s => q s.1 s.2) = t.count fun k r => p k r && q k r := by
  rw [List.countP_eq_length_filter, filter_select, count]

theorem count_eq_zero {p : ℕ → ρ → Bool} : t.count p = 0 ↔ ∀ k r, t k = some r → p k r = false := by
  rw [count, List.length_eq_zero_iff, List.eq_nil_iff_forall_not_mem]
  constructor
  · intro h k r hrow
    by_contra hp
    exact h (k, r) (mem_select.mpr ⟨hrow, by simpa using hp⟩)
  · rintro h ⟨k, r⟩ hmem
    obtain ⟨hrow, hp⟩ := mem_select.mp hmem
    exact absurd hp (by simp [h k r hrow])

theorem count_pos {p : ℕ → ρ → Bool} (hrow : t k = some r) (hp : p k r = true) :
    0 < t.count p := by
  refine Nat.pos_of_ne_zero fun hzero => ?_
  exact absurd hp (by simp [count_eq_zero.mp hzero k r hrow])

/-- A new row counts if it has the property. -/
theorem count_insert (p : ℕ → ρ → Bool) (r : ρ) :
    (t.insert r).count p = t.count p + if p t.next r then 1 else 0 := by
  have hold : ∀ k ∈ List.range t.next, ((t.insert r) k).any (p k) = (t k).any (p k) :=
    fun k hk => by rw [insert_of_ne t (Nat.ne_of_lt (List.mem_range.mp hk))]
  rw [count_eq, count_eq, insert_next, List.range_succ, List.countP_append, List.countP_congr
    fun k hk => by rw [hold k hk], List.countP_singleton, insert_self, Option.any_some]

/-- A row that is changed counts as it was before, and as it is now. -/
theorem count_update (p : ℕ → ρ → Bool) (hrow : t k = some r) :
    ((t.update k f).count p + if p k r then 1 else 0) = t.count p + if p k (f r) then 1 else 0 := by
  have hk : k ∈ List.range t.next := List.mem_range.mpr (lt_next hrow)
  have hperm := List.perm_cons_erase hk
  have hrest : ((List.range t.next).erase k).countP (fun k' => (t.update k f k').any (p k')) =
      ((List.range t.next).erase k).countP fun k' => (t k').any (p k') :=
    List.countP_congr fun k' hk' => by
      rw [update_of_ne t ((List.nodup_range.mem_erase_iff.mp hk').1)]
  rw [count_eq, count_eq, update_next, hperm.countP_eq, hperm.countP_eq, List.countP_cons,
    List.countP_cons, hrest, update_self, hrow, Option.map_some, Option.any_some, Option.any_some]
  omega

/-- A row that is changed counts only if it did. -/
theorem count_update_le {p : ℕ → ρ → Bool}
    (h : ∀ r, t k = some r → p k (f r) = true → p k r = true) :
    (t.update k f).count p ≤ t.count p := by
  cases hrow : t k with
  | none => exact Nat.le_of_eq (by rw [update_of_none hrow])
  | some r =>
    have hcount := count_update (f := f) p hrow
    by_cases hp : p k (f r) = true
    · rw [if_pos hp, if_pos (h r hrow hp)] at hcount
      omega
    · rw [if_neg hp] at hcount
      omega

/-- Fewer rows have a property that says more. -/
theorem count_mono {p q : ℕ → ρ → Bool}
    (h : ∀ k r, t k = some r → p k r = true → q k r = true) : t.count p ≤ t.count q := by
  rw [count_eq, count_eq]
  refine List.countP_mono_left fun k _ hp => ?_
  obtain ⟨r, hrow, hpr⟩ := (Option.any_eq_true _ _).mp hp
  exact (Option.any_eq_true _ _).mpr ⟨r, hrow, h k r hrow hpr⟩

/-- One row at most has a property that tells its key. -/
theorem count_le_one {p : ℕ → ρ → Bool}
    (h : ∀ {k k' r r'}, t k = some r → t k' = some r' → p k r = true → p k' r' = true → k = k') :
    t.count p ≤ 1 := by
  have hnodup := nodup_select (t := t) p
  have hmem : ∀ s ∈ t.select p, t s.1 = some s.2 ∧ p s.1 s.2 = true := fun s hs => mem_select.mp hs
  rw [count]
  revert hnodup hmem
  rcases t.select p with _ | ⟨s, _ | ⟨s', l⟩⟩
  · exact fun _ _ => Nat.zero_le 1
  · exact fun _ _ => Nat.le_refl 1
  · intro hnodup hmem
    obtain ⟨hrow, hp⟩ := hmem s List.mem_cons_self
    obtain ⟨hrow', hp'⟩ := hmem s' (List.mem_cons_of_mem _ List.mem_cons_self)
    refine absurd (h hrow hrow' hp hp') fun heq => ?_
    exact (List.nodup_cons.mp hnodup).1 (heq ▸ List.mem_cons_self)

/-! ### Unique indexes -/

section

variable {β : Type} {key : ρ → β}

/-- `UNIQUE (key)`: no two rows have the same key. -/
structure Unique (key : ρ → β) (t : Serial ρ) : Prop where
  eq_of_key : ∀ {k k' r r'}, t k = some r → t k' = some r' → key r = key r' → k = k'

theorem unique_empty : (empty : Serial ρ).Unique key := ⟨fun h => absurd h (by simp)⟩

/-- An update that keeps the key of a row. -/
theorem Unique.update (h : t.Unique key) (hf : ∀ r, key (f r) = key r) :
    (t.update k f).Unique key := by
  refine ⟨fun {k₁ k₂ r₁ r₂} h₁ h₂ hkey => ?_⟩
  obtain ⟨r₁', h₁', rfl⟩ := update_eq_some.mp h₁
  obtain ⟨r₂', h₂', rfl⟩ := update_eq_some.mp h₂
  refine h.eq_of_key h₁' h₂' ?_
  have hsame : ∀ (p : Prop) [Decidable p] (r : ρ), key (if p then f r else r) = key r := by
    intro p _ r
    split
    · exact hf r
    · rfl
  rwa [hsame, hsame] at hkey

/-- A deletion. -/
theorem Unique.deleteWhere (h : t.Unique key) (p : ℕ → ρ → Bool) : (t.deleteWhere p).Unique key :=
  ⟨fun h₁ h₂ hkey =>
    h.eq_of_key (deleteWhere_eq_some.mp h₁).1 (deleteWhere_eq_some.mp h₂).1 hkey⟩

variable [DecidableEq β]

variable (t) in
/-- `SELECT ... WHERE key = b`, for a unique key: the row that has it. -/
def findBy (key : ρ → β) (b : β) : Option (ℕ × ρ) :=
  (t.select fun _ r => decide (key r = b)).head?

theorem findBy_eq_some {b : β} (h : t.findBy key b = some (k, r)) : t k = some r ∧ key r = b := by
  have hmem := mem_select.mp (List.mem_of_mem_head? h)
  exact ⟨hmem.1, of_decide_eq_true hmem.2⟩

theorem findBy_eq_none {b : β} : t.findBy key b = none ↔ ∀ k r, t k = some r → key r ≠ b := by
  rw [findBy, List.head?_eq_none_iff, List.eq_nil_iff_forall_not_mem]
  constructor
  · intro h k r hrow hkey
    exact h (k, r) (mem_select.mpr ⟨hrow, decide_eq_true hkey⟩)
  · rintro h ⟨k, r⟩ hmem
    obtain ⟨hrow, hkey⟩ := mem_select.mp hmem
    exact h k r hrow (of_decide_eq_true hkey)

/-- The row that has a key is the one that is found. -/
theorem Unique.findBy (h : t.Unique key) (hrow : t k = some r) :
    t.findBy key (key r) = some (k, r) := by
  cases hfind : t.findBy key (key r) with
  | none => exact absurd rfl (findBy_eq_none.mp hfind k r hrow)
  | some found =>
    obtain ⟨hrow', hkey⟩ := findBy_eq_some (k := found.1) (r := found.2) hfind
    obtain rfl := h.eq_of_key hrow hrow' hkey.symm
    obtain rfl := Option.some.inj (hrow.symm.trans hrow')
    rfl

theorem Unique.findBy_eq_some (h : t.Unique key) {b : β} :
    t.findBy key b = some (k, r) ↔ t k = some r ∧ key r = b := by
  refine ⟨Serial.findBy_eq_some, ?_⟩
  rintro ⟨hrow, rfl⟩
  exact h.findBy hrow

/-- An insertion of a key that no row has. -/
theorem Unique.insert (h : t.Unique key) (hnew : t.findBy key (key r) = none) :
    (t.insert r).Unique key := by
  refine ⟨fun {k₁ k₂ r₁ r₂} h₁ h₂ hkey => ?_⟩
  rcases insert_eq_some.mp h₁ with ⟨rfl, rfl⟩ | hold₁ <;>
    rcases insert_eq_some.mp h₂ with ⟨rfl, rfl⟩ | hold₂
  · rfl
  · exact absurd hkey.symm (findBy_eq_none.mp hnew k₂ r₂ hold₂)
  · exact absurd hkey (findBy_eq_none.mp hnew k₁ r₁ hold₁)
  · exact h.eq_of_key hold₁ hold₂ hkey

/-! ### What is found afterwards -/

theorem Unique.findBy_insert (h : t.Unique key) (hnew : t.findBy key (key r) = none) (b : β) :
    (t.insert r).findBy key b = if key r = b then some (t.next, r) else t.findBy key b := by
  refine Option.ext fun s => ?_
  obtain ⟨k, r'⟩ := s
  rw [(h.insert hnew).findBy_eq_some, insert_eq_some]
  split
  next hkey =>
    constructor
    · rintro ⟨⟨rfl, rfl⟩ | hold, hkey'⟩
      · rfl
      · exact absurd (hkey'.trans hkey.symm) (findBy_eq_none.mp hnew k r' hold)
    · intro heq
      obtain ⟨rfl, rfl⟩ := Prod.mk.inj (Option.some.inj heq)
      exact ⟨.inl ⟨rfl, rfl⟩, hkey⟩
  next hne =>
    rw [h.findBy_eq_some]
    constructor
    · rintro ⟨⟨rfl, rfl⟩ | hold, hkey'⟩
      · exact absurd hkey' hne
      · exact ⟨hold, hkey'⟩
    · exact fun ⟨hold, hkey'⟩ => ⟨.inr hold, hkey'⟩

theorem Unique.findBy_update (h : t.Unique key) (hf : ∀ r, key (f r) = key r) (b : β) :
    (t.update k f).findBy key b =
      (t.findBy key b).map fun s => (s.1, if s.1 = k then f s.2 else s.2) := by
  have hsame : ∀ (k' : ℕ) (r : ρ), key (if k' = k then f r else r) = key r := by
    intro k' r
    split
    · exact hf r
    · rfl
  refine Option.ext fun s => ?_
  obtain ⟨k', r'⟩ := s
  rw [(h.update hf).findBy_eq_some, update_eq_some, Option.map_eq_some_iff]
  constructor
  · rintro ⟨⟨r, hrow, rfl⟩, hkey⟩
    exact ⟨(k', r), h.findBy_eq_some.mpr ⟨hrow, (hsame k' r).symm.trans hkey⟩, rfl⟩
  · rintro ⟨⟨k'', r⟩, hfind, heq⟩
    obtain ⟨rfl, rfl⟩ := Prod.mk.inj heq
    obtain ⟨hrow, hkey⟩ := h.findBy_eq_some.mp hfind
    exact ⟨⟨r, hrow, rfl⟩, (hsame k'' r).trans hkey⟩

theorem Unique.findBy_deleteWhere (h : t.Unique key) (p : ℕ → ρ → Bool) (b : β) :
    (t.deleteWhere p).findBy key b = (t.findBy key b).filter fun s => !p s.1 s.2 := by
  refine Option.ext fun s => ?_
  obtain ⟨k, r⟩ := s
  rw [(h.deleteWhere p).findBy_eq_some, deleteWhere_eq_some, Option.filter_eq_some_iff,
    h.findBy_eq_some, Bool.not_eq_true']
  exact and_right_comm

end

end Serial

end Sql
