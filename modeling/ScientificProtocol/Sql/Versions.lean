import ScientificProtocol.Sql.Table
import Mathlib.Logic.Function.Basic

/-!
# Transactions that write rows

What transactions under `READ COMMITTED` do to the rows of a table. A row has the version that was
committed last, and at most one transaction has it locked; that transaction may have written a
version of its own, which others see when it is committed. A statement that needs a row somebody
else has locked waits: it is not possible until the lock is gone.

What a transaction does never touches a row that another one has locked
(`Sql.Versions.Touches`). So whoever has a row locked knows what is committed of it until it commits
itself.
-/

namespace Sql

/-- A table that transactions are writing to. -/
structure Versions (κ ρ : Type) where
  committed : Table κ ρ
  /-- Which transaction has the row locked, and what it has written to it. -/
  pending : κ → Option (ℕ × Option ρ)
  /-- The number the next transaction gets. -/
  nextXid : ℕ

namespace Versions

variable {κ ρ : Type}

/-- The table before any transaction. -/
def empty : Versions κ ρ := ⟨Table.empty, fun _ => none, 0⟩

section

variable (t : Versions κ ρ) (x : ℕ) (k : κ)

/-- `BEGIN`: the table afterwards. The transaction gets the number `nextXid`. -/
def begin : Versions κ ρ := { t with nextXid := t.nextXid + 1 }

/-- The transaction can have the row locked. -/
def free : Bool := (t.pending k).all (·.1 = x)

/-- What the transaction sees under a key. -/
def read : Option ρ :=
  match t.pending k with
  | some (y, some r) => if y = x then some r else t.committed k
  | _ => t.committed k

/-- The locks of a transaction are released. -/
def release : κ → Option (ℕ × Option ρ) := fun k =>
  if (t.pending k).any (·.1 = x) then none else t.pending k

/-- `COMMIT`. -/
def commit : Versions κ ρ where
  committed := ⟨fun k => t.read x k⟩
  pending := t.release x
  nextXid := t.nextXid

/-- `ROLLBACK`, or the end of the session. -/
def rollback : Versions κ ρ := { t with pending := t.release x }

variable [DecidableEq κ]

/-- Locking a row, and writing a version of it. -/
def write (version : Option ρ) : Versions κ ρ :=
  { t with pending := Function.update t.pending k (some (x, version)) }

/-- `INSERT ... ON CONFLICT DO NOTHING`, if it need not wait for another one's insertion. -/
def insertOrIgnore (new : ρ) : Option (Versions κ ρ) :=
  if (t.committed k).isSome then some t
  else match t.pending k with
    | none => some (t.write x k (some new))
    | some (y, _) => if y = x then some t else none

/-- `SELECT ... FOR UPDATE`, if it need not wait: the table and the row. -/
def selectForUpdate : Option (Versions κ ρ × Option ρ) :=
  if t.free x k then
    match t.pending k, t.read x k with
    | none, some r => some (t.write x k none, some r)
    | _, row => some (t, row)
  else none

/-- `UPDATE ... WHERE key = k`, if it need not wait. -/
def update (f : ρ → ρ) : Option (Versions κ ρ) :=
  if t.free x k then
    match t.read x k with
    | some r => some (t.write x k (some (f r)))
    | none => some t
  else none

end

/-! ### What a transaction leaves alone -/

/-- **What a transaction does at most**: it leaves alone what another one has locked, and no row
that is there goes away. -/
structure Touches (x : ℕ) (t t' : Versions κ ρ) : Prop where
  locks : ∀ {k y version}, y ≠ x →
    (t'.pending k = some (y, version) ↔ t.pending k = some (y, version))
  held : ∀ {k y version}, y ≠ x → t.pending k = some (y, version) → t'.committed k = t.committed k
  kept : ∀ {k}, (t.committed k).isSome = true → (t'.committed k).isSome = true
  nextXid_le : t.nextXid ≤ t'.nextXid

variable {t t' : Versions κ ρ} {x : ℕ} {k : κ}

theorem Touches.refl (t : Versions κ ρ) : Touches x t t :=
  ⟨fun _ => Iff.rfl, fun _ _ => rfl, fun h => h, Nat.le_refl _⟩

theorem touches_begin : Touches x t t.begin :=
  ⟨fun _ => Iff.rfl, fun _ _ => rfl, fun h => h, Nat.le_succ _⟩

theorem free_iff : t.free x k = true ↔ ∀ y version, t.pending k = some (y, version) → y = x := by
  rw [free]
  cases t.pending k with
  | none => simp
  | some lock =>
    obtain ⟨y, version⟩ := lock
    rw [Option.all_some, decide_eq_true_eq]
    refine ⟨fun hy y' version' heq => ?_, fun h => h y version rfl⟩
    obtain ⟨rfl, -⟩ := Prod.mk.inj (Option.some.inj heq)
    exact hy

/-- **The locks of the others stay**, and those of the transaction go. -/
theorem release_eq_some {y : ℕ} {version : Option ρ} :
    t.release x k = some (y, version) ↔ y ≠ x ∧ t.pending k = some (y, version) := by
  rw [release]
  cases t.pending k with
  | none => simp
  | some lock =>
    obtain ⟨y', version'⟩ := lock
    rw [Option.any_some]
    by_cases hy : y' = x
    · simp only [hy, decide_true, if_true, Option.some.injEq, Prod.mk.injEq]
      exact iff_of_false nofun fun ⟨hne, heq, _⟩ => hne heq.symm
    · simp only [hy, decide_false, Bool.false_eq_true, if_false, Option.some.injEq, Prod.mk.injEq]
      exact ⟨fun ⟨heq, hversion⟩ => ⟨heq ▸ hy, heq, hversion⟩, fun h => h.2⟩

/-- Who has not written a row sees what is committed of it. -/
theorem read_of_ne {y : ℕ} {version : Option ρ} (hne : y ≠ x)
    (h : t.pending k = some (y, version)) : t.read x k = t.committed k := by
  rw [read, h]
  cases version with
  | none => rfl
  | some r => exact if_neg hne

theorem read_of_none (h : t.pending k = none) : t.read x k = t.committed k := by
  rw [read, h]

theorem read_of_unwritten (h : t.pending k = some (x, none)) : t.read x k = t.committed k := by
  rw [read, h]

theorem read_of_written {r : ρ} (h : t.pending k = some (x, some r)) : t.read x k = some r := by
  rw [read, h]
  exact if_pos rfl

theorem isSome_read (h : (t.committed k).isSome = true) : (t.read x k).isSome = true := by
  rw [read]
  split
  · split
    · rfl
    · exact h
  · exact h

theorem touches_commit : Touches x t (t.commit x) :=
  ⟨fun hne => release_eq_some.trans (and_iff_right hne), read_of_ne, isSome_read, Nat.le_refl _⟩

theorem touches_rollback : Touches x t (t.rollback x) :=
  ⟨fun hne => release_eq_some.trans (and_iff_right hne), fun _ _ => rfl, fun h => h, Nat.le_refl _⟩

/-- A row that a transaction has not locked is not changed by its end. -/
theorem committed_commit_of_ne (h : ∀ version, t.pending k ≠ some (x, version)) :
    (t.commit x).committed k = t.committed k := by
  cases hpending : t.pending k with
  | none => exact read_of_none hpending
  | some lock =>
    obtain ⟨y, version⟩ := lock
    refine read_of_ne (fun heq => h version ?_) hpending
    rw [hpending, heq]

/-! ### Statements -/

variable [DecidableEq κ]

@[simp] theorem pending_write (version : Option ρ) :
    (t.write x k version).pending k = some (x, version) := Function.update_self _ _ _

theorem pending_write_of_ne {k' : κ} (h : k' ≠ k) (version : Option ρ) :
    (t.write x k version).pending k' = t.pending k' := Function.update_of_ne h _ _

/-- Writing a row that nobody else has locked. -/
theorem touches_write (hfree : t.free x k = true) (version : Option ρ) :
    Touches x t (t.write x k version) := by
  refine ⟨fun {k' y version'} hne => ?_, fun _ _ => rfl, fun h => h, Nat.le_refl _⟩
  by_cases hk : k' = k
  · subst hk
    rw [pending_write]
    refine iff_of_false (fun heq => ?_) fun heq => hne (free_iff.mp hfree y version' heq)
    exact hne (Prod.mk.inj (Option.some.inj heq)).1.symm
  · rw [pending_write_of_ne hk]

/-- **What an insertion does**: it finds a row, or it writes one. -/
theorem insertOrIgnore_cases {new : ρ} (h : t.insertOrIgnore x k new = some t') :
    (t' = t ∧ ((t.committed k).isSome = true ∨ ∃ version, t.pending k = some (x, version))) ∨
      t.committed k = none ∧ t.pending k = none ∧ t' = t.write x k (some new) := by
  rw [insertOrIgnore] at h
  split at h
  next hrow =>
    obtain rfl := Option.some.inj h
    exact .inl ⟨rfl, .inl hrow⟩
  next hrow =>
    split at h
    next hpending =>
      obtain rfl := Option.some.inj h
      exact .inr ⟨Option.not_isSome_iff_eq_none.mp hrow, hpending, rfl⟩
    next y version hpending =>
      split at h
      next heq =>
        obtain rfl := Option.some.inj h
        exact .inl ⟨rfl, .inr ⟨version, heq ▸ hpending⟩⟩
      next => cases h

theorem touches_insertOrIgnore {new : ρ} (h : t.insertOrIgnore x k new = some t') :
    Touches x t t' := by
  rcases insertOrIgnore_cases h with ⟨rfl, -⟩ | ⟨-, hpending, rfl⟩
  · exact .refl _
  · refine touches_write (free_iff.mpr fun y version hsome => ?_) _
    rw [hpending] at hsome
    cases hsome

/-- **What a locking read does**: if there is a row, the transaction has it locked afterwards, and
nothing else has changed. -/
theorem selectForUpdate_cases {row : Option ρ} (h : t.selectForUpdate x k = some (t', row)) :
    t.free x k = true ∧ row = t.read x k ∧
      ((t' = t ∧ ((∃ version, t.pending k = some (x, version)) ∨ row = none)) ∨
        t.pending k = none ∧ t' = t.write x k none) := by
  rw [selectForUpdate] at h
  split at h
  next hfree =>
    refine ⟨hfree, ?_⟩
    split at h
    next r hpending hread =>
      obtain ⟨rfl, rfl⟩ := Prod.mk.inj (Option.some.inj h)
      exact ⟨hread.symm, .inr ⟨hpending, rfl⟩⟩
    next hnot =>
      obtain ⟨rfl, rfl⟩ := Prod.mk.inj (Option.some.inj h)
      refine ⟨rfl, .inl ⟨rfl, ?_⟩⟩
      cases hpending : t.pending k with
      | none =>
        refine .inr (Option.eq_none_iff_forall_ne_some.mpr fun r hread => ?_)
        exact hnot r hpending hread
      | some lock =>
        obtain ⟨y, version⟩ := lock
        obtain rfl := free_iff.mp hfree y version hpending
        exact .inl ⟨version, rfl⟩
  next => cases h

theorem touches_selectForUpdate {row : Option ρ} (h : t.selectForUpdate x k = some (t', row)) :
    Touches x t t' := by
  obtain ⟨hfree, -, ⟨rfl, -⟩ | ⟨-, rfl⟩⟩ := selectForUpdate_cases h
  · exact .refl _
  · exact touches_write hfree _

/-- **What an update does**: it writes the row the transaction sees, if there is one. -/
theorem update_cases {f : ρ → ρ} (h : t.update x k f = some t') : t.free x k = true ∧
    ((t.read x k = none ∧ t' = t) ∨
      ∃ r, t.read x k = some r ∧ t' = t.write x k (some (f r))) := by
  rw [update] at h
  split at h
  next hfree =>
    refine ⟨hfree, ?_⟩
    split at h
    next r hread =>
      obtain rfl := Option.some.inj h
      exact .inr ⟨r, hread, rfl⟩
    next hread =>
      obtain rfl := Option.some.inj h
      exact .inl ⟨hread, rfl⟩
  next => cases h

theorem touches_update {f : ρ → ρ} (h : t.update x k f = some t') : Touches x t t' := by
  obtain ⟨hfree, ⟨-, rfl⟩ | ⟨r, -, rfl⟩⟩ := update_cases h
  · exact .refl _
  · exact touches_write hfree _

end Versions

end Sql
