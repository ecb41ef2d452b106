import ScientificProtocol.Sql.Replay

/-!
# Constraints of a table

A constraint holds of a table between any two statements: a statement that would break it
fails, and the transaction with it. So a batch that succeeds row by row still fails where a
row it writes does not fit a column, or names a row of another table that is not there. What
is asked of a batch is that it keeps the constraint (`Sql.Batch.Keeps`), after every put and
after every patch of it. Whoever has an invariant of the statements that implies the
constraint has that (`Sql.Batch.keeps_of_preserved`); most constraints are about each row by
itself (`Sql.Rows`) and are their own invariant (`Sql.Batch.keeps_rows`).
-/

namespace Sql

variable {κ ρ ε : Type}

/-- Every row of the table has the property. -/
def Rows (P : κ → ρ → Prop) (t : Table κ ρ) : Prop := ∀ k row, t k = some row → P k row

theorem Rows.empty (P : κ → ρ → Prop) : Rows P .empty := fun _ _ h => absurd h (by simp)

theorem Rows.mono {P Q : κ → ρ → Prop} {t : Table κ ρ} (h : Rows P t)
    (hpq : ∀ k row, P k row → Q k row) : Rows Q t := fun k row hrow => hpq k row (h k row hrow)

/-- A patch of rows that keep the property. -/
theorem Rows.patch {P : κ → ρ → Prop} {s : Patch κ ρ ε} {t t' : Table κ ρ}
    (hset : ∀ k row, P k row → P k (s.set k row)) (h : Rows P t) (hrun : s.run t = .ok t') :
    Rows P t' := by
  rw [Patch.run] at hrun
  split at hrun
  next =>
    obtain rfl := Except.ok.inj hrun
    intro k row hrow
    obtain ⟨row₀, hrow₀, rfl⟩ := Option.map_eq_some_iff.mp hrow
    exact hset k row₀ (h k row₀ hrow₀)
  next => exact absurd hrun (by simp)

variable [DecidableEq κ]

/-- An `UPDATE` of one row that keeps the property. -/
theorem Patch.byKey_preserves {P : κ → ρ → Prop} {key : κ} {f : ρ → ρ} {missing : ε}
    (h : ∀ row, P key row → P key (f row)) (k : κ) (row : ρ) (hrow : P k row) :
    P k ((Patch.byKey key f missing).set k row) := by
  change P k (if k = key then f row else row)
  split
  next hk =>
    subst hk
    exact h row hrow
  next => exact hrow

/-- A put of a row with the property. -/
theorem Rows.put {P : κ → ρ → Prop} {s : Put κ ρ} {t : Table κ ρ}
    (hvalue : ∀ row : Option ρ, (∀ r, row = some r → P s.key r) → P s.key (s.value row))
    (h : Rows P t) : Rows P (s.run t) := by
  intro k row hrow
  rw [Put.run, Table.set_apply] at hrow
  split at hrow
  next hk =>
    subst hk
    obtain rfl := Option.some.inj hrow
    exact hvalue _ fun r hr => h _ r hr
  next => exact h k row hrow

namespace Batch

variable {b : Batch κ ρ ε} {I meets : Table κ ρ → Prop} {t t' : Table κ ρ}

/-- **No statement of the batch breaks the constraint.** -/
structure Keeps (b : Batch κ ρ ε) (meets : Table κ ρ → Prop) (t : Table κ ρ) : Prop where
  puts : ∀ puts, puts <+: b.puts → meets (puts.foldl Put.run t)
  patches : ∀ patches t', patches <+: b.patches →
    patches.foldlM Patch.run (b.puts.foldl Put.run t) = .ok t' → meets t'

/-- After the batch the constraint holds. -/
theorem Keeps.run (h : b.Keeps meets t) (hrun : b.run t = .ok t') : meets t' :=
  h.patches b.patches t' (List.prefix_refl _) hrun

/-- **The rule of the invariant**: what implies the constraint, and is kept by every
statement. -/
theorem keeps_of_preserved (h : I t) (hput : ∀ s ∈ b.puts, ∀ t, I t → I (s.run t))
    (hpatch : ∀ s ∈ b.patches, ∀ t t', I t → s.run t = .ok t' → I t')
    (hmeets : ∀ t, I t → meets t) : b.Keeps meets t := by
  have hputs : ∀ puts : List (Put κ ρ), (∀ s ∈ puts, s ∈ b.puts) → I (puts.foldl Put.run t) := by
    intro puts
    induction puts using List.reverseRecOn with
    | nil => exact fun _ => h
    | append_singleton puts s ih =>
      intro hsub
      rw [List.foldl_append]
      exact hput s (hsub s (by simp)) _ (ih fun s' hs' => hsub s' (by simp [hs']))
  have hpatches : ∀ (patches : List (Patch κ ρ ε)) (t₀ t' : Table κ ρ),
      (∀ s ∈ patches, s ∈ b.patches) → I t₀ → patches.foldlM Patch.run t₀ = .ok t' → I t' := by
    intro patches
    induction patches with
    | nil =>
      intro t₀ t' _ h₀ hrun
      obtain rfl := Except.ok.inj hrun
      exact h₀
    | cons s patches ih =>
      intro t₀ t' hsub h₀ hrun
      rw [List.foldlM_cons] at hrun
      obtain ⟨t₁, hfirst, hrest⟩ := andThen_eq_ok.mp hrun
      exact ih t₁ t' (fun s' hs' => hsub s' (List.mem_cons_of_mem _ hs'))
        (hpatch s (hsub s List.mem_cons_self) t₀ t₁ h₀ hfirst) hrest
  exact ⟨fun puts hsub => hmeets _ (hputs puts fun _ hs => hsub.subset hs),
    fun patches t' hsub hrun => hmeets _ (hpatches patches _ t' (fun _ hs => hsub.subset hs)
      (hputs b.puts fun _ => id) hrun)⟩

/-- **The rule of the rows** for a constraint on each row by itself. -/
theorem keeps_rows {P : κ → ρ → Prop} (h : Rows P t)
    (hput : ∀ s ∈ b.puts, ∀ row : Option ρ, (∀ r, row = some r → P s.key r) →
      P s.key (s.value row))
    (hpatch : ∀ s ∈ b.patches, ∀ k row, P k row → P k (s.set k row)) : b.Keeps (Rows P) t :=
  keeps_of_preserved h (fun s hs _ => Rows.put (hput s hs))
    (fun s hs _ _ => Rows.patch (hpatch s hs)) fun _ => id

/-- A row that is put is there. -/
theorem isSome_of_put (hsteady : Patch.Steady b.patches) (h : b.run t = .ok t') {k : κ}
    (hk : ∃ s ∈ b.puts, s.key = k) : (t' k).isSome = true := by
  obtain ⟨s, hs, rfl⟩ := hk
  rw [((run_eq_ok hsteady).mp h).2, Option.isSome_map]
  exact Put.isSome_apply_of_mem hs _

/-- A row that is there stays. -/
theorem isSome_run (hsteady : Patch.Steady b.patches) (h : b.run t = .ok t') {k : κ}
    (hk : (t k).isSome = true) : (t' k).isSome = true := by
  rw [((run_eq_ok hsteady).mp h).2, Option.isSome_map]
  exact Put.isSome_apply _ hk

end Batch

end Sql
