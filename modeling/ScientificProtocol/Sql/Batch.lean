import ScientificProtocol.Sql.Table

/-!
# Batches of statements on one table

A transaction that writes a table in two passes: it puts rows – `INSERT`, with whatever
`ON CONFLICT` says – and then patches rows that have to be there, so that a patch that
finds none makes the transaction fail. Both kinds act on each row by itself
(`Sql.Put.apply`, `Sql.Patch.apply`), which is what makes a batch computable row by row
(`Sql.Batch.run_eq_ok`).

The question about batches is when two of them, one after the other, are one. They are
not in general: the single batch makes all of its puts before any of its patches, so a put
of the second batch overtakes the patches of the first. `Sql.Batch.Merges` says what has
to hold of one row for that not to be seen, and `Sql.Batch.Merges.run` that it is enough.
The rest of the file is the four ways in which it comes to hold.

| the puts of the second batch | why it is not seen | theorem |
|---|---|---|
| overtake no patches | nothing is patched | `Sql.Batch.merges_of_patches_nil` |
| commute with the patches | they write other columns | `Sql.Batch.merges_of_commute` |
| are of rows of their own | a row is put only once | `Sql.Batch.merges_of_disjoint` |
| are snapshots of whole rows | a patched row is final | `Sql.Batch.merges_snapshots` |
-/

namespace Sql

variable {κ ρ ε : Type}

/-- `INSERT ... ON CONFLICT (key)`: the row there is then, which may depend on the one
that was. -/
structure Put (κ ρ : Type) where
  key : κ
  value : Option ρ → ρ

/-- `UPDATE`, of which a row under `key` has to be one of those it finds; `missing` is the
error otherwise. -/
structure Patch (κ ρ ε : Type) where
  key : κ
  finds : ρ → Bool
  set : κ → ρ → ρ
  missing : ε

/-- The puts and then the patches of one transaction. -/
structure Batch (κ ρ ε : Type) where
  puts : List (Put κ ρ)
  patches : List (Patch κ ρ ε)

/-- `INSERT ... ON CONFLICT (key) DO UPDATE`. -/
def Put.upsert (key : κ) (new : ρ) (merge : ρ → ρ) : Put κ ρ :=
  ⟨key, fun row => (row.map merge).getD new⟩

/-- `INSERT ... ON CONFLICT (key) DO NOTHING`. -/
def Put.orIgnore (key : κ) (new : ρ) : Put κ ρ := ⟨key, fun row => row.getD new⟩

/-- Two statements of a transaction succeed one after the other. -/
theorem andThen_eq_ok {α β : Type} {x : Except ε α} {f : α → Except ε β} {b : β} :
    x >>= f = .ok b ↔ ∃ a, x = .ok a ∧ f a = .ok b := by
  cases x <;> simp [bind, Except.bind]

/-! ### Patches -/

def Patch.run (t : Table κ ρ) (s : Patch κ ρ ε) : Except ε (Table κ ρ) :=
  if (t s.key).any s.finds then .ok ⟨fun k => (t k).map (s.set k)⟩ else .error s.missing

namespace Patch

/-- What patches do to the row under a key. -/
def apply (k : κ) (patches : List (Patch κ ρ ε)) (row : ρ) : ρ :=
  patches.foldl (fun row s => s.set k row) row

/-- Whether a patch finds its row is not changed by the patches. -/
def Steady (patches : List (Patch κ ρ ε)) : Prop :=
  ∀ s ∈ patches, ∀ s' ∈ patches, ∀ k row, s.finds (s'.set k row) = s.finds row

variable {k : κ} {patches patches' : List (Patch κ ρ ε)} {row : ρ}

theorem Steady.mono (h : Steady patches') (hsub : patches ⊆ patches') : Steady patches :=
  fun s hs s' hs' => h s (hsub hs) s' (hsub hs')

@[simp] theorem apply_nil (k : κ) (row : ρ) :
    apply k ([] : List (Patch κ ρ ε)) row = row := rfl

theorem apply_cons (k : κ) (s : Patch κ ρ ε) (patches : List (Patch κ ρ ε)) (row : ρ) :
    apply k (s :: patches) row = apply k patches (s.set k row) := rfl

theorem apply_append (k : κ) (patches patches' : List (Patch κ ρ ε)) (row : ρ) :
    apply k (patches ++ patches') row = apply k patches' (apply k patches row) :=
  List.foldl_append

/-- A function that commutes with every patch. -/
theorem apply_comm {f : Option ρ → ρ}
    (h : ∀ s ∈ patches, ∀ row, f (some (s.set k row)) = s.set k (f (some row))) (row : ρ) :
    f (some (apply k patches row)) = apply k patches (f (some row)) := by
  induction patches generalizing row with
  | nil => rfl
  | cons s patches ih =>
    rw [apply_cons, apply_cons, ih fun s' hs' => h s' (List.mem_cons_of_mem _ hs'),
      h s List.mem_cons_self]

/-- Patches that commute with each other. -/
theorem apply_swap (h : ∀ s ∈ patches, ∀ s' ∈ patches', ∀ row,
      s.set k (s'.set k row) = s'.set k (s.set k row)) (row : ρ) :
    apply k patches (apply k patches' row) = apply k patches' (apply k patches row) := by
  induction patches' generalizing row with
  | nil => rfl
  | cons s' patches' ih =>
    have hone : apply k patches (s'.set k row) = s'.set k (apply k patches row) := by
      clear ih
      induction patches generalizing row with
      | nil => rfl
      | cons s patches ih =>
        rw [apply_cons, apply_cons, h s List.mem_cons_self s' List.mem_cons_self]
        exact ih (fun s hs => h s (List.mem_cons_of_mem _ hs)) (s.set k row)
    rw [apply_cons, apply_cons, ih fun s hs s' hs' => h s hs s' (List.mem_cons_of_mem _ hs'), hone]

/-- A row that no patch changes. -/
theorem apply_eq_self (h : ∀ s ∈ patches, s.set k row = row) : apply k patches row = row := by
  induction patches with
  | nil => rfl
  | cons s patches ih =>
    have hrest := ih fun s' hs' => h s' (List.mem_cons_of_mem _ hs')
    rwa [apply_cons, h s List.mem_cons_self]

theorem Steady.finds_apply (h : Steady patches') (hsub : patches ⊆ patches')
    {s : Patch κ ρ ε} (hs : s ∈ patches') (k : κ) (row : ρ) :
    s.finds (apply k patches row) = s.finds row := by
  induction patches generalizing row with
  | nil => rfl
  | cons s' patches ih =>
    have hsub' := List.cons_subset.mp hsub
    exact (ih hsub'.2 (s'.set k row)).trans (h s hs s' hsub'.1 k row)

theorem foldlM_run_eq_ok (hsteady : Steady patches) {t t' : Table κ ρ} :
    patches.foldlM Patch.run t = .ok t' ↔
      (∀ s ∈ patches, (t s.key).any s.finds = true) ∧
        ∀ k, t' k = (t k).map (apply k patches) := by
  induction patches generalizing t with
  | nil =>
    simp only [List.foldlM_nil, List.not_mem_nil, false_imp_iff, implies_true, true_and]
    constructor
    · intro h k
      obtain rfl := Except.ok.inj h
      exact (Option.map_id' (x := t k)).symm
    · intro h
      refine congrArg Except.ok (Table.ext fun k => ?_)
      exact ((h k).trans Option.map_id').symm
  | cons s patches ih =>
    have ih := @ih (hsteady.mono (List.subset_cons_self _ _))
    rw [List.foldlM_cons, Patch.run]
    by_cases hfinds : (t s.key).any s.finds = true
    · rw [if_pos hfinds]
      refine ih.trans ?_
      simp only [List.mem_cons, forall_eq_or_imp, hfinds, true_and, Option.any_map,
        Option.map_map]
      refine and_congr (forall₂_congr fun s' hs' => ?_) Iff.rfl
      have heq : (fun row => s'.finds (s.set s'.key row)) = s'.finds :=
        funext (hsteady s' (List.mem_cons_of_mem _ hs') s List.mem_cons_self s'.key)
      rw [heq]
    · rw [if_neg hfinds]
      simp [hfinds, bind, Except.bind]

/-- Patches that each find their row by its key, and change only that row. -/
def ByKey (patches : List (Patch κ ρ ε)) : Prop :=
  ∀ s ∈ patches, (∀ row, s.finds row = true) ∧ ∀ k, k ≠ s.key → ∀ row, s.set k row = row

namespace ByKey

theorem nil : ByKey ([] : List (Patch κ ρ ε)) := fun _ h => absurd h List.not_mem_nil

theorem append (h : ByKey patches) (h' : ByKey patches') : ByKey (patches ++ patches') :=
  fun s hs => (List.mem_append.mp hs).elim (h s) (h' s)

theorem steady (h : ByKey patches) : Steady patches :=
  fun s hs _ _ _ _ => ((h s hs).1 _).trans ((h s hs).1 _).symm

theorem apply_eq_self (h : ByKey patches) (hk : ∀ s ∈ patches, s.key ≠ k) (row : ρ) :
    apply k patches row = row :=
  Patch.apply_eq_self fun s hs => (h s hs).2 k (Ne.symm (hk s hs)) row

theorem map_apply_eq_self (h : ByKey patches) (hk : ∀ s ∈ patches, s.key ≠ k)
    (row : Option ρ) : row.map (apply k patches) = row := by
  rw [funext fun row => h.apply_eq_self hk row, Option.map_id']

end ByKey

variable [DecidableEq κ]

/-- `UPDATE ... WHERE key = k`, which has to find the row. -/
def byKey (key : κ) (f : ρ → ρ) (missing : ε) : Patch κ ρ ε :=
  ⟨key, fun _ => true, fun k row => if k = key then f row else row, missing⟩

/-- Patches that are decoded from something. -/
theorem ByKey.filterMap {α : Type} {decode : α → Option (Patch κ ρ ε)}
    (h : ∀ a s, decode a = some s → ∃ f missing, s = byKey s.key f missing) (events : List α) :
    ByKey (events.filterMap decode) := by
  intro s hs
  obtain ⟨a, -, ha⟩ := List.mem_filterMap.mp hs
  obtain ⟨f, missing, heq⟩ := h a s ha
  rw [heq]
  exact ⟨fun _ => rfl, fun _ hne _ => if_neg hne⟩

end Patch

variable [DecidableEq κ]

/-! ### Puts -/

def Put.run (t : Table κ ρ) (s : Put κ ρ) : Table κ ρ := t.set s.key (s.value (t s.key))

namespace Put

/-- What puts do to the row under a key. -/
def apply (k : κ) (puts : List (Put κ ρ)) (row : Option ρ) : Option ρ :=
  puts.foldl (fun row s => if s.key = k then some (s.value row) else row) row

@[simp] theorem apply_nil (k : κ) (row : Option ρ) : apply k [] row = row := rfl

theorem apply_cons_self (s : Put κ ρ) (puts : List (Put κ ρ)) (row : Option ρ) :
    apply s.key (s :: puts) row = apply s.key puts (some (s.value row)) := by
  rw [apply, List.foldl_cons, if_pos rfl, apply]

theorem apply_append (k : κ) (puts puts' : List (Put κ ρ)) (row : Option ρ) :
    apply k (puts ++ puts') row = apply k puts' (apply k puts row) :=
  List.foldl_append

variable {k : κ} {puts : List (Put κ ρ)} {row : Option ρ}

theorem apply_cons_of_ne {s : Put κ ρ} (h : s.key ≠ k) (puts : List (Put κ ρ))
    (row : Option ρ) : apply k (s :: puts) row = apply k puts row := by
  rw [apply, List.foldl_cons, if_neg h, apply]

theorem apply_eq_self (h : ∀ s ∈ puts, s.key ≠ k) (row : Option ρ) :
    apply k puts row = row := by
  induction puts with
  | nil => rfl
  | cons s puts ih =>
    have hrest := ih fun s' hs' => h s' (List.mem_cons_of_mem _ hs')
    rwa [apply_cons_of_ne (h s List.mem_cons_self)]

/-- A row that was put has a put. -/
theorem exists_of_apply_none {r : ρ} (h : apply k puts none = some r) :
    ∃ s ∈ puts, s.key = k := by
  by_contra hnot
  rw [apply_eq_self fun s hs hkey => hnot ⟨s, hs, hkey⟩] at h
  exact absurd h (by simp)

/-- A row that is there stays there. -/
theorem isSome_apply (puts : List (Put κ ρ)) (h : row.isSome = true) :
    (apply k puts row).isSome = true := by
  induction puts generalizing row with
  | nil => exact h
  | cons s puts ih =>
    by_cases hkey : s.key = k
    · subst hkey
      rw [apply_cons_self]
      exact ih rfl
    · rw [apply_cons_of_ne hkey]
      exact ih h

/-- Puts that ignore the conflict keep the row. -/
theorem apply_some_eq_self (h : ∀ s ∈ puts, ∀ row, s.value (some row) = row) (row : ρ) :
    apply k puts (some row) = some row := by
  induction puts with
  | nil => rfl
  | cons s puts ih =>
    have hrest := ih fun s' hs' => h s' (List.mem_cons_of_mem _ hs')
    by_cases hkey : s.key = k
    · subst hkey
      rwa [apply_cons_self, h s List.mem_cons_self]
    · rwa [apply_cons_of_ne hkey]

variable (row) in
/-- Puts that commute with a change of the row. -/
theorem apply_map {g : ρ → ρ}
    (hsome : ∀ s ∈ puts, s.key = k → ∀ row, s.value (some (g row)) = g (s.value (some row)))
    (hnone : row = none → ∀ s ∈ puts, s.key = k → s.value none = g (s.value none)) :
    apply k puts (row.map g) = (apply k puts row).map g := by
  induction puts generalizing row with
  | nil => rfl
  | cons s puts ih =>
    have ih := fun row => @ih row fun s' hs' => hsome s' (List.mem_cons_of_mem _ hs')
    by_cases hkey : s.key = k
    · subst hkey
      have hvalue : s.value (row.map g) = g (s.value row) := by
        cases row with
        | none => exact hnone rfl s List.mem_cons_self rfl
        | some row => exact hsome s List.mem_cons_self rfl row
      rw [apply_cons_self, apply_cons_self, hvalue]
      exact ih (some (s.value row)) fun h => absurd h (by simp)
    · rw [apply_cons_of_ne hkey, apply_cons_of_ne hkey]
      exact ih row fun h s' hs' => hnone h s' (List.mem_cons_of_mem _ hs')

/-- Puts of different keys: each row is put once or not at all. -/
theorem apply_map_keys {keys : List κ} (hnodup : keys.Nodup) (value : κ → Option ρ → ρ) (k : κ)
    (row : Option ρ) :
    apply k (keys.map fun key => ⟨key, value key⟩) row =
      if k ∈ keys then some (value k row) else row := by
  induction keys generalizing row with
  | nil => rfl
  | cons key keys ih =>
    obtain ⟨hnot, hnodup⟩ := List.nodup_cons.mp hnodup
    rw [List.map_cons]
    by_cases hkey : key = k
    · subst hkey
      rw [apply_cons_self (s := ⟨key, value key⟩), ih hnodup, if_neg hnot,
        if_pos List.mem_cons_self]
    · rw [apply_cons_of_ne (s := ⟨key, value key⟩) hkey, ih hnodup]
      simp only [List.mem_cons, Ne.symm hkey, false_or]

theorem foldl_run_apply (puts : List (Put κ ρ)) (t : Table κ ρ) (k : κ) :
    (puts.foldl Put.run t) k = apply k puts (t k) := by
  induction puts generalizing t with
  | nil => rfl
  | cons s puts ih =>
    rw [List.foldl_cons, ih, Put.run]
    by_cases hkey : s.key = k
    · subst hkey
      rw [Table.set_self, apply_cons_self]
    · rw [Table.set_of_ne _ (Ne.symm hkey), apply_cons_of_ne hkey]

end Put

/-- What a patch finds by its key is not put away. -/
theorem Patch.ByKey.kept {patches : List (Patch κ ρ ε)} (h : Patch.ByKey patches)
    (puts : List (Put κ ρ)) : ∀ s ∈ patches, ∀ row, s.finds row = true →
      (Put.apply s.key puts (some row)).any s.finds = true := by
  intro s hs row _
  obtain ⟨row', hrow'⟩ := Option.isSome_iff_exists.mp
    (show (Put.apply s.key puts (some row)).isSome = true from Put.isSome_apply puts rfl)
  rw [hrow']
  exact (h s hs).1 row'

/-! ### Batches -/

def Batch.run (b : Batch κ ρ ε) (t : Table κ ρ) : Except ε (Table κ ρ) :=
  b.patches.foldlM Patch.run (b.puts.foldl Put.run t)

namespace Batch

/-- **A batch, row by row**: every patch finds its row among those that are there after
the puts, and every row is put and then patched. -/
theorem run_eq_ok {b : Batch κ ρ ε} (hsteady : Patch.Steady b.patches) {t t' : Table κ ρ} :
    b.run t = .ok t' ↔
      (∀ s ∈ b.patches, (Put.apply s.key b.puts (t s.key)).any s.finds = true) ∧
        ∀ k, t' k = (Put.apply k b.puts (t k)).map (Patch.apply k b.patches) := by
  rw [Batch.run, Patch.foldlM_run_eq_ok hsteady]
  simp only [Put.foldl_run_apply]

/-- Two batches with the same patches, whose puts the patches cannot tell apart. -/
theorem run_congr {patches : List (Patch κ ρ ε)} {puts puts' : List (Put κ ρ)}
    (hkey : Patch.ByKey patches)
    (h : ∀ k, (Put.apply k puts none).map (Patch.apply k patches) =
      (Put.apply k puts' none).map (Patch.apply k patches)) {t : Table κ ρ}
    (hrun : (⟨puts, patches⟩ : Batch κ ρ ε).run .empty = .ok t) :
    (⟨puts', patches⟩ : Batch κ ρ ε).run .empty = .ok t := by
  obtain ⟨hfinds, hrow⟩ := (run_eq_ok hkey.steady).mp hrun
  refine (run_eq_ok hkey.steady).mpr ⟨fun s hs => ?_, fun k => (hrow k).trans (h k)⟩
  have hsome := congrArg Option.isSome (h s.key)
  rw [Option.isSome_map, Option.isSome_map] at hsome
  obtain ⟨row, hrow', -⟩ := (Option.any_eq_true _ _).mp (hfinds s hs)
  rw [Table.empty_apply] at hrow' ⊢
  rw [hrow', Option.isSome_some] at hsome
  obtain ⟨row', hput'⟩ := Option.isSome_iff_exists.mp hsome.symm
  rw [hput']
  exact (hkey s hs).1 row'

/-! ### Two batches that are one -/

/-- **The batch `b` is the batch `b₁` and then the batch `b₂`**, on a table that is empty:
it makes the same patches, and the puts of the second batch may overtake the patches of
the first. -/
structure Merges (b₁ b₂ b : Batch κ ρ ε) : Prop where
  steady : Patch.Steady (b₁.patches ++ b₂.patches)
  mem_patches : ∀ s ∈ b.patches, s ∈ b₁.patches ++ b₂.patches
  patches_apply : ∀ k row,
    Patch.apply k b.patches row = Patch.apply k (b₁.patches ++ b₂.patches) row
  /-- What a patch of the first batch finds is not put away by the second. -/
  kept : ∀ s ∈ b₁.patches, ∀ row, s.finds row = true →
    (Put.apply s.key b₂.puts (some row)).any s.finds = true
  /-- A row the first batch does not put. -/
  fresh : ∀ k, Put.apply k b₁.puts none = none → (∀ s ∈ b₁.patches, s.key ≠ k) →
    Put.apply k b₂.puts none = (Put.apply k b.puts none).map (Patch.apply k b₁.patches)
  /-- A row the first batch puts. -/
  again : ∀ k row, Put.apply k b₁.puts none = some row →
    Put.apply k b₂.puts (some (Patch.apply k b₁.patches row)) =
      (Put.apply k b.puts none).map (Patch.apply k b₁.patches)

/-- **Merging**: two batches that succeed on a table that was empty are one batch that
succeeds on it, with the same result. -/
theorem Merges.run {b₁ b₂ b : Batch κ ρ ε} (h : b₁.Merges b₂ b) {t t' : Table κ ρ}
    (h₁ : b₁.run .empty = .ok t) (h₂ : b₂.run t = .ok t') : b.run .empty = .ok t' := by
  have hsub₁ : b₁.patches ⊆ b₁.patches ++ b₂.patches := List.subset_append_left _ _
  have hsub₂ : b₂.patches ⊆ b₁.patches ++ b₂.patches := List.subset_append_right _ _
  obtain ⟨hfinds₁, hrow₁⟩ := (run_eq_ok (h.steady.mono hsub₁)).mp h₁
  obtain ⟨hfinds₂, hrow₂⟩ := (run_eq_ok (h.steady.mono hsub₂)).mp h₂
  simp only [Table.empty_apply] at hfinds₁ hrow₁
  -- The puts of the second batch, made after the first batch or before its patches.
  have hputs : ∀ k, Put.apply k b₂.puts (t k) =
      (Put.apply k b.puts none).map (Patch.apply k b₁.patches) := by
    intro k
    rw [hrow₁ k]
    cases hk : Put.apply k b₁.puts none with
    | none =>
      refine h.fresh k hk fun s hs hkey => ?_
      have hfound := hfinds₁ s hs
      rw [hkey, hk] at hfound
      exact absurd hfound (by simp)
    | some row => exact h.again k row hk
  refine (run_eq_ok (h.steady.mono h.mem_patches)).mpr ⟨fun s hs => ?_, fun k => ?_⟩
  · -- Patching does not change what a patch finds.
    have hfinds : ((Put.apply s.key b.puts none).map (Patch.apply s.key b₁.patches)).any
        s.finds = (Put.apply s.key b.puts none).any s.finds := by
      rw [Option.any_map, funext fun row =>
        h.steady.finds_apply hsub₁ (h.mem_patches s hs) s.key row]
    rw [Table.empty_apply, ← hfinds, ← hputs s.key]
    rcases List.mem_append.mp (h.mem_patches s hs) with hs₁ | hs₂
    · obtain ⟨row, hrow, hfound⟩ := (Option.any_eq_true _ _).mp (hfinds₁ s hs₁)
      rw [hrow₁ s.key, hrow]
      exact h.kept s hs₁ _ ((h.steady.finds_apply hsub₁ (hsub₁ hs₁) s.key row).trans hfound)
    · exact hfinds₂ s hs₂
  · rw [hrow₂ k, hputs k, Option.map_map, Table.empty_apply]
    congr 1
    ext row : 1
    rw [h.patches_apply k row, Patch.apply_append, Function.comp_apply]

variable {puts₁ puts₂ : List (Put κ ρ)} {patches₁ patches₂ patches : List (Patch κ ρ ε)}

/-- Nothing is overtaken where nothing is patched. -/
theorem merges_of_patches_nil :
    Merges (⟨puts₁, []⟩ : Batch κ ρ ε) ⟨puts₂, []⟩ ⟨puts₁ ++ puts₂, []⟩ where
  steady := fun _ h => absurd h List.not_mem_nil
  mem_patches := fun _ h => absurd h List.not_mem_nil
  patches_apply _ _ := rfl
  kept := fun _ h => absurd h List.not_mem_nil
  fresh k hk _ := by
    rw [Put.apply_append, hk]
    exact Option.map_id'.symm
  again k row hk := by
    rw [Put.apply_append, hk]
    exact Option.map_id'.symm

variable (puts₁ puts₂ patches₁ patches₂) in
/-- **Puts that commute with the patches** they overtake. -/
theorem merges_of_commute (hsteady : Patch.Steady (patches₁ ++ patches₂))
    (hkept : ∀ s ∈ patches₁, ∀ row, s.finds row = true →
      (Put.apply s.key puts₂ (some row)).any s.finds = true)
    (hfresh : ∀ s ∈ puts₂, ∀ s' ∈ patches₁, s'.key ≠ s.key →
      s'.set s.key (s.value none) = s.value none)
    (hagain : ∀ s ∈ puts₂, ∀ s' ∈ patches₁, ∀ row,
      s.value (some (s'.set s.key row)) = s'.set s.key (s.value (some row))) :
    Merges ⟨puts₁, patches₁⟩ ⟨puts₂, patches₂⟩ ⟨puts₁ ++ puts₂, patches₁ ++ patches₂⟩ := by
  have hsome : ∀ k, ∀ s ∈ puts₂, s.key = k → ∀ row,
      s.value (some (Patch.apply k patches₁ row)) =
        Patch.apply k patches₁ (s.value (some row)) := by
    rintro _ s hs rfl
    exact Patch.apply_comm (hagain s hs)
  refine ⟨hsteady, fun _ => id, fun _ _ => rfl, hkept, fun k hk hne => ?_, fun k row hk => ?_⟩
  · rw [Put.apply_append, hk]
    refine Put.apply_map none (hsome k) fun _ s hs hkey => ?_
    subst hkey
    exact (Patch.apply_eq_self fun s' hs' => hfresh s hs s' hs' (hne s' hs')).symm
  · rw [Put.apply_append, hk]
    exact Put.apply_map (some row) (hsome k) fun h => absurd h (by simp)

variable (puts₁ puts₂ patches₁ patches₂) in
/-- **Puts of rows of their own**: no key is put by both batches. -/
theorem merges_of_disjoint (hkey : Patch.ByKey (patches₁ ++ patches₂))
    (hdisjoint : ∀ s ∈ puts₁, ∀ s' ∈ puts₂, s.key ≠ s'.key) :
    Merges ⟨puts₁, patches₁⟩ ⟨puts₂, patches₂⟩ ⟨puts₁ ++ puts₂, patches₁ ++ patches₂⟩ := by
  have hkey₁ : Patch.ByKey patches₁ := fun s hs => hkey s (List.mem_append_left _ hs)
  refine ⟨hkey.steady, fun _ => id, fun _ _ => rfl, hkey₁.kept _, fun k hk hne => ?_,
    fun k row hk => ?_⟩
  · rw [Put.apply_append, hk, hkey₁.map_apply_eq_self hne]
  · obtain ⟨s, hs, rfl⟩ := Put.exists_of_apply_none hk
    have hself := Put.apply_eq_self (k := s.key) fun s' hs' => Ne.symm (hdisjoint s hs s' hs')
    rw [Put.apply_append, hk, hself, hself, Option.map_some]

/-- **Puts of snapshots**: a batch puts every key it names once, and no key is put any
more that has been patched. A key both batches name may have another snapshot in the
merged batch, which is then what the second one makes of the first. -/
theorem merges_snapshots {keys₁ keys₂ keys : List κ} {value₁ value₂ value : κ → Option ρ → ρ}
    (hnodup₁ : keys₁.Nodup) (hnodup₂ : keys₂.Nodup) (hnodup : keys.Nodup)
    (hmem : ∀ k, k ∈ keys ↔ k ∈ keys₁ ∨ k ∈ keys₂) (hkey : Patch.ByKey (patches₁ ++ patches₂))
    (hpatches : ∀ s ∈ patches, s ∈ patches₁ ++ patches₂)
    (happly : ∀ k row, Patch.apply k patches row = Patch.apply k (patches₁ ++ patches₂) row)
    (hfinal : ∀ s ∈ patches₁, s.key ∉ keys₂)
    (honly₁ : ∀ k ∈ keys₁, k ∉ keys₂ → value k none = value₁ k none)
    (honly₂ : ∀ k ∈ keys₂, k ∉ keys₁ → value k none = value₂ k none)
    (hboth : ∀ k ∈ keys₁, k ∈ keys₂ → value k none = value₂ k (some (value₁ k none))) :
    Merges ⟨keys₁.map fun k => ⟨k, value₁ k⟩, patches₁⟩
      ⟨keys₂.map fun k => ⟨k, value₂ k⟩, patches₂⟩ ⟨keys.map fun k => ⟨k, value k⟩, patches⟩ := by
  have hkey₁ : Patch.ByKey patches₁ := fun s hs => hkey s (List.mem_append_left _ hs)
  refine ⟨hkey.steady, hpatches, happly, hkey₁.kept _, fun k hk hne => ?_, fun k row hk => ?_⟩
  · rw [hkey₁.map_apply_eq_self hne]
    rw [Put.apply_map_keys hnodup₁] at hk
    rw [Put.apply_map_keys hnodup₂, Put.apply_map_keys hnodup]
    by_cases hk₁ : k ∈ keys₁
    · rw [if_pos hk₁] at hk
      exact absurd hk (by simp)
    · by_cases hk₂ : k ∈ keys₂
      · rw [if_pos hk₂, if_pos ((hmem k).mpr (.inr hk₂)), honly₂ k hk₂ hk₁]
      · rw [if_neg hk₂, if_neg fun h => ((hmem k).mp h).elim hk₁ hk₂]
  · rw [Put.apply_map_keys hnodup₁] at hk
    rw [Put.apply_map_keys hnodup₂, Put.apply_map_keys hnodup]
    have hk₁ : k ∈ keys₁ := by
      by_contra hnot
      rw [if_neg hnot] at hk
      exact absurd hk (by simp)
    rw [if_pos hk₁] at hk
    obtain rfl := Option.some.inj hk
    rw [if_pos ((hmem k).mpr (.inl hk₁)), Option.map_some]
    by_cases hk₂ : k ∈ keys₂
    -- A key that is put again has not been patched.
    · have hself : ∀ row, Patch.apply k patches₁ row = row :=
        hkey₁.apply_eq_self fun s hs heq => hfinal s hs (heq ▸ hk₂)
      rw [if_pos hk₂, hself, hself, hboth k hk₁ hk₂]
    · rw [if_neg hk₂, honly₁ k hk₁ hk₂]

end Batch

end Sql
