import ScientificProtocol.Sql.Batch
import Mathlib.Data.List.Induction

/-!
# Replaying a journal

A journal is a list of writes to a table: a row is created that was not there, or a row is
changed that was. A write that finds it otherwise is an error, so that a journal that can
be replayed (`Sql.replay`) says of itself that it is in order.

A reader of a journal may sort its writes and make all of the creations first
(`Sql.Batch`). **The order between the creations and the changes does not matter**
(`Sql.Batch.run_of_replay`): a journal that can be replayed is a batch that succeeds, with
the same table. A journal of some of the columns is replayed together with a journal of
all of them (`Sql.exists_replay_of_along`).
-/

namespace Sql

variable {α κ ρ ρ' ε : Type}

/-- A write of a journal. -/
inductive Write (κ ρ : Type) where
  | create (key : κ) (row : ρ)
  | change (key : κ) (f : ρ → ρ)

/-- The rows of a table, column by column. -/
def Table.map (f : ρ → ρ') (t : Table κ ρ) : Table κ ρ' := ⟨fun k => (t k).map f⟩

@[simp] theorem Table.map_apply (f : ρ → ρ') (t : Table κ ρ) (k : κ) :
    t.map f k = (t k).map f := rfl

variable [DecidableEq κ]

theorem Table.map_set (f : ρ → ρ') (t : Table κ ρ) (k : κ) (row : ρ) :
    (t.set k row).map f = (t.map f).set k (f row) := by
  refine ext fun k' => ?_
  simp only [map_apply, set_apply]
  split <;> rfl

theorem Table.map_update {f : ρ → ρ'} {g : ρ → ρ} {g' : ρ' → ρ'}
    (h : ∀ row, f (g row) = g' (f row)) (t : Table κ ρ) (k : κ) :
    (t.update k g).map f = (t.map f).update k g' := by
  refine ext fun k' => ?_
  simp only [map_apply, update_apply]
  split
  · rw [Option.map_map, Option.map_map]
    exact congrArg (Option.map · _) (funext h)
  · rfl

/-- Making one write. -/
def Write.run (t : Table κ ρ) : Write κ ρ → Option (Table κ ρ)
  | .create k row => if (t k).isSome then none else some (t.set k row)
  | .change k f => if (t k).isSome then some (t.update k f) else none

/-- Making the writes of a journal, one after the other. -/
def replay (writes : List (Write κ ρ)) (t : Table κ ρ) : Option (Table κ ρ) :=
  writes.foldlM Write.run t

variable {t t' : Table κ ρ} {writes writes' : List (Write κ ρ)}

theorem Write.run_create {k : κ} {row : ρ} :
    Write.run t (.create k row) = some t' ↔ t k = none ∧ t.set k row = t' := by
  rw [Write.run]
  cases t k <;> simp

theorem Write.run_change {k : κ} {f : ρ → ρ} :
    Write.run t (.change k f) = some t' ↔ (∃ row, t k = some row) ∧ t.update k f = t' := by
  rw [Write.run]
  cases t k <;> simp

@[simp] theorem replay_nil (t : Table κ ρ) : replay [] t = some t := rfl

theorem replay_append :
    replay (writes ++ writes') t = (replay writes t).bind (replay writes') := by
  rw [replay, List.foldlM_append]
  rfl

theorem replay_trans {t'' : Table κ ρ} (h : replay writes t = some t')
    (h' : replay writes' t' = some t'') : replay (writes ++ writes') t = some t'' := by
  rw [replay_append, h]
  exact h'

theorem replay_singleton (w : Write κ ρ) (t : Table κ ρ) : replay [w] t = w.run t := by
  rw [replay, List.foldlM_cons]
  cases w.run t <;> rfl

/-! ### Journals of some of the columns -/

/-- The same write to a table with fewer columns. -/
inductive Write.Along (f : ρ → ρ') : Write κ ρ → Write κ ρ' → Prop
  | create {k : κ} {row : ρ} : Along f (.create k row) (.create k (f row))
  | change {k : κ} {g : ρ → ρ} {g' : ρ' → ρ'} : (∀ row, f (g row) = g' (f row)) →
      Along f (.change k g) (.change k g')

/-- **A journal can be replayed if one of fewer columns can.** -/
theorem exists_replay_of_along {f : ρ → ρ'} {ws : List (Write κ ρ)} {ws' : List (Write κ ρ')}
    (h : List.Forall₂ (Write.Along f) ws ws') {t : Table κ ρ} {u : Table κ ρ'}
    (hreplay : replay ws' (t.map f) = some u) :
    ∃ t', replay ws t = some t' ∧ t'.map f = u := by
  induction h generalizing t with
  | nil => exact ⟨t, rfl, Option.some.inj hreplay⟩
  | @cons w w' ws ws' hw hws ih =>
    obtain ⟨u₁, hrun, hrest⟩ := Option.bind_eq_some_iff.mp
      (show (w'.run (t.map f)).bind (replay ws') = some u from hreplay)
    have hone : ∃ t₁, w.run t = some t₁ ∧ t₁.map f = u₁ := by
      cases hw with
      | @create k row =>
        obtain ⟨hnone, rfl⟩ := Write.run_create.mp hrun
        exact ⟨t.set k row, Write.run_create.mpr ⟨Option.map_eq_none_iff.mp hnone, rfl⟩,
          Table.map_set ..⟩
      | @change k g g' hg =>
        obtain ⟨⟨row, hsome⟩, rfl⟩ := Write.run_change.mp hrun
        obtain ⟨row, hrow, -⟩ := Option.map_eq_some_iff.mp hsome
        exact ⟨t.update k g, Write.run_change.mpr ⟨⟨row, hrow⟩, rfl⟩, Table.map_update hg _ _⟩
    obtain ⟨t₁, hrun₁, rfl⟩ := hone
    obtain ⟨t', hreplay', heq⟩ := ih hrest
    refine ⟨t', ?_, heq⟩
    show (w.run t).bind (replay ws) = some t'
    rw [hrun₁]
    exact hreplay'

/-! ### What is in a replayed table -/

/-- **The rows of a replayed table are those that were created.** -/
theorem isSome_replay (h : replay writes .empty = some t) (k : κ) :
    (t k).isSome = true ↔ ∃ row, Write.create k row ∈ writes := by
  induction writes using List.reverseRecOn generalizing t with
  | nil =>
    obtain rfl := Option.some.inj h
    simp
  | append_singleton writes w ih =>
    rw [replay_append] at h
    obtain ⟨t₀, h₀, hlast⟩ := Option.bind_eq_some_iff.mp h
    rw [replay_singleton] at hlast
    simp only [List.mem_append, exists_or, ← ih h₀, List.mem_singleton]
    cases w with
    | create k' row =>
      obtain ⟨-, rfl⟩ := Write.run_create.mp hlast
      by_cases hk : k = k'
      · subst hk
        simp
      · simp [hk]
    | change k' f =>
      obtain ⟨-, rfl⟩ := Write.run_change.mp hlast
      by_cases hk : k = k'
      · subst hk
        simp
      · simp [Table.update_of_ne _ hk]

/-- **What is changed was created.** -/
theorem exists_create_of_change (h : replay writes .empty = some t) {k : κ} {f : ρ → ρ}
    (hmem : Write.change k f ∈ writes) : ∃ row, Write.create k row ∈ writes := by
  induction writes using List.reverseRecOn generalizing t with
  | nil => exact absurd hmem List.not_mem_nil
  | append_singleton writes w ih =>
    rw [replay_append] at h
    obtain ⟨t₀, h₀, hlast⟩ := Option.bind_eq_some_iff.mp h
    have hexists : ∃ row, Write.create k row ∈ writes := by
      rcases List.mem_append.mp hmem with hmem | hmem
      · exact ih h₀ hmem
      · obtain rfl := List.mem_singleton.mp hmem
        rw [replay_singleton] at hlast
        obtain ⟨⟨row, hrow⟩, -⟩ := Write.run_change.mp hlast
        exact (isSome_replay h₀ k).mp (Option.isSome_iff_exists.mpr ⟨row, hrow⟩)
    exact hexists.imp fun _ => List.mem_append_left _

/-- **A row that is created is there in the end**, as the changes have left it. -/
theorem exists_row_of_create {P : ρ → Prop} (h : replay writes t = some t') {k : κ} {row : ρ}
    (hmem : Write.create k row ∈ writes) (hrow : P row)
    (hchange : ∀ f, Write.change k f ∈ writes → ∀ row, P row → P (f row)) :
    ∃ row', t' k = some row' ∧ P row' := by
  induction writes using List.reverseRecOn generalizing t' with
  | nil => exact absurd hmem List.not_mem_nil
  | append_singleton writes w ih =>
    rw [replay_append] at h
    obtain ⟨t₀, h₀, hlast⟩ := Option.bind_eq_some_iff.mp h
    rw [replay_singleton] at hlast
    have ih := fun hmem => ih h₀ hmem fun f hf => hchange f (List.mem_append_left _ hf)
    cases w with
    | create k' row' =>
      obtain ⟨hnone, rfl⟩ := Write.run_create.mp hlast
      rcases List.mem_append.mp hmem with hmem | hmem
      · obtain ⟨row₀, hrow₀, hP⟩ := ih hmem
        have hne : k ≠ k' := by
          rintro rfl
          rw [hnone] at hrow₀
          exact absurd hrow₀ (by simp)
        exact ⟨row₀, by rw [Table.set_of_ne _ hne, hrow₀], hP⟩
      · obtain ⟨rfl, rfl⟩ := Write.create.inj (List.mem_singleton.mp hmem)
        exact ⟨row, Table.set_self .., hrow⟩
    | change k' f =>
      obtain ⟨-, rfl⟩ := Write.run_change.mp hlast
      have hmem : Write.create k row ∈ writes := by
        rcases List.mem_append.mp hmem with hmem | hmem
        · exact hmem
        · exact absurd (List.mem_singleton.mp hmem) (by simp)
      obtain ⟨row₀, hrow₀, hP⟩ := ih hmem
      by_cases hk : k = k'
      · subst hk
        refine ⟨f row₀, by rw [Table.update_of_some hrow₀, Table.set_self], ?_⟩
        exact hchange f (List.mem_append_right _ (List.mem_singleton_self _)) row₀ hP
      · exact ⟨row₀, by rw [Table.update_of_ne _ hk, hrow₀], hP⟩

/-- **The rule of the rows**: what holds of every row that is created and is kept by every
change holds of the table. -/
theorem forall_of_replay {P : κ → ρ → Prop} (h : replay writes .empty = some t)
    (hcreate : ∀ k row, Write.create k row ∈ writes → P k row)
    (hchange : ∀ k f, Write.change k f ∈ writes → ∀ row, P k row → P k (f row)) {k : κ} {row : ρ}
    (hrow : t k = some row) : P k row := by
  induction writes using List.reverseRecOn generalizing t k row with
  | nil =>
    obtain rfl := Option.some.inj h
    exact absurd hrow (by simp)
  | append_singleton writes w ih =>
    rw [replay_append] at h
    obtain ⟨t₀, h₀, hlast⟩ := Option.bind_eq_some_iff.mp h
    have ih := @ih t₀ h₀ (fun k row hmem => hcreate k row (List.mem_append_left _ hmem))
      (fun k f hmem => hchange k f (List.mem_append_left _ hmem))
    have hw := List.mem_append_right writes (List.mem_singleton_self w)
    rw [replay_singleton] at hlast
    cases w with
    | create k' row' =>
      obtain ⟨-, rfl⟩ := Write.run_create.mp hlast
      rw [Table.set_apply] at hrow
      split at hrow
      next heq =>
        obtain rfl := Option.some.inj hrow
        exact heq ▸ hcreate k' row' hw
      next => exact ih hrow
    | change k' f =>
      obtain ⟨-, rfl⟩ := Write.run_change.mp hlast
      obtain ⟨row₀, hrow₀, heq⟩ := Table.update_eq_some.mp hrow
      split at heq
      next hk =>
        subst hk heq
        exact hchange k f hw row₀ (ih hrow₀)
      next =>
        subst heq
        exact ih hrow₀

/-! ### Journals as batches -/

/-- A write, and the statement a batch makes it by. -/
inductive Statement :
    Option (Write κ ρ) → Option (Put κ ρ) → Option (Patch κ ρ ε) → Prop
  | none : Statement none none none
  | put {s : Put κ ρ} {row : ρ} : s.value Option.none = row →
      Statement (some (.create s.key row)) (some s) none
  | patch {k : κ} {f : ρ → ρ} {missing : ε} :
      Statement (some (.change k f)) none (some (.byKey k f missing))

theorem Statement.of_put {s : Put κ ρ} {k : κ} {row : ρ} (hkey : s.key = k)
    (hvalue : s.value Option.none = row) :
    Statement (ε := ε) (some (.create k row)) (some s) Option.none :=
  hkey ▸ .put hvalue

theorem Statement.exists_byKey {w : Option (Write κ ρ)} {p : Option (Put κ ρ)}
    {s : Patch κ ρ ε} (h : Statement w p (some s)) : ∃ k f missing, s = .byKey k f missing := by
  cases h
  exact ⟨_, _, _, rfl⟩

variable {write : α → Option (Write κ ρ)} {put : α → Option (Put κ ρ)}
  {patch : α → Option (Patch κ ρ ε)}

/-- **The order between creations and changes does not matter**: replaying a journal is
making a batch of it. -/
theorem Batch.run_of_replay (hstatement : ∀ a, Statement (write a) (put a) (patch a))
    {L : List α} (h : replay (L.filterMap write) .empty = some t) :
    (⟨L.filterMap put, L.filterMap patch⟩ : Batch κ ρ ε).run .empty = .ok t := by
  have hkey : Patch.ByKey (L.filterMap patch) := by
    intro s hs
    obtain ⟨a, -, ha⟩ := List.mem_filterMap.mp hs
    obtain ⟨k, f, missing, rfl⟩ := (ha ▸ hstatement a).exists_byKey
    exact ⟨fun _ => rfl, fun _ hne _ => if_neg hne⟩
  refine (Batch.run_eq_ok hkey.steady).mpr ?_
  -- Whatever has been changed is there, and every row is created and then changed.
  suffices hrows : (∀ s ∈ L.filterMap patch, (t s.key).isSome = true) ∧
      ∀ k, t k = (Put.apply k (L.filterMap put) none).map (Patch.apply k (L.filterMap patch)) by
    refine ⟨fun s hs => ?_, hrows.2⟩
    have hsome := hrows.1 s hs
    rw [hrows.2, Option.isSome_map] at hsome
    obtain ⟨row, hrow⟩ := Option.isSome_iff_exists.mp hsome
    rw [Table.empty_apply, hrow]
    exact (hkey s hs).1 row
  clear hkey
  induction L using List.reverseRecOn generalizing t with
  | nil =>
    obtain rfl := Option.some.inj h
    exact ⟨fun _ hs => absurd hs List.not_mem_nil, fun _ => rfl⟩
  | append_singleton L a ih =>
    rw [List.filterMap_append, replay_append] at h
    obtain ⟨t₀, h₀, hlast⟩ := Option.bind_eq_some_iff.mp h
    obtain ⟨hchanged, hrow⟩ := ih h₀
    simp only [List.filterMap_append]
    have hone := hstatement a
    generalize hw : write a = w at hone
    generalize hp : put a = p at hone
    generalize hs : patch a = s at hone
    cases hone with
    | none =>
      rw [List.filterMap_cons_none hw] at hlast
      obtain rfl := Option.some.inj hlast
      simp only [List.filterMap_cons_none hp, List.filterMap_cons_none hs, List.filterMap_nil,
        List.append_nil]
      exact ⟨hchanged, hrow⟩
    | @put s' row hvalue =>
      rw [List.filterMap_cons_some hw, List.filterMap_nil, replay_singleton] at hlast
      obtain ⟨hnone, rfl⟩ := Write.run_create.mp hlast
      simp only [List.filterMap_cons_some hp, List.filterMap_cons_none hs, List.filterMap_nil,
        List.append_nil, Put.apply_append]
      constructor
      · intro s'' hs''
        rw [Table.set_apply]
        split
        next => rfl
        next => exact hchanged s'' hs''
      · intro k
        rw [Table.set_apply]
        split
        next heq =>
          subst heq
          have hput : Put.apply s'.key (L.filterMap put) none = none := by
            have hrow := hrow s'.key
            rw [hnone] at hrow
            exact Option.map_eq_none_iff.mp hrow.symm
          -- A row that was not there has not been changed.
          have hself : Patch.apply s'.key (L.filterMap patch) row = row := by
            refine Patch.apply_eq_self fun s'' hs'' => ?_
            have hne : s'.key ≠ s''.key := by
              intro heq
              have hsome := hchanged s'' hs''
              rw [← heq, hnone] at hsome
              exact absurd hsome (by simp)
            obtain ⟨b, -, hb⟩ := List.mem_filterMap.mp hs''
            obtain ⟨k, f, missing, rfl⟩ := (hb ▸ hstatement b).exists_byKey
            exact if_neg hne
          rw [hput, Put.apply_cons_self, Put.apply_nil, hvalue, Option.map_some, hself]
        next hne => rw [Put.apply_cons_of_ne (Ne.symm hne), Put.apply_nil, hrow k]
    | @patch k f missing =>
      rw [List.filterMap_cons_some hw, List.filterMap_nil, replay_singleton] at hlast
      obtain ⟨⟨row, hsome⟩, rfl⟩ := Write.run_change.mp hlast
      simp only [List.filterMap_cons_none hp, List.filterMap_cons_some hs, List.filterMap_nil,
        List.append_nil]
      constructor
      · intro s'' hs''
        have hthere : (t₀ s''.key).isSome = true := by
          rcases List.mem_append.mp hs'' with hs'' | hs''
          · exact hchanged s'' hs''
          · obtain rfl := List.mem_singleton.mp hs''
            exact Option.isSome_iff_exists.mpr ⟨row, hsome⟩
        rw [Table.update_apply]
        split
        next =>
          rw [Option.isSome_map]
          exact hthere
        next => exact hthere
      · intro k'
        rw [Table.update_apply]
        have hset : ∀ row, Patch.apply k' (L.filterMap patch ++ [.byKey k f missing]) row =
            if k' = k then f (Patch.apply k' (L.filterMap patch) row)
            else Patch.apply k' (L.filterMap patch) row := fun row => Patch.apply_append _ _ _ _
        rw [show Patch.apply k' (L.filterMap patch ++ [.byKey k f missing]) = _ from funext hset]
        split
        next =>
          rw [hrow k', Option.map_map]
          rfl
        next => exact hrow k'

/-! ### Going on from a batch -/

/-- What is put is there. -/
theorem Put.isSome_apply_of_mem {puts : List (Put κ ρ)} {s : Put κ ρ} (h : s ∈ puts)
    (row : Option ρ) : (Put.apply s.key puts row).isSome = true := by
  obtain ⟨before, after, rfl⟩ := List.append_of_mem h
  rw [Put.apply_append, Put.apply_cons_self]
  exact Put.isSome_apply after rfl

/-- **The rule of the rows** for puts. -/
theorem Put.forall_apply {P : ρ → Prop} {puts : List (Put κ ρ)} {k : κ}
    (h : ∀ s ∈ puts, s.key = k → ∀ row, (∀ r, row = some r → P r) → P (s.value row))
    {row : Option ρ} (hrow : ∀ r, row = some r → P r) {r : ρ} (hr : apply k puts row = some r) :
    P r := by
  induction puts generalizing row with
  | nil => exact hrow r hr
  | cons s puts ih =>
    have ih := @ih fun s' hs' => h s' (List.mem_cons_of_mem _ hs')
    by_cases hkey : s.key = k
    · subst hkey
      rw [apply_cons_self] at hr
      refine ih (fun r' hr' => ?_) hr
      obtain rfl := Option.some.inj hr'
      exact h s List.mem_cons_self rfl row hrow
    · rw [apply_cons_of_ne hkey] at hr
      exact ih hrow hr

omit [DecidableEq κ] in
/-- **The rule of the rows** for patches. -/
theorem Patch.forall_apply {P : ρ → Prop} {patches : List (Patch κ ρ ε)} {k : κ}
    (h : ∀ s ∈ patches, ∀ row, P row → P (s.set k row)) {row : ρ} (hrow : P row) :
    P (apply k patches row) := by
  induction patches generalizing row with
  | nil => exact hrow
  | cons s patches ih =>
    rw [apply_cons]
    exact ih (fun s' hs' => h s' (List.mem_cons_of_mem _ hs')) (h s List.mem_cons_self row hrow)

omit [DecidableEq κ] in
/-- Patches of a row that all do the same. -/
theorem Patch.ByKey.apply_of_same {patches : List (Patch κ ρ ε)} {k : κ} {g : ρ → ρ}
    (h : ByKey patches) (hsame : ∀ s ∈ patches, s.key = k → ∀ row, s.set k row = g row)
    (hg : ∀ row, g (g row) = g row) (hmem : ∃ s ∈ patches, s.key = k) (row : ρ) :
    apply k patches row = g row := by
  induction patches with
  | nil => exact absurd hmem (by simp)
  | cons s patches ih =>
    have hrest : ByKey patches := fun s' hs' => h s' (List.mem_cons_of_mem _ hs')
    have hsame' : ∀ s' ∈ patches, s'.key = k → ∀ row, s'.set k row = g row :=
      fun s' hs' => hsame s' (List.mem_cons_of_mem _ hs')
    rw [apply_cons]
    by_cases hkey : s.key = k
    · rw [hsame s List.mem_cons_self hkey]
      refine Patch.apply_eq_self fun s' hs' => ?_
      by_cases hkey' : s'.key = k
      · rw [hsame' s' hs' hkey', hg]
      · exact (hrest s' hs').2 k (Ne.symm hkey') _
    · rw [(h s List.mem_cons_self).2 k (Ne.symm hkey)]
      obtain ⟨s', hs', hkey'⟩ := hmem
      rcases List.mem_cons.mp hs' with rfl | hs'
      · exact absurd hkey' hkey
      · exact ih hrest hsame' ⟨s', hs', hkey'⟩

/-- **A batch after a batch succeeds** if the rows it patches were put by one of the two, and
are such that the patches find them. -/
theorem Batch.exists_run_of_finds {P : κ → ρ → Prop} {b b' : Batch κ ρ ε}
    (hsteady : Patch.Steady b.patches) (hsteady' : Patch.Steady b'.patches)
    (h : b.run .empty = .ok t)
    (hput : ∀ s ∈ b'.patches, (∃ p ∈ b.puts, p.key = s.key) ∨ ∃ p ∈ b'.puts, p.key = s.key)
    (hrows : ∀ k row, Put.apply k b'.puts (t k) = some row → P k row)
    (hfinds : ∀ s ∈ b'.patches, ∀ row, P s.key row → s.finds row = true) :
    ∃ t', b'.run t = .ok t' := by
  refine ⟨⟨fun k => (Put.apply k b'.puts (t k)).map (Patch.apply k b'.patches)⟩,
    (Batch.run_eq_ok hsteady').mpr ⟨fun s hs => ?_, fun _ => rfl⟩⟩
  have hsome : (Put.apply s.key b'.puts (t s.key)).isSome = true := by
    rcases hput s hs with ⟨p, hp, hkey⟩ | ⟨p, hp, hkey⟩
    · refine Put.isSome_apply _ ?_
      rw [((Batch.run_eq_ok hsteady).mp h).2, Option.isSome_map, ← hkey]
      exact Put.isSome_apply_of_mem hp _
    · rw [← hkey]
      exact Put.isSome_apply_of_mem hp _
  obtain ⟨row, hrow⟩ := Option.isSome_iff_exists.mp hsome
  rw [hrow]
  exact hfinds s hs row (hrows s.key row hrow)

/-- **A batch after a batch succeeds** if the rows it patches by their keys were put by one of
the two. -/
theorem Batch.exists_run {b b' : Batch κ ρ ε} (hsteady : Patch.Steady b.patches)
    (hkey : Patch.ByKey b'.patches) (h : b.run .empty = .ok t)
    (hput : ∀ s ∈ b'.patches, (∃ p ∈ b.puts, p.key = s.key) ∨ ∃ p ∈ b'.puts, p.key = s.key) :
    ∃ t', b'.run t = .ok t' :=
  Batch.exists_run_of_finds (P := fun _ _ => True) hsteady hkey.steady h hput
    (fun _ _ _ => trivial) fun s hs row _ => (hkey s hs).1 row

end Sql
