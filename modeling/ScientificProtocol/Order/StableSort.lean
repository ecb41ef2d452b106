import Mathlib.Data.List.Chain
import Mathlib.Data.List.Nodup
import Mathlib.Data.List.Perm.Basic
import Mathlib.Data.List.Sort

/-!
# What a stable sort makes of a list

A stable sort by a total preorder puts what it cannot tell apart in the order in which it comes. If
no entry comes twice this determines the list (`StableSort.mergeSort_eq_iff`): it is the one
arrangement of the entries in which each pair is in order, and a pair that would also be in order
the other way round is as it was before. So two lists are sorted to the same list exactly if they
have the same entries and nothing that cannot be told apart has changed places
(`StableSort.mergeSort_eq_mergeSort_iff`).

Entries that are told apart by a key can be arranged by their keys alone
(`StableSort.eq_of_map_fst_eq`).
-/

namespace StableSort

section

variable {α : Type}

/-- Of two entries, one comes first. -/
theorem pair_sublist_or {a b : α} {l : List α} (ha : a ∈ l) (hb : b ∈ l) (hne : a ≠ b) :
    [a, b].Sublist l ∨ [b, a].Sublist l := by
  induction l with
  | nil => exact absurd ha List.not_mem_nil
  | cons x l ih =>
    rcases List.mem_cons.mp ha with rfl | ha'
    · rcases List.mem_cons.mp hb with rfl | hb'
      · exact absurd rfl hne
      · exact .inl ((List.singleton_sublist.mpr hb').cons_cons _)
    · rcases List.mem_cons.mp hb with rfl | hb'
      · exact .inr ((List.singleton_sublist.mpr ha').cons_cons _)
      · exact (ih ha' hb').imp (·.cons x) (·.cons x)

/-- It does not come second, too. -/
theorem not_pair_sublist {a b : α} {l : List α} (hnodup : l.Nodup) (h : [a, b].Sublist l) :
    ¬[b, a].Sublist l := by
  induction l with
  | nil => exact absurd (List.sublist_nil.mp h) (List.cons_ne_nil _ _)
  | cons x l ih =>
    obtain ⟨hx, hnodup⟩ := List.nodup_cons.mp hnodup
    intro h'
    rcases List.sublist_cons_iff.mp h with hrest | ⟨r, heq, hr⟩
    · rcases List.sublist_cons_iff.mp h' with hrest' | ⟨r', heq', hr'⟩
      · exact ih hnodup hrest hrest'
      · obtain ⟨rfl, -⟩ := List.cons.inj heq'
        exact hx (hrest.subset (List.mem_cons_of_mem _ (List.mem_singleton_self _)))
    · obtain ⟨rfl, rfl⟩ := List.cons.inj heq
      rcases List.sublist_cons_iff.mp h' with hrest' | ⟨r', heq', hr'⟩
      · exact hx (hrest'.subset (List.mem_cons_of_mem _ (List.mem_singleton_self _)))
      · obtain ⟨rfl, -⟩ := List.cons.inj heq'
        exact hx (hr.subset (List.mem_singleton_self _))

variable {le : α → α → Bool}

/-- Two entries are in order, and as they were before if they are so the other way round. -/
def InOrder (le : α → α → Bool) (l : List α) (a b : α) : Prop :=
  le a b = true ∧ (le b a = true → [a, b].Sublist l)

/-- **What a stable sort makes of a list.** -/
theorem mergeSort_eq_iff (htrans : ∀ a b c, le a b = true → le b c = true → le a c = true)
    (htotal : ∀ a b, (le a b || le b a) = true) {l l' : List α} (hnodup : l.Nodup) :
    l.mergeSort le = l' ↔ l'.Perm l ∧ l'.Pairwise (InOrder le l) := by
  have hperm : (l.mergeSort le).Perm l := List.mergeSort_perm l le
  have hsorted : (l.mergeSort le).Pairwise (InOrder le l) := by
    refine List.pairwise_iff_forall_sublist.mpr fun {a b} hab => ?_
    have hle := List.pairwise_iff_forall_sublist.mp (List.pairwise_mergeSort htrans htotal l) hab
    refine ⟨hle, fun hge => ?_⟩
    have ha : a ∈ l := hperm.subset (hab.subset List.mem_cons_self)
    have hb : b ∈ l := hperm.subset (hab.subset (List.mem_cons_of_mem _ (List.mem_singleton_self _)))
    have hne : a ≠ b := by
      rintro rfl
      exact List.nodup_iff_sublist.mp (hperm.nodup_iff.mpr hnodup) a hab
    rcases pair_sublist_or ha hb hne with hbefore | hafter
    · exact hbefore
    · -- The sort would have kept them the other way round.
      exact absurd hab (not_pair_sublist (hperm.nodup_iff.mpr hnodup)
        (List.pair_sublist_mergeSort htrans htotal hge hafter))
  constructor
  · rintro rfl
    exact ⟨hperm, hsorted⟩
  · rintro ⟨hperm', hsorted'⟩
    refine (hperm.trans hperm'.symm).eq_of_pairwise (fun a b _ _ hab hba => ?_) hsorted hsorted'
    by_contra hne
    exact not_pair_sublist hnodup (hab.2 hba.1) (hba.2 hab.1)

/-- Entries that the order does not tell apart come in the same order in both lists. -/
def TiesAlike (le : α → α → Bool) (l l' : List α) : Prop :=
  ∀ a b, le a b = true → le b a = true → [a, b].Sublist l → [a, b].Sublist l'

/-- **Two lists are sorted to the same list** exactly if they have the same entries, and those that
the order does not tell apart come in the same order. -/
theorem mergeSort_eq_mergeSort_iff
    (htrans : ∀ a b c, le a b = true → le b c = true → le a c = true)
    (htotal : ∀ a b, (le a b || le b a) = true) {l l' : List α} (hnodup : l.Nodup)
    (hnodup' : l'.Nodup) :
    l.mergeSort le = l'.mergeSort le ↔ l.Perm l' ∧ TiesAlike le l l' := by
  have hperm' : (l'.mergeSort le).Perm l' := List.mergeSort_perm l' le
  have hsorted' := ((mergeSort_eq_iff htrans htotal hnodup').mp rfl).2
  rw [mergeSort_eq_iff htrans htotal hnodup]
  constructor
  · rintro ⟨hperm, hsorted⟩
    refine ⟨hperm.symm.trans hperm', fun a b hab hba hsub => ?_⟩
    have hne : a ≠ b := by
      rintro rfl
      exact List.nodup_iff_sublist.mp hnodup a hsub
    have ha := hperm.mem_iff.mpr (hsub.subset List.mem_cons_self)
    have hb := hperm.mem_iff.mpr (hsub.subset (List.mem_cons_of_mem _ List.mem_cons_self))
    rcases pair_sublist_or ha hb hne with hbefore | hafter
    · exact (List.pairwise_iff_forall_sublist.mp hsorted' hbefore).2 hba
    · have hback := (List.pairwise_iff_forall_sublist.mp hsorted hafter).2 hab
      exact absurd hback (not_pair_sublist hnodup hsub)
  · rintro ⟨hperm, hties⟩
    refine ⟨hperm'.trans hperm.symm, List.pairwise_iff_forall_sublist.mpr fun {a b} hsub => ?_⟩
    obtain ⟨hab, hbefore'⟩ := List.pairwise_iff_forall_sublist.mp hsorted' hsub
    refine ⟨hab, fun hba => ?_⟩
    have hbefore := hbefore' hba
    have hne : a ≠ b := by
      rintro rfl
      exact List.nodup_iff_sublist.mp hnodup' a hbefore
    have ha := hperm.mem_iff.mpr (hbefore.subset List.mem_cons_self)
    have hb := hperm.mem_iff.mpr (hbefore.subset (List.mem_cons_of_mem _ List.mem_cons_self))
    rcases pair_sublist_or ha hb hne with hsub' | hafter
    · exact hsub'
    · exact absurd (hties b a hba hab hafter) (not_pair_sublist hnodup' hbefore)

/-- **Every order of a list is sorted to the same list** exactly if no two entries are tied. -/
theorem forall_perm_mergeSort_eq_iff
    (htrans : ∀ a b c, le a b = true → le b c = true → le a c = true)
    (htotal : ∀ a b, (le a b || le b a) = true) {l : List α} (hnodup : l.Nodup) :
    (∀ l' : List α, l'.Perm l → l'.mergeSort le = l.mergeSort le) ↔
      ∀ a ∈ l, ∀ b ∈ l, le a b = true → le b a = true → a = b := by
  constructor
  · intro hall a ha b hb hab hba
    by_contra hne
    have hnodup' : l.reverse.Nodup := List.nodup_reverse.mpr hnodup
    -- Backwards the two come the other way round.
    have hties := ((mergeSort_eq_mergeSort_iff htrans htotal hnodup' hnodup).mp
      (hall l.reverse (List.reverse_perm l))).2
    rcases pair_sublist_or ha hb hne with hsub | hsub
    · exact not_pair_sublist hnodup hsub (hties b a hba hab hsub.reverse)
    · exact not_pair_sublist hnodup hsub (hties a b hab hba hsub.reverse)
  · intro happart l' hperm
    refine (mergeSort_eq_mergeSort_iff htrans htotal (hperm.nodup_iff.mpr hnodup) hnodup).mpr
      ⟨hperm, fun a b hab hba hsub => ?_⟩
    obtain rfl := happart a (hperm.mem_iff.mp (hsub.subset List.mem_cons_self)) b
      (hperm.mem_iff.mp (hsub.subset (List.mem_cons_of_mem _ List.mem_cons_self))) hab hba
    exact absurd hsub (List.nodup_iff_sublist.mp (hperm.nodup_iff.mpr hnodup) a)

end

variable {κ ν : Type}

/-- **Entries with different keys** are in the same order if their keys are. -/
theorem eq_of_map_fst_eq {l l' : List (κ × ν)} (hperm : l.Perm l')
    (hnodup : (l'.map Prod.fst).Nodup) (hkeys : l.map Prod.fst = l'.map Prod.fst) : l = l' := by
  have hlength : l.length = l'.length := hperm.length_eq
  refine List.ext_getElem hlength fun i hi hi' => ?_
  refine List.inj_on_of_nodup_map hnodup (hperm.subset (List.getElem_mem hi))
    (List.getElem_mem hi') ?_
  have hkey := congrArg (fun keys => keys[i]?) hkeys
  simpa [List.getElem?_map, hi, hi'] using hkey

/-- Two lists look the same if each entry of the one is what the entry of the other should be. -/
theorem map_eq_map_iff {α β γ : Type} {f : α → γ} {g : β → γ} {h : α → β} {p : α → Prop}
    (hfg : ∀ a b, f a = g b ↔ b = h a ∧ p a) {l : List α} {l' : List β} :
    l.map f = l'.map g ↔ l' = l.map h ∧ ∀ a ∈ l, p a := by
  induction l generalizing l' with
  | nil =>
    rw [List.map_nil, eq_comm, List.map_eq_nil_iff]
    exact ⟨fun heq => ⟨heq, fun _ ha => absurd ha List.not_mem_nil⟩, fun h => h.1⟩
  | cons a l ih =>
    cases l' with
    | nil => simp
    | cons b l' =>
      rw [List.map_cons, List.map_cons, List.map_cons, List.cons.injEq, List.cons.injEq, hfg, ih,
        List.forall_mem_cons]
      exact ⟨fun ⟨⟨hb, ha⟩, hl, hall⟩ => ⟨⟨hb, hl⟩, ha, hall⟩,
        fun ⟨⟨hb, hl⟩, ha, hall⟩ => ⟨⟨hb, ha⟩, hl, hall⟩⟩

end StableSort
