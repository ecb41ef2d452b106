import ScientificProtocol.Order.StableSort

/-!
# Rankings

A list is sorted by a comparison that may only be relied on for some entries: it is total,
transitive and antisymmetric for these. If all entries are among them, the sort puts them in order
(`Ranking.pairwise_mergeSort`), whatever order they were in (`Ranking.mergeSort_eq_of_perm`), and of
two entries the one that is less comes first (`Ranking.pair_sublist_iff`).
-/

namespace Ranking

variable {α : Type} {le : α → α → Bool} {p : α → Prop}

/-- A comparison that is good for some entries. -/
structure Orders (le : α → α → Bool) (p : α → Prop) : Prop where
  total : ∀ {a b}, p a → p b → le a b = true ∨ le b a = true
  trans : ∀ {a b c}, p a → p b → p c → le a b = true → le b c = true → le a c = true
  antisymm : ∀ {a b}, p a → p b → le a b = true → le b a = true → a = b

/-- **Sorting puts the entries in order.** -/
theorem pairwise_mergeSort (h : Orders le p) {l : List α} (hl : ∀ a ∈ l, p a) :
    (l.mergeSort le).Pairwise fun a b => le a b = true := by
  have hval : ((l.attachWith p hl).mergeSort fun a b => le a.val b.val).map Subtype.val =
      l.mergeSort le := by
    rw [List.map_mergeSort (s := le) (fun _ _ _ _ => rfl), List.attachWith_map_subtype_val]
  rw [← hval, List.pairwise_map]
  refine List.pairwise_mergeSort (fun a b c : Subtype p => ?_) (fun a b : Subtype p => ?_) _
  · exact h.trans a.property b.property c.property
  rcases h.total a.property b.property with hab | hba
  · rw [hab, Bool.true_or]
  · rw [hba, Bool.or_true]

/-- **The order before does not matter.** -/
theorem mergeSort_eq_of_perm (h : Orders le p) {l l' : List α} (hl : ∀ a ∈ l, p a)
    (hperm : l.Perm l') : l.mergeSort le = l'.mergeSort le := by
  have hl' : ∀ a ∈ l', p a := fun a ha => hl a (hperm.mem_iff.mpr ha)
  refine List.Perm.eq_of_pairwise (fun a b ha hb => ?_) (pairwise_mergeSort h hl)
    (pairwise_mergeSort h hl')
    (((List.mergeSort_perm l le).trans hperm).trans (List.mergeSort_perm l' le).symm)
  exact h.antisymm (hl a ((List.mergeSort_perm l le).mem_iff.mp ha))
    (hl' b ((List.mergeSort_perm l' le).mem_iff.mp hb))

/-- **Of two entries, the one that is less comes first.** -/
theorem pair_sublist_iff {R : α → α → Prop} {l : List α} (hsorted : l.Pairwise R)
    (hnodup : l.Nodup) (hanti : ∀ a ∈ l, ∀ b ∈ l, R a b → R b a → a = b) {a b : α} (ha : a ∈ l)
    (hb : b ∈ l) : [a, b].Sublist l ↔ a ≠ b ∧ R a b := by
  constructor
  · intro hsub
    refine ⟨?_, List.pairwise_iff_forall_sublist.mp hsorted hsub⟩
    rintro rfl
    exact List.nodup_iff_sublist.mp hnodup a hsub
  · rintro ⟨hne, hab⟩
    rcases StableSort.pair_sublist_or ha hb hne with hbefore | hafter
    · exact hbefore
    · exact absurd
        (hanti a ha b hb hab (List.pairwise_iff_forall_sublist.mp hsorted hafter)) hne

end Ranking
