import ScientificProtocol.Evm.Mapping

/-!
# Tables of numbered records

A contract that hands out consecutive identifiers keeps the records in a mapping
and the next identifier in a counter that starts at one. A record carries its
own identifier, and reads test it against zero to tell a record from a slot
nobody wrote. `Evm.Numbered` is what that discipline guarantees: the slots below
the counter are the records, and all others are blank. The two ways such a table
changes – appending a record, and overwriting one without renumbering it – keep
it. Lists of the numbers handed out so far are increasing if every number is put
at the end (`Evm.Ascending`).
-/

namespace Evm

variable {V : Type} [Inhabited V]

/-- The records of `m` are numbered from one up to `next`, by the field `idOf`. -/
structure Numbered (idOf : V → ℕ) (next : ℕ) (m : Mapping ℕ V) : Prop where
  next_pos : 0 < next
  id_eq : ∀ k, 0 < k → k < next → idOf (m k) = k
  blank : ∀ k, k = 0 ∨ next ≤ k → m k = default

namespace Numbered

variable {idOf : V → ℕ} {next k : ℕ} {m : Mapping ℕ V} {v : V}

/-- The table nothing was written to. -/
theorem empty : Numbered idOf 1 default where
  next_pos := Nat.one_pos
  id_eq k hpos hlt := by omega
  blank _ _ := rfl

/-- The slot of the next record is blank. -/
theorem blank_next (h : Numbered idOf next m) : m next = default := h.blank next (.inr le_rfl)

/-- **A slot holds a record exactly below the counter.** -/
theorem ne_zero_iff (hid : idOf default = 0) (h : Numbered idOf next m) :
    idOf (m k) ≠ 0 ↔ 0 < k ∧ k < next := by
  constructor
  · intro hk
    by_contra hout
    exact hk (by rw [h.blank k (by omega), hid])
  · rintro ⟨hpos, hlt⟩
    rw [h.id_eq k hpos hlt]
    omega

theorem lt_next (hid : idOf default = 0) (h : Numbered idOf next m) (hk : idOf (m k) ≠ 0) :
    k < next := ((h.ne_zero_iff hid).mp hk).2

/-- A record carries its own number. -/
theorem idOf_eq (hid : idOf default = 0) (h : Numbered idOf next m) (hk : idOf (m k) ≠ 0) :
    idOf (m k) = k :=
  let hb := (h.ne_zero_iff hid).mp hk
  h.id_eq k hb.1 hb.2

/-- Appending a record. -/
theorem push (h : Numbered idOf next m) (hv : idOf v = next) :
    Numbered idOf (next + 1) (m.set next v) where
  next_pos := Nat.succ_pos next
  id_eq k hpos hlt := by
    by_cases hk : k = next
    · rw [hk, Mapping.set_self, hv]
    · rw [Mapping.set_of_ne _ hk]
      exact h.id_eq k hpos (by omega)
  blank k hout := by
    have hpos := h.next_pos
    rw [Mapping.set_of_ne _ (by omega)]
    exact h.blank k (by omega)

/-- Overwriting a record without renumbering it. -/
theorem update (hid : idOf default = 0) (h : Numbered idOf next m) (hk : idOf (m k) ≠ 0)
    (hv : idOf v = idOf (m k)) : Numbered idOf next (m.set k v) where
  next_pos := h.next_pos
  id_eq k' hpos hlt := by
    by_cases hk' : k' = k
    · rw [hk', Mapping.set_self, hv, h.idOf_eq hid hk]
    · rw [Mapping.set_of_ne _ hk']
      exact h.id_eq k' hpos hlt
  blank k' hout := by
    have hb := (h.ne_zero_iff hid).mp hk
    rw [Mapping.set_of_ne _ (by omega)]
    exact h.blank k' hout

end Numbered

/-- A list of record numbers that are increasing and all handed out already. -/
structure Ascending (next : ℕ) (ids : List ℕ) : Prop where
  pairwise : ids.Pairwise (· < ·)
  lt_next : ∀ id ∈ ids, id < next

namespace Ascending

variable {next : ℕ} {ids : List ℕ}

theorem nil : Ascending next [] := ⟨.nil, by simp⟩

theorem nodup (h : Ascending next ids) : ids.Nodup := h.pairwise.imp Nat.ne_of_lt

/-- Handing out another number keeps the list increasing. -/
theorem succ (h : Ascending next ids) : Ascending (next + 1) ids :=
  ⟨h.pairwise, fun id hid => Nat.lt_succ_of_lt (h.lt_next id hid)⟩

/-- The next number goes to the end of the list. -/
theorem push (h : Ascending next ids) : Ascending (next + 1) (ids ++ [next]) := by
  constructor
  · rw [List.pairwise_append]
    refine ⟨h.pairwise, List.pairwise_singleton _ _, fun id hid id' hid' => ?_⟩
    rw [List.mem_singleton.mp hid']
    exact h.lt_next id hid
  · intro id hid
    rcases List.mem_append.mp hid with hid | hid
    · exact Nat.lt_succ_of_lt (h.lt_next id hid)
    · rw [List.mem_singleton.mp hid]
      exact Nat.lt_succ_self next

end Ascending

end Evm
