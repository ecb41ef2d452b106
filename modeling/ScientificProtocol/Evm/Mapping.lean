import Mathlib.Algebra.BigOperators.Finprod
import Mathlib.Data.Set.Finite.Basic

/-!
# Solidity mappings

A Solidity `mapping(K => V)` answers at *every* key, with the zero value where
nothing was written, and finitely many keys have been written in any state of a
chain. `Evm.Mapping` is exactly that: a total function carrying the proof that
it leaves the default value at finitely many keys only. The proof is a field, so
no operation can build a mapping whose totals are meaningless.

What the finiteness buys is `Evm.Mapping.total`: the sum over all keys of a
weight of the stored value. Everything a contract owes is such a total – of the
balances of a ledger, of the stakes of the records not yet settled – and one
identity, `Evm.Mapping.total_set`, says what writing one key does to it. It is
stated without subtraction, the shape `omega` can use.
-/

namespace Evm

/-! ### Mappings and their updates -/

/-- A Solidity mapping: a total function that differs from the default value at
finitely many keys. -/
structure Mapping (K V : Type) [Inhabited V] where
  /-- The value stored at a key. -/
  get : K → V
  /-- Only finitely many keys have ever been written. -/
  finite_support : {k | get k ≠ default}.Finite

namespace Mapping

variable {K V : Type} [Inhabited V]

instance : CoeFun (Mapping K V) fun _ => K → V := ⟨get⟩

@[ext] theorem ext {m m' : Mapping K V} (h : ∀ k, m k = m' k) : m = m' := by
  obtain ⟨f, hf⟩ := m
  obtain ⟨g, hg⟩ := m'
  obtain rfl : f = g := funext h
  rfl

/-- The mapping nothing was written to. -/
def empty : Mapping K V := ⟨fun _ => default, by simp⟩

instance : Inhabited (Mapping K V) := ⟨empty⟩

@[simp] theorem empty_apply (k : K) : (empty : Mapping K V) k = default := rfl

@[simp] theorem default_apply (k : K) : (default : Mapping K V) k = default := rfl

variable [DecidableEq K]

/-- Writing one key. -/
def set (m : Mapping K V) (k : K) (v : V) : Mapping K V where
  get k' := if k' = k then v else m k'
  finite_support := by
    refine (m.finite_support.insert k).subset fun k' hk' => ?_
    by_cases h : k' = k
    · exact Or.inl h
    · exact Or.inr (by simpa [h] using hk')

theorem set_apply (m : Mapping K V) (k k' : K) (v : V) :
    m.set k v k' = if k' = k then v else m k' := rfl

@[simp] theorem set_self (m : Mapping K V) (k : K) (v : V) : m.set k v k = v := by
  simp [set_apply]

@[simp] theorem set_of_ne (m : Mapping K V) {k k' : K} (h : k' ≠ k) (v : V) :
    m.set k v k' = m k' := by
  simp [set_apply, h]

/-- Writing back what is stored changes nothing. -/
@[simp] theorem set_get_self (m : Mapping K V) (k : K) : m.set k (m k) = m := by
  ext k'
  by_cases h : k' = k
  · subst h
    simp
  · simp [h]

/-! ### Totals -/

variable (w : V → ℕ)

/-- The total weight of the stored values, over all keys. -/
noncomputable def total (m : Mapping K V) : ℕ := ∑ᶠ k, w (m k)

variable {w}

omit [DecidableEq K] in
theorem finite_weight (hw : w default = 0) (m : Mapping K V) :
    (Function.support fun k => w (m k)).Finite :=
  m.finite_support.subset fun k hk hd => hk (by simp only [hd, hw])

omit [DecidableEq K] in
@[simp] theorem total_default (hw : w default = 0) : (default : Mapping K V).total w = 0 := by
  simp [total, hw]

omit [DecidableEq K] in
/-- Splitting off one key. -/
theorem total_eq_add (hw : w default = 0) (m : Mapping K V) (k : K) :
    m.total w = w (m k) + ∑ᶠ k' ∈ ({k}ᶜ : Set K), w (m k') := by
  have hsplit := finsum_mem_add_sdiff' (f := fun k' => w (m k')) (Set.subset_univ {k})
    (by simpa using m.finite_weight hw)
  rw [finsum_mem_singleton, finsum_mem_univ] at hsplit
  rw [total, ← hsplit, Set.compl_eq_univ_sdiff]

/-- **What writing one key does to a total**: the old weight leaves and the new
one enters. -/
theorem total_set (hw : w default = 0) (m : Mapping K V) (k : K) (v : V) :
    (m.set k v).total w + w (m k) = m.total w + w v := by
  have hrest : ∑ᶠ k' ∈ ({k}ᶜ : Set K), w (m.set k v k') = ∑ᶠ k' ∈ ({k}ᶜ : Set K), w (m k') :=
    finsum_mem_congr rfl fun k' hk' => by rw [m.set_of_ne hk']
  rw [total_eq_add hw (m.set k v) k, total_eq_add hw m k, hrest, set_self]
  omega

/-- Writing a blank key adds the weight of the value. -/
theorem total_set_blank (hw : w default = 0) {m : Mapping K V} {k : K} (hk : m k = default)
    (v : V) : (m.set k v).total w = m.total w + w v := by
  have htotal := m.total_set hw k v
  rw [hk, hw] at htotal
  omega

/-- Overwriting with a weightless value takes the old weight out. -/
theorem total_set_weightless (hw : w default = 0) (m : Mapping K V) (k : K) {v : V}
    (hv : w v = 0) : (m.set k v).total w + w (m k) = m.total w := by
  have htotal := m.total_set hw k v
  omega

/-- Overwriting with a value of the same weight changes nothing. -/
theorem total_set_same (hw : w default = 0) (m : Mapping K V) {k : K} {v : V}
    (hv : w v = w (m k)) : (m.set k v).total w = m.total w := by
  have htotal := m.total_set hw k v
  omega

/-- Raising an entry of a ledger raises its total. -/
theorem total_set_add (m : Mapping K ℕ) (k : K) (amount : ℕ) :
    (m.set k (m k + amount)).total id = m.total id + amount := by
  have htotal := m.total_set (w := id) rfl k (m k + amount)
  simp only [id] at htotal
  omega

/-- Lowering an entry of a ledger lowers its total. -/
theorem total_set_sub (m : Mapping K ℕ) {k : K} {amount : ℕ} (h : amount ≤ m k) :
    (m.set k (m k - amount)).total id + amount = m.total id := by
  have htotal := m.total_set (w := id) rfl k (m k - amount)
  simp only [id] at htotal
  omega

omit [DecidableEq K] in
/-- One entry weighs at most the total. -/
theorem le_total (hw : w default = 0) (m : Mapping K V) (k : K) : w (m k) ≤ m.total w := by
  rw [total_eq_add hw m k]
  exact Nat.le_add_right _ _

end Mapping

end Evm
