import ScientificProtocol.Evm.Tx
import Mathlib.Algebra.Order.Group.Nat
import Mathlib.Tactic.NormNum

/-!
# What is encoded can be read back

`abi.encode` of values that each fill a word writes the bytes of the words one after the
other (`Evm.abiEncode`). Thirty-two digits to the base 256 make a word, so that the bytes of
as many words are the words (`Evm.abiEncode_injective`): what is said of a hash of an
encoding is said of the values, up to collisions.
-/

namespace Evm

/-- Numbers are the same as far as their digits are. -/
theorem mod_pow_eq_of_digits {base n m : ℕ} {k : ℕ}
    (h : ∀ i < k, n / base ^ i % base = m / base ^ i % base) : n % base ^ k = m % base ^ k := by
  induction k with
  | zero => rw [Nat.pow_zero, Nat.mod_one, Nat.mod_one]
  | succ k ih =>
    rw [Nat.mod_pow_succ, Nat.mod_pow_succ, ih fun i hi => h i (Nat.lt_succ_of_lt hi),
      h k (Nat.lt_succ_self k)]

theorem wordBytes_injective : Function.Injective wordBytes := by
  intro word word' h
  have hbyte : ∀ i < 32, word.toNat / 256 ^ i % 256 = word'.toNat / 256 ^ i % 256 := by
    intro i hi
    have hmap := List.map_inj_left.mp h (31 - i) (List.mem_range.mpr (by omega))
    have hnat := congrArg UInt8.toNat hmap
    have hsub : 31 - (31 - i) = i := by omega
    simpa only [hsub, UInt8.toNat_ofNat', Nat.reducePow, Nat.mod_mod] using hnat
  have hmod := mod_pow_eq_of_digits hbyte
  have hsize : 256 ^ 32 = 2 ^ 256 := by norm_num
  rw [hsize, Nat.mod_eq_of_lt word.isLt, Nat.mod_eq_of_lt word'.isLt] at hmod
  exact BitVec.eq_of_toNat_eq hmod

theorem length_wordBytes (word : Bytes32) : (wordBytes word).length = 32 := by
  rw [wordBytes, List.length_map, List.length_range]

theorem abiEncode_injective {words words' : List Bytes32} (h : abiEncode words = abiEncode words')
    (hlength : words.length = words'.length) : words = words' := by
  induction words generalizing words' with
  | nil => exact (List.length_eq_zero_iff.mp hlength.symm).symm
  | cons word words ih =>
    cases words' with
    | nil => exact absurd hlength (by simp)
    | cons word' words' =>
      rw [abiEncode, abiEncode, List.flatMap_cons, List.flatMap_cons] at h
      obtain ⟨hhead, htail⟩ :=
        List.append_inj h ((length_wordBytes word).trans (length_wordBytes word').symm)
      rw [wordBytes_injective hhead, ih htail (Nat.succ.inj hlength)]

end Evm
