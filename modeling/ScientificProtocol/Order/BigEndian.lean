import Mathlib.Algebra.Order.Ring.Nat
import Mathlib.Algebra.Ring.Nat
import Mathlib.Data.List.Induction
import Mathlib.Tactic.Common
import Mathlib.Tactic.Ring

/-!
# Numbers in big-endian digits

A number below a power of the base is a list of digits, the highest first. Digits of a base can be
split into digits of a smaller one (`BigEndian.flatMap_digits`), and the bits at the start of a list
of bytes are the number divided by a power of two, wherever in a byte they end
(`BigEndian.samePrefix_iff`).
-/

namespace BigEndian

/-- The last `k` digits of a number. -/
def digits (base : ℕ) : ℕ → ℕ → List ℕ
  | 0, _ => []
  | k + 1, n => digits base k (n / base) ++ [n % base]

/-- The number that digits make. -/
def value (base : ℕ) (ds : List ℕ) : ℕ := ds.foldl (fun n d => n * base + d) 0

variable {base : ℕ}

@[simp]
theorem length_digits (k n : ℕ) : (digits base k n).length = k := by
  induction k generalizing n with
  | zero => rfl
  | succ k ih => rw [digits, List.length_append, ih, List.length_singleton]

theorem lt_of_mem_digits (hbase : 0 < base) {k n d : ℕ} (h : d ∈ digits base k n) : d < base := by
  induction k generalizing n with
  | zero => cases h
  | succ k ih =>
    rcases List.mem_append.mp h with h | h
    · exact ih h
    · exact List.mem_singleton.mp h ▸ Nat.mod_lt n hbase

theorem value_concat (ds : List ℕ) (d : ℕ) : value base (ds ++ [d]) = value base ds * base + d := by
  rw [value, List.foldl_append]
  rfl

theorem value_cons (d : ℕ) (ds : List ℕ) :
    value base (d :: ds) = d * base ^ ds.length + value base ds := by
  induction ds using List.reverseRecOn with
  | nil => simp [value]
  | append_singleton ds d' ih =>
    rw [← List.cons_append, value_concat, value_concat, ih, List.length_append,
      List.length_singleton]
    ring

/-- **The digits of a number make the number**, if there are enough of them. -/
theorem value_digits (k n : ℕ) : value base (digits base k n) = n % base ^ k := by
  induction k generalizing n with
  | zero => simp [digits, value, Nat.mod_one]
  | succ k ih => rw [digits, value_concat, ih, pow_succ', Nat.mod_mul, Nat.mul_comm, Nat.add_comm]

/-- The digits of a number are those of its quotient and of its remainder. -/
theorem digits_add (k j n : ℕ) :
    digits base (k + j) n = digits base k (n / base ^ j) ++ digits base j n := by
  induction j generalizing n with
  | zero => rw [pow_zero, Nat.div_one, digits, List.append_nil, Nat.add_zero]
  | succ j ih =>
    rw [← Nat.add_assoc, digits, digits, ih, List.append_assoc, Nat.div_div_eq_div_mul, pow_succ']

theorem digits_mod (k n : ℕ) : digits base k (n % base ^ k) = digits base k n := by
  induction k generalizing n with
  | zero => rfl
  | succ k ih => rw [digits, digits, pow_succ', Nat.mod_mul_right_div_self, ih, Nat.mod_mul_right_mod]

theorem value_lt {ds : List ℕ} (h : ∀ d ∈ ds, d < base) : value base ds < base ^ ds.length := by
  induction ds using List.reverseRecOn with
  | nil => simp [value]
  | append_singleton ds d ih =>
    have hd := h d (List.mem_append_right _ (List.mem_singleton_self d))
    have hds := ih fun d' hd' => h d' (List.mem_append_left _ hd')
    rw [value_concat, List.length_append, List.length_singleton, pow_succ]
    calc value base ds * base + d < value base ds * base + base := Nat.add_lt_add_left hd _
      _ = (value base ds + 1) * base := by ring
      _ ≤ base ^ ds.length * base := Nat.mul_le_mul_right _ hds

/-- **Each digit is two digits** of the root of the base. -/
theorem flatMap_digits (root k n : ℕ) :
    (digits (root * root) k n).flatMap (fun d => [d / root, d % root]) = digits root (2 * k) n := by
  induction k generalizing n with
  | zero => rfl
  | succ k ih =>
    rw [digits, List.flatMap_append, ih, Nat.mul_succ, digits, digits, List.append_assoc,
      Nat.div_div_eq_div_mul, List.flatMap_singleton, List.singleton_append,
      Nat.mod_mul_right_div_self, Nat.mod_mul_right_mod]

/-! ### Bits at the start -/

/-- The first bits of two lists of bytes are the same. -/
def SamePrefix : List ℕ → List ℕ → ℕ → Prop
  | b :: bs, p :: ps, bits =>
    if bits < 8 then b / 2 ^ (8 - bits) = p / 2 ^ (8 - bits) else b = p ∧ SamePrefix bs ps (bits - 8)
  | _, _, _ => True

/-- The quotient of a number by a power of two, with its highest digit apart. -/
theorem value_cons_div {b bits : ℕ} {bs : List ℕ} (hbits : 8 ≤ bits)
    (hle : bits ≤ 8 * (bs.length + 1)) :
    value 256 (b :: bs) / 2 ^ (8 * (bs.length + 1) - bits) =
      b * 2 ^ (bits - 8) + value 256 bs / 2 ^ (8 * bs.length - (bits - 8)) := by
  have hpow : (256 : ℕ) ^ bs.length = 2 ^ (bits - 8) * 2 ^ (8 * bs.length - (bits - 8)) := by
    rw [← pow_add, show (256 : ℕ) = 2 ^ 8 from rfl, ← pow_mul]
    exact congrArg _ (by omega)
  have hexp : 8 * (bs.length + 1) - bits = 8 * bs.length - (bits - 8) := by omega
  rw [value_cons, hexp, hpow, ← Nat.mul_assoc, Nat.add_comm, Nat.add_mul_div_right _ _
    (Nat.two_pow_pos _), Nat.add_comm]

theorem value_div_lt {bits : ℕ} {bs : List ℕ} (h : ∀ b ∈ bs, b < 256) (hle : bits ≤ 8 * bs.length) :
    value 256 bs / 2 ^ (8 * bs.length - bits) < 2 ^ bits := by
  rw [Nat.div_lt_iff_lt_mul (Nat.two_pow_pos _), ← pow_add]
  have hlt := value_lt h
  rw [show (256 : ℕ) = 2 ^ 8 from rfl, ← pow_mul] at hlt
  exact lt_of_lt_of_eq hlt (congrArg _ (by omega))

/-- **The first bits are the same** exactly if the numbers are, divided by the power of two that
leaves these bits. -/
theorem samePrefix_iff {bs ps : List ℕ} {bits : ℕ} (hbs : ∀ b ∈ bs, b < 256)
    (hps : ∀ p ∈ ps, p < 256) (hle : bits ≤ 8 * bs.length) (hle' : bits ≤ 8 * ps.length) :
    SamePrefix bs ps bits ↔
      value 256 bs / 2 ^ (8 * bs.length - bits) = value 256 ps / 2 ^ (8 * ps.length - bits) := by
  induction bs generalizing ps bits with
  | nil =>
    obtain rfl := Nat.le_zero.mp hle
    have hlt := value_div_lt hps (Nat.zero_le _)
    rw [pow_zero, Nat.lt_one_iff] at hlt
    exact iff_of_true True.intro (by rw [hlt]; rfl)
  | cons b bs ih =>
    obtain ⟨hb, hbs'⟩ := List.forall_mem_cons.mp hbs
    cases ps with
    | nil =>
      obtain rfl := Nat.le_zero.mp hle'
      have hlt := value_div_lt hbs (Nat.zero_le _)
      rw [pow_zero, Nat.lt_one_iff] at hlt
      exact iff_of_true True.intro (by rw [hlt]; rfl)
    | cons p ps =>
      obtain ⟨hp, hps'⟩ := List.forall_mem_cons.mp hps
      rw [List.length_cons] at hle hle'
      rw [SamePrefix, List.length_cons, List.length_cons]
      split
      next hlt =>
        -- Only the highest byte counts.
        have hhigh : ∀ {c : ℕ} {cs : List ℕ}, (∀ c' ∈ cs, c' < 256) →
            value 256 (c :: cs) / 2 ^ (8 * (cs.length + 1) - bits) = c / 2 ^ (8 - bits) := by
          intro c cs hcs
          have hexp : 8 * (cs.length + 1) - bits = 8 * cs.length + (8 - bits) := by omega
          have hpow : (256 : ℕ) ^ cs.length = 2 ^ (8 * cs.length) := by
            rw [show (256 : ℕ) = 2 ^ 8 from rfl, ← pow_mul]
          have hsmall := value_lt hcs
          rw [hpow] at hsmall
          rw [value_cons, hexp, hpow, pow_add, ← Nat.div_div_eq_div_mul, Nat.add_comm,
            Nat.add_mul_div_right _ _ (Nat.two_pow_pos _), Nat.div_eq_of_lt hsmall, Nat.zero_add]
        rw [hhigh hbs', hhigh hps']
      next hge =>
        have hbits : 8 ≤ bits := by omega
        rw [value_cons_div hbits hle, value_cons_div hbits hle',
          ih hbs' hps' (by omega) (by omega)]
        have hlow := value_div_lt hbs' (show bits - 8 ≤ 8 * bs.length by omega)
        have hlow' := value_div_lt hps' (show bits - 8 ≤ 8 * ps.length by omega)
        refine ⟨fun ⟨hsame, hrest⟩ => by rw [hsame, hrest], fun h => ?_⟩
        have hdiv := congrArg (· / 2 ^ (bits - 8)) h
        have hmod := congrArg (· % 2 ^ (bits - 8)) h
        simp only [Nat.mul_comm _ (2 ^ (bits - 8)),
          Nat.mul_add_div (Nat.two_pow_pos _), Nat.mul_add_mod, Nat.div_eq_of_lt hlow,
          Nat.div_eq_of_lt hlow', Nat.mod_eq_of_lt hlow, Nat.mod_eq_of_lt hlow', Nat.add_zero]
          at hdiv hmod
        exact ⟨hdiv, hmod⟩

end BigEndian
