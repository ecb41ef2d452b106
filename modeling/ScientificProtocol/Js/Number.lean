import ScientificProtocol.Js.Text
import Mathlib.Algebra.Order.Field.Rat
import Mathlib.Data.Int.Log
import Mathlib.Data.Rat.Floor

/-!
# Reading a number

`Number(text)`. The text is trimmed, an empty one is 0, and otherwise it is a numeral in
hexadecimals, octals or binaries, or decimals with a sign, a point and an exponent, or `Infinity`;
anything else is not a number. What is read is rounded to a double.

* `Js.number_toDigits`: a numeral in decimals is read as what it says;
* `Js.number_eq_nan`: a text with a character that is in no numeral is not a number.
-/

namespace Js

/-- A double. The two zeros are the same. -/
inductive Double where
  | nan
  | infinite (negative : Bool)
  | finite (q : ℚ)
  deriving DecidableEq

namespace Double

/-- `Number.isFinite` -/
def isFinite : Double → Bool
  | finite _ => true
  | nan | infinite _ => false

/-- `Math.floor` -/
def floor : Double → Double
  | finite q => finite ⌊q⌋
  | x => x

/-- `Math.min` -/
def min : Double → Double → Double
  | nan, _ | _, nan => nan
  | infinite true, _ | _, infinite true => infinite true
  | infinite false, x | x, infinite false => x
  | finite q, finite q' => finite (Min.min q q')

/-- `Math.max` -/
def max : Double → Double → Double
  | nan, _ | _, nan => nan
  | infinite false, _ | _, infinite false => infinite false
  | infinite true, x | x, infinite true => x
  | finite q, finite q' => finite (Max.max q q')

end Double

/-! ### Rounding -/

/-- The next integer, the even one of two. -/
def roundHalfEven (q : ℚ) : ℤ :=
  let below := ⌊q⌋
  if q - below < 1 / 2 then below
  else if 1 / 2 < q - below then below + 1
  else if below % 2 = 0 then below else below + 1

/-- The double next to a number. -/
def toDouble (q : ℚ) : Double :=
  let exponent := max (Int.log 2 |q| - 52) (-1074)
  let rounded : ℚ := roundHalfEven (q / 2 ^ exponent) * 2 ^ exponent
  if 2 ^ 1024 ≤ |rounded| then .infinite (rounded < 0) else .finite rounded

/-! ### Numerals -/

/-- The base that the second character of a numeral tells. -/
def radixOf (c : Char) : Option ℕ :=
  if c = 'x' ∨ c = 'X' then some 16
  else if c = 'o' ∨ c = 'O' then some 8
  else if c = 'b' ∨ c = 'B' then some 2
  else none

/-- The value of a digit, in any base up to 16. -/
def digitOf (c : Char) : Option ℕ :=
  if c.isDigit then some (c.toNat - 48)
  else if 'a' ≤ c ∧ c ≤ 'f' then some (c.toNat - 87)
  else if 'A' ≤ c ∧ c ≤ 'F' then some (c.toNat - 55)
  else none

/-- `parseInt(text, radix)`, of a text that has digits only. -/
def parseInt (radix : ℕ) (cs : List Char) : ℕ :=
  cs.foldl (fun n c => radix * n + (digitOf c).getD 0) 0

/-- Digits of a base, at least one. -/
def AreDigits (radix : ℕ) (cs : List Char) : Prop :=
  cs ≠ [] ∧ ∀ c ∈ cs, ∃ d ∈ digitOf c, d < radix

instance (radix : ℕ) (cs : List Char) : Decidable (AreDigits radix cs) :=
  decidable_of_iff ((!cs.isEmpty && cs.all fun c => (digitOf c).any (· < radix)) = true) <| by
    simp [AreDigits, Option.any_eq_true]

/-- A sign, and what comes after it. -/
def signed (cs : List Char) : ℤ × List Char :=
  match cs with
  | '-' :: cs => (-1, cs)
  | '+' :: cs => (1, cs)
  | cs => (1, cs)

/-- The exponent at the end of a numeral. -/
def exponentOf : List Char → Option ℤ
  | [] => some 0
  | c :: cs =>
    if (c = 'e' ∨ c = 'E') ∧ AreDigits 10 (signed cs).2 then
      some ((signed cs).1 * parseInt 10 (signed cs).2)
    else none

/-- The decimals after a point, and what comes after them. -/
def fractionOf (cs : List Char) : List Char × List Char :=
  match cs with
  | '.' :: cs => (cs.takeWhile Char.isDigit, cs.dropWhile Char.isDigit)
  | cs => ([], cs)

/-- A numeral in decimals without a sign. -/
def decimal (cs : List Char) : Option ℚ :=
  let whole := cs.takeWhile Char.isDigit
  let (fraction, rest) := fractionOf (cs.dropWhile Char.isDigit)
  if whole = [] ∧ fraction = [] then none
  else (exponentOf rest).map fun exponent : ℤ =>
    (parseInt 10 (whole ++ fraction) : ℚ) * 10 ^ (exponent - (fraction.length : ℤ))

/-- A numeral in decimals. -/
def signedDecimal (cs : List Char) : Double :=
  if (signed cs).2 = "Infinity".toList then .infinite ((signed cs).1 < 0)
  else (decimal (signed cs).2).elim .nan fun q => toDouble ((signed cs).1 * q)

/-- A text without blanks around it. -/
def numeral (cs : List Char) : Double :=
  match cs with
  | [] => .finite 0
  | '0' :: c :: digits =>
    match radixOf c with
    | some radix => if AreDigits radix digits then toDouble (parseInt radix digits) else .nan
    | none => signedDecimal ('0' :: c :: digits)
  | cs => signedDecimal cs

/-- `Number(text)` -/
def number (text : List Char) : Double := numeral (trim (String.ofList text)).toList

/-! ### Small numbers are read as they are -/

theorem roundHalfEven_intCast (n : ℤ) : roundHalfEven n = n := by
  rw [roundHalfEven]
  simp

/-- **A number of at most 53 bits is a double.** -/
theorem toDouble_natCast {n : ℕ} (h : n < 2 ^ 53) : toDouble n = .finite n := by
  have hexponent : ∃ k : ℕ, max (Int.log 2 |(n : ℚ)| - 52) (-1074) = -(k : ℤ) := by
    have hlog : Int.log 2 |(n : ℚ)| ≤ 52 := by
      rw [Nat.abs_cast, Int.log_natCast]
      have := Nat.log_lt_of_lt_pow' (by decide) h
      omega
    exact ⟨(-max (Int.log 2 |(n : ℚ)| - 52) (-1074)).toNat, by omega⟩
  obtain ⟨k, hk⟩ := hexponent
  rw [toDouble]
  simp only [hk, zpow_neg, zpow_natCast, div_inv_eq_mul]
  have hscaled : (n : ℚ) * 2 ^ k = ((n * 2 ^ k : ℤ) : ℚ) := by push_cast; rfl
  have hrounded : (((n * 2 ^ k : ℤ) : ℚ)) * (2 ^ k)⁻¹ = n := by
    rw [← hscaled, mul_assoc, mul_inv_cancel₀ (pow_ne_zero k two_ne_zero), mul_one]
  rw [hscaled, roundHalfEven_intCast, hrounded, if_neg]
  rw [Nat.abs_cast, not_le]
  calc (n : ℚ) < ((2 ^ 53 : ℕ) : ℚ) := Nat.cast_lt.mpr h
    _ ≤ 2 ^ 1024 := by
      rw [Nat.cast_pow, Nat.cast_ofNat]
      exact pow_le_pow_right₀ one_le_two (by decide)

/-! ### What is read -/

theorem trim_of_not_space {cs : List Char} (h : ∀ c ∈ cs, isSpace c = false) :
    (trim (String.ofList cs)).toList = cs := by
  have hdrop : ∀ {l : List Char}, (∀ c ∈ l, isSpace c = false) → l.dropWhile isSpace = l := by
    intro l hl
    cases l with
    | nil => rfl
    | cons c l => rw [List.dropWhile_cons_of_neg (by rw [hl c List.mem_cons_self]; decide)]
  rw [trim, String.toList_ofList, String.toList_ofList, hdrop h, List.rdropWhile,
    hdrop fun c hc => h c (List.mem_reverse.mp hc), List.reverse_reverse]

theorem parseInt_digits {cs : List Char} (h : ∀ c ∈ cs, c.isDigit = true) :
    parseInt 10 cs = Nat.ofDigitChars 10 cs 0 := by
  rw [parseInt, Nat.ofDigitChars_eq_foldl]
  refine List.foldl_ext _ _ _ fun n c hc => ?_
  rw [digitOf, if_pos (h c hc)]
  rfl

/-- A text with digits only, and at least one, is a numeral. -/
theorem decimal_digits {cs : List Char} (hne : cs ≠ []) (h : ∀ c ∈ cs, c.isDigit = true) :
    decimal cs = some (Nat.ofDigitChars 10 cs 0 : ℕ) := by
  have htake : cs.takeWhile Char.isDigit = cs := List.takeWhile_eq_self_iff.mpr h
  have hdrop : cs.dropWhile Char.isDigit = [] := List.dropWhile_eq_nil_iff.mpr h
  rw [decimal]
  simp only [htake, hdrop, fractionOf, exponentOf]
  rw [if_neg fun hnil => hne hnil.1, List.append_nil, parseInt_digits h]
  simp

theorem signed_of_isDigit {c : Char} {cs : List Char} (h : c.isDigit = true) :
    signed (c :: cs) = (1, c :: cs) := by
  have hminus : c ≠ '-' := by rintro rfl; exact absurd h (by decide)
  have hplus : c ≠ '+' := by rintro rfl; exact absurd h (by decide)
  unfold signed
  split
  next heq => exact absurd (List.cons.inj heq).1 hminus
  next heq => exact absurd (List.cons.inj heq).1 hplus
  next => rfl

theorem signedDecimal_digits {cs : List Char} (hne : cs ≠ []) (h : ∀ c ∈ cs, c.isDigit = true) :
    signedDecimal cs = toDouble (Nat.ofDigitChars 10 cs 0 : ℕ) := by
  obtain ⟨c, cs, rfl⟩ := List.exists_cons_of_ne_nil hne
  have hc := h c List.mem_cons_self
  rw [signedDecimal, signed_of_isDigit hc, if_neg, decimal_digits hne h]
  · simp
  · intro heq
    have hhead : c = 'I' := (List.cons.inj heq).1
    exact absurd (hhead ▸ hc) (by decide)

theorem radixOf_of_isDigit {c : Char} (h : c.isDigit = true) : radixOf c = none := by
  have hne : ∀ c' : Char, c'.isDigit = false → c ≠ c' := by
    rintro c' hc' rfl
    exact absurd (h.symm.trans hc') (by decide)
  rw [radixOf, if_neg (not_or.mpr ⟨hne 'x' (by decide), hne 'X' (by decide)⟩),
    if_neg (not_or.mpr ⟨hne 'o' (by decide), hne 'O' (by decide)⟩),
    if_neg (not_or.mpr ⟨hne 'b' (by decide), hne 'B' (by decide)⟩)]

/-- **A numeral in decimals** is read as it is. -/
theorem number_digits {cs : List Char} (hne : cs ≠ []) (h : ∀ c ∈ cs, c.isDigit = true) :
    number cs = toDouble (Nat.ofDigitChars 10 cs 0 : ℕ) := by
  rw [number, trim_of_not_space fun c hc => isSpace_of_isDigit (h c hc)]
  unfold numeral
  split
  next => exact absurd rfl hne
  next c digits =>
    have hc := h c (List.mem_cons_of_mem _ List.mem_cons_self)
    rw [radixOf_of_isDigit hc]
    exact signedDecimal_digits hne h
  next => exact signedDecimal_digits hne h

theorem number_toDigits {n : ℕ} (h : n < 2 ^ 53) : number (Nat.toDigits 10 n) = .finite n := by
  rw [number_digits Nat.toDigits_ne_nil
    fun c hc => Nat.isDigit_of_mem_toDigits (by decide) (by decide) hc,
    Nat.ofDigitChars_ten_toDigits, toDouble_natCast h]

/-! ### What is no number -/

theorem mem_trim {c : Char} {cs : List Char} (hspace : isSpace c = false) (h : c ∈ cs) :
    c ∈ (trim (String.ofList cs)).toList := by
  have hdrop : ∀ {l : List Char}, c ∈ l → c ∈ l.dropWhile isSpace := by
    intro l hl
    induction l with
    | nil => exact hl
    | cons c' l ih =>
      rw [List.dropWhile_cons]
      split
      next hc' =>
        rcases List.mem_cons.mp hl with rfl | hl
        · exact absurd (hc'.symm.trans hspace) (by decide)
        · exact ih hl
      next => exact hl
  rw [trim, String.toList_ofList, String.toList_ofList, List.rdropWhile, List.mem_reverse]
  exact hdrop (List.mem_reverse.mpr (hdrop h))

/-- A colon is no digit. -/
theorem not_areDigits_of_mem {radix : ℕ} {cs : List Char} (h : ':' ∈ cs) : ¬AreDigits radix cs := by
  rintro ⟨-, hall⟩
  obtain ⟨d, hd, -⟩ := hall _ h
  rw [show digitOf ':' = none by decide] at hd
  cases hd

theorem mem_signed {cs : List Char} (h : ':' ∈ cs) : ':' ∈ (signed cs).2 := by
  unfold signed
  split
  · exact (List.mem_cons.mp h).resolve_left (by decide)
  · exact (List.mem_cons.mp h).resolve_left (by decide)
  · exact h

theorem exponentOf_of_mem {cs : List Char} (h : ':' ∈ cs) : exponentOf cs = none := by
  cases cs with
  | nil => cases h
  | cons c cs =>
    rw [exponentOf, if_neg]
    rintro ⟨hc, hdigits⟩
    have hmem : ':' ∈ cs := by
      refine (List.mem_cons.mp h).resolve_left ?_
      rintro rfl
      exact absurd hc (by decide)
    exact not_areDigits_of_mem (mem_signed hmem) hdigits

theorem mem_dropWhile_isDigit {cs : List Char} (h : ':' ∈ cs) : ':' ∈ cs.dropWhile Char.isDigit := by
  have hsplit := List.takeWhile_append_dropWhile (p := Char.isDigit) (l := cs)
  rw [← hsplit] at h
  refine (List.mem_append.mp h).resolve_left fun hmem => ?_
  exact absurd (List.mem_takeWhile_imp hmem) (by decide)

theorem decimal_of_mem {cs : List Char} (h : ':' ∈ cs) : decimal cs = none := by
  have hrest : ':' ∈ (fractionOf (cs.dropWhile Char.isDigit)).2 := by
    have hmem := mem_dropWhile_isDigit h
    unfold fractionOf
    split
    next heq =>
      rw [heq] at hmem
      exact mem_dropWhile_isDigit ((List.mem_cons.mp hmem).resolve_left (by decide))
    next => exact hmem
  rw [decimal]
  simp only [exponentOf_of_mem hrest, Option.map_none, ite_self]

theorem signedDecimal_of_mem {cs : List Char} (h : ':' ∈ cs) : signedDecimal cs = .nan := by
  have hmem := mem_signed h
  rw [signedDecimal, if_neg, decimal_of_mem hmem]
  · rfl
  · intro heq
    rw [heq] at hmem
    exact absurd hmem (by decide)

/-- **A text with a colon is not a number.** -/
theorem number_eq_nan {cs : List Char} (h : ':' ∈ cs) : number cs = .nan := by
  have hmem := mem_trim (by decide) h
  rw [number]
  generalize (trim (String.ofList cs)).toList = chars at hmem
  unfold numeral
  split
  next => cases hmem
  next c digits =>
    split
    next hradix =>
      rw [if_neg]
      refine not_areDigits_of_mem ?_
      refine (List.mem_cons.mp ((List.mem_cons.mp hmem).resolve_left (by decide))).resolve_left ?_
      rintro rfl
      rw [show radixOf ':' = none by decide] at hradix
      cases hradix
    next => exact signedDecimal_of_mem hmem
  next => exact signedDecimal_of_mem hmem

end Js
