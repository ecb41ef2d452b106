import ScientificProtocol.Js.JsonText
import Mathlib.Algebra.Order.Group.Int
import Mathlib.Algebra.Ring.Nat
import Mathlib.Tactic.Common

/-!
# Numbers in decimals

What a script and what Python write for a double. Both start with the shortest decimals that tell it
from all the others, and differ in when they write an exponent, and how, and in whether they write a
fraction that is zero. So they write the same exactly if there are decimals after the point, and the
number is not so small that one of them writes an exponent, or it is so small or so great that both
of them do and the exponent has two digits (`Js.Decimal.numberText_eq_repr_iff`).
-/

namespace Js

/-- The decimals of a double that is not zero: `0.d₁d₂… · 10 ^ point`, with the digits of the
significand. -/
structure Decimal where
  negative : Bool
  significand : ℕ
  point : ℤ
  last_ne_zero : significand % 10 ≠ 0
  /-- Seventeen digits tell any two doubles apart. -/
  short : significand < 10 ^ 17

namespace Decimal

/-! ### What is written -/

def digits (d : Decimal) : List Char := Nat.toDigits 10 d.significand

def sign (negative : Bool) : List Char := if negative then ['-'] else []

/-- The digits, with a point after the first one. -/
def mantissa : List Char → List Char
  | [] => []
  | [c] => [c]
  | c :: cs => c :: '.' :: cs

/-- The sign of an exponent. -/
def exponentSign (e : ℤ) : Char := if e < 0 then '-' else '+'

/-- The digits with a point among them or before them. -/
def pointed (digits : List Char) (n : ℤ) : List Char :=
  if n ≤ 0 then '0' :: '.' :: (List.replicate (-n).toNat '0' ++ digits)
  else digits.take n.toNat ++ '.' :: digits.drop n.toNat

/-- The digits with zeros after them. -/
def padded (digits : List Char) (n : ℤ) : List Char :=
  digits ++ List.replicate (n - digits.length).toNat '0'

/-- The digits with an exponent. -/
def scaled (digits : List Char) (n : ℤ) (exponent : ℕ → List Char) : List Char :=
  mantissa digits ++ 'e' :: exponentSign (n - 1) :: exponent (n - 1).natAbs

/-- What `Number::toString` writes for digits. -/
def scriptChars (digits : List Char) (n : ℤ) : List Char :=
  if (digits.length : ℤ) ≤ n ∧ n ≤ 21 then padded digits n
  else if -6 < n ∧ n ≤ 21 then pointed digits n
  else scaled digits n (Nat.toDigits 10)

/-- `%02d` -/
def twoDigits (e : ℕ) : List Char := if e < 10 then '0' :: Nat.toDigits 10 e else Nat.toDigits 10 e

/-- What `float_repr` writes for digits. -/
def pythonChars (digits : List Char) (n : ℤ) : List Char :=
  if -4 < n ∧ n ≤ 16 then
    if (digits.length : ℤ) ≤ n then padded digits n ++ ['.', '0'] else pointed digits n
  else scaled digits n twoDigits

/-- `String(number)` -/
def numberText (d : Decimal) : String :=
  String.ofList (sign d.negative ++ scriptChars d.digits d.point)

/-- `repr(number)` -/
def repr (d : Decimal) : String :=
  String.ofList (sign d.negative ++ pythonChars d.digits d.point)

/-! ### When it is the same -/

/-- There are decimals after the point and no exponent in either text, or an exponent of two digits
or more in both. -/
def Alike (d : Decimal) : Prop :=
  -4 < d.point ∧ d.point < d.digits.length ∨ d.point ≤ -9 ∨ 21 < d.point

instance (d : Decimal) : Decidable d.Alike :=
  inferInstanceAs (Decidable (-4 < d.point ∧ d.point < d.digits.length ∨ d.point ≤ -9 ∨ 21 < d.point))

theorem isDigit_of_mem_digits {d : Decimal} {c : Char} (h : c ∈ d.digits) : c.isDigit = true :=
  Nat.isDigit_of_mem_toDigits (by decide) (by decide) h

theorem length_digits_pos (d : Decimal) : 0 < d.digits.length := Nat.length_toDigits_pos

theorem length_digits_le (d : Decimal) : d.digits.length ≤ 17 :=
  (Nat.length_toDigits_le_iff (by decide) (by decide)).mpr d.short

variable {digits : List Char} {n : ℤ}

/-- Without an exponent there is no `e`. -/
theorem e_notMem_of_digits (h : ∀ c ∈ digits, c.isDigit = true) : 'e' ∉ digits := fun he =>
  absurd (h _ he) (by decide)

theorem e_notMem_pointed (h : ∀ c ∈ digits, c.isDigit = true) : 'e' ∉ pointed digits n := by
  have hdigits := e_notMem_of_digits h
  unfold pointed
  split
  · simp [hdigits]
  · intro he
    rcases List.mem_append.mp he with he | he
    · exact hdigits (List.mem_of_mem_take he)
    · rcases List.mem_cons.mp he with he | he
      · exact absurd he (by decide)
      · exact hdigits (List.mem_of_mem_drop he)

theorem e_notMem_padded (h : ∀ c ∈ digits, c.isDigit = true) : 'e' ∉ padded digits n := by
  simp [padded, e_notMem_of_digits h]

theorem e_mem_scaled (exponent : ℕ → List Char) : 'e' ∈ scaled digits n exponent :=
  List.mem_append_right _ List.mem_cons_self

/-- **The two texts of a number are the same** exactly if they have the same form. -/
theorem numberText_eq_repr_iff (d : Decimal) : d.numberText = d.repr ↔ d.Alike := by
  have hdigits : ∀ c ∈ d.digits, c.isDigit = true := fun c => isDigit_of_mem_digits
  have hpos := d.length_digits_pos
  have hle := d.length_digits_le
  rw [numberText, repr, String.ofList_inj, List.append_cancel_left_eq, scriptChars, pythonChars,
    Alike]
  by_cases hinteger : (d.digits.length : ℤ) ≤ d.point ∧ d.point ≤ 21
  · rw [if_pos hinteger]
    refine iff_of_false (fun heq => ?_) (by omega)
    by_cases hfixed : -4 < d.point ∧ d.point ≤ 16
    · rw [if_pos hfixed, if_pos hinteger.1] at heq
      simpa using congrArg List.length heq
    · rw [if_neg hfixed] at heq
      exact e_notMem_padded hdigits (heq ▸ e_mem_scaled twoDigits)
  · rw [if_neg hinteger]
    by_cases hfixed : -4 < d.point ∧ d.point ≤ 16
    · rw [if_pos (by omega), if_pos hfixed, if_neg (by omega)]
      exact iff_of_true rfl (by omega)
    · rw [if_neg hfixed]
      by_cases hpoint : -6 < d.point ∧ d.point ≤ 21
      · rw [if_pos hpoint]
        refine iff_of_false (fun heq => ?_) (by omega)
        exact e_notMem_pointed hdigits (heq ▸ e_mem_scaled twoDigits)
      · rw [if_neg hpoint, scaled, scaled, List.append_cancel_left_eq, List.cons.injEq,
          List.cons.injEq, twoDigits]
        by_cases hsmall : (d.point - 1).natAbs < 10
        · rw [if_pos hsmall]
          refine iff_of_false (fun heq => ?_) (by omega)
          simpa using congrArg List.length heq.2.2
        · rw [if_neg hsmall]
          exact iff_of_true ⟨rfl, rfl, rfl⟩ (by omega)

/-! ### What is written is a number -/

/-- The characters of a number, with a digit first. -/
def StartsWithDigit (cs : List Char) : Prop :=
  (∃ c cs', cs = c :: cs' ∧ c.isDigit = true) ∧
    ∀ c ∈ cs, c.isDigit = true ∨ c ∈ ['-', '+', '.', 'e']

theorem startsWithDigit_append {cs cs' : List Char} (h : StartsWithDigit cs)
    (h' : ∀ c ∈ cs', c.isDigit = true ∨ c ∈ ['-', '+', '.', 'e']) : StartsWithDigit (cs ++ cs') := by
  obtain ⟨⟨c, rest, rfl, hc⟩, hall⟩ := h
  refine ⟨⟨c, rest ++ cs', rfl, hc⟩, fun c' hc' => ?_⟩
  exact (List.mem_append.mp hc').elim (hall c') (h' c')

theorem startsWithDigit_of_digits {digits : List Char} (hpos : 0 < digits.length)
    (h : ∀ c ∈ digits, c.isDigit = true) : StartsWithDigit digits := by
  obtain ⟨c, cs, rfl⟩ := List.exists_cons_of_length_pos hpos
  exact ⟨⟨c, cs, rfl, h c List.mem_cons_self⟩, fun c' hc' => .inl (h c' hc')⟩

theorem isDigit_of_mem_zeros {c : Char} {k : ℕ} (h : c ∈ List.replicate k '0') :
    c.isDigit = true := by
  obtain rfl := List.eq_of_mem_replicate h
  rfl

section

variable (hpos : 0 < digits.length) (h : ∀ c ∈ digits, c.isDigit = true)

include hpos h

theorem startsWithDigit_padded : StartsWithDigit (padded digits n) :=
  startsWithDigit_append (startsWithDigit_of_digits hpos h) fun _ hc =>
    .inl (isDigit_of_mem_zeros hc)

theorem startsWithDigit_pointed : StartsWithDigit (pointed digits n) := by
  unfold pointed
  split
  next =>
    refine ⟨⟨'0', _, rfl, rfl⟩, fun c hc => ?_⟩
    rcases List.mem_cons.mp hc with rfl | hc
    · exact .inl rfl
    · rcases List.mem_cons.mp hc with rfl | hc
      · exact .inr (by decide)
      · exact .inl ((List.mem_append.mp hc).elim isDigit_of_mem_zeros (h c))
  next hn =>
    refine startsWithDigit_append (startsWithDigit_of_digits ?_ fun c hc =>
      h c (List.mem_of_mem_take hc)) fun c hc => ?_
    · rw [List.length_take]
      omega
    · rcases List.mem_cons.mp hc with rfl | hc
      · exact .inr (by decide)
      · exact .inl (h c (List.mem_of_mem_drop hc))

theorem startsWithDigit_mantissa : StartsWithDigit (mantissa digits) := by
  match digits, hpos, h with
  | [c], hpos, h => exact startsWithDigit_of_digits hpos h
  | c :: c' :: cs, _, h =>
    refine ⟨⟨c, _, rfl, h c List.mem_cons_self⟩, fun x hx => ?_⟩
    rcases List.mem_cons.mp hx with rfl | hx
    · exact .inl (h x List.mem_cons_self)
    · rcases List.mem_cons.mp hx with rfl | hx
      · exact .inr (by decide)
      · exact .inl (h x (List.mem_cons_of_mem _ hx))

theorem startsWithDigit_scaled {exponent : ℕ → List Char}
    (hexponent : ∀ e, ∀ c ∈ exponent e, c.isDigit = true) :
    StartsWithDigit (scaled digits n exponent) := by
  refine startsWithDigit_append (startsWithDigit_mantissa hpos h) fun c hc => ?_
  rcases List.mem_cons.mp hc with rfl | hc
  · exact .inr (by decide)
  · rcases List.mem_cons.mp hc with rfl | hc
    · refine .inr ?_
      unfold exponentSign
      split <;> decide
    · exact .inl (hexponent _ c hc)

end

theorem isDigit_of_mem_toDigits (e : ℕ) : ∀ c ∈ Nat.toDigits 10 e, c.isDigit = true := fun _ hc =>
  Nat.isDigit_of_mem_toDigits (by decide) (by decide) hc

theorem isDigit_of_mem_twoDigits (e : ℕ) : ∀ c ∈ twoDigits e, c.isDigit = true := by
  intro c hc
  unfold twoDigits at hc
  split at hc
  · rcases List.mem_cons.mp hc with rfl | hc
    · rfl
    · exact isDigit_of_mem_toDigits e c hc
  · exact isDigit_of_mem_toDigits e c hc

/-- A number may have a sign. -/
theorem isNumber_of_startsWithDigit (negative : Bool) {cs : List Char} (h : StartsWithDigit cs) :
    IsNumber (String.ofList (sign negative ++ cs)) := by
  obtain ⟨⟨c, rest, rfl, hc⟩, hall⟩ := h
  have hsign : ∀ c' ∈ sign negative, c' = '-' := by
    intro c' hc'
    unfold sign at hc'
    split at hc'
    · exact List.mem_singleton.mp hc'
    · cases hc'
  refine ⟨?_, fun c' hc' => ?_⟩
  · rw [String.toList_ofList]
    cases negative with
    | true => exact ⟨'-', c :: rest, rfl, .inl rfl⟩
    | false => exact ⟨c, rest, rfl, .inr hc⟩
  · rw [String.toList_ofList] at hc'
    have hchar : c'.isDigit = true ∨ c' ∈ ['-', '+', '.', 'e'] := by
      rcases List.mem_append.mp hc' with hs | hr
      · refine .inr ?_
        rw [hsign c' hs]
        decide
      · exact hall c' hr
    refine ⟨?_, ?_, ?_⟩ <;> rintro rfl <;> revert hchar <;> decide

theorem startsWithDigit_scriptChars (d : Decimal) :
    StartsWithDigit (scriptChars d.digits d.point) := by
  have hpos := d.length_digits_pos
  have hdigits : ∀ c ∈ d.digits, c.isDigit = true := fun c => isDigit_of_mem_digits
  unfold scriptChars
  split
  next => exact startsWithDigit_padded hpos hdigits
  next =>
    split
    · exact startsWithDigit_pointed hpos hdigits
    · exact startsWithDigit_scaled hpos hdigits isDigit_of_mem_toDigits

theorem isNumber_numberText (d : Decimal) : IsNumber d.numberText :=
  isNumber_of_startsWithDigit _ d.startsWithDigit_scriptChars

theorem isNumber_repr (d : Decimal) : IsNumber d.repr := by
  have hpos := d.length_digits_pos
  have hdigits : ∀ c ∈ d.digits, c.isDigit = true := fun c => isDigit_of_mem_digits
  refine isNumber_of_startsWithDigit _ ?_
  unfold pythonChars
  split
  next =>
    split
    · refine startsWithDigit_append (startsWithDigit_padded hpos hdigits) fun c hc => ?_
      rcases List.mem_cons.mp hc with rfl | hc
      · exact .inr (by decide)
      · exact .inl (List.mem_singleton.mp hc ▸ rfl)
    · exact startsWithDigit_pointed hpos hdigits
  next => exact startsWithDigit_scaled hpos hdigits isDigit_of_mem_twoDigits

end Decimal

end Js
