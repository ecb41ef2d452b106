import ScientificProtocol.Js.Decimal
import ScientificProtocol.Js.Quote
import Mathlib.Data.List.DropRight
import Mathlib.Data.List.TakeWhile
import Mathlib.Tactic.IntervalCases

/-!
# Texts and numbers are read back

What `JSON.stringify` writes of a text tells the text (`Js.quoteUnits_injective`): the first code
point is read off the first character or the first escape, and the rest is what is written of the
rest of the text.

What it writes of a number tells the number (`Js.Decimal.numberText_injective`). There is a point
among the digits, or zeros before or after them, or an exponent; without the zeros the digits are
those of the significand, and where the point stands among them, or would stand, is known from the
length of the whole part.
-/

namespace Js

/-! ### Quoted texts -/

theorem decode_quoteUnit (u : CodeUnit) (cs : List Char) :
    decode (quoteUnit u ++ cs) = (u.val, cs) := by
  by_cases hplain : IsPlain u
  · rw [quoteUnit_of_plain hplain, decode_asciiEscape]
  · obtain ⟨hraw, hle⟩ := quoteUnit_of_not_plain hplain
    have hlt := u.isLt
    unfold IsPlain IsHigh IsLow at hplain
    rw [hraw, List.singleton_append, decode_of_ne (fun hc => absurd (hc ▸ hle) (by decide)) cs,
      toNat_ofNat (by unfold Nat.isValidChar; omega)]

theorem quoteUnit_ne_nil (u : CodeUnit) : quoteUnit u ≠ [] := by
  by_cases hplain : IsPlain u
  · obtain ⟨c, cs, hescape, -⟩ := asciiEscape_head u
    rw [quoteUnit_of_plain hplain, hescape]
    exact List.cons_ne_nil _ _
  · rw [(quoteUnit_of_not_plain hplain).1]
    exact List.cons_ne_nil _ _

/-- The two units of a pair are those of its code point. -/
theorem unitsOf_pairChar {u u' : CodeUnit} (hhigh : IsHigh u) (hlow : IsLow u') :
    ∃ p : CodePoint, unitsOf p = [u, u'] ∧ (pairChar u u').toNat = p.val := by
  unfold IsHigh IsLow at *
  have hlt : 0x10000 + (u.val - 0xD800) * 0x400 + (u'.val - 0xDC00) < 0x110000 := by omega
  refine ⟨⟨_, hlt⟩, ?_, toNat_ofNat (by unfold Nat.isValidChar; omega)⟩
  rw [unitsOf, dif_neg (by simp only [not_lt]; omega), List.cons.injEq, List.cons.injEq, Fin.ext_iff,
    Fin.ext_iff]
  exact ⟨by simp only; omega, by simp only; omega, rfl⟩

/-- **The first code point can be read back**, and what is left is the rest of the text. -/
theorem decode_quoteBody {us : List CodeUnit} (h : us ≠ []) :
    quoteBody us ≠ [] ∧ ∃ (p : CodePoint) (rest : List CodeUnit), us = unitsOf p ++ rest ∧
      decode (quoteBody us) = (p.val, quoteBody rest) := by
  have hsingle : ∀ u : CodeUnit, ∃ p : CodePoint, unitsOf p = [u] ∧ u.val = p.val := fun u =>
    ⟨⟨u.val, by omega⟩, by rw [unitsOf, dif_pos u.isLt], rfl⟩
  cases us using quoteBody.fun_cases with
  | case1 => exact absurd rfl h
  | case2 u =>
    obtain ⟨p, hp, hval⟩ := hsingle u
    have hdecode := decode_quoteUnit u []
    rw [List.append_nil, hval] at hdecode
    exact ⟨quoteUnit_ne_nil u, p, [], by rw [hp]; rfl, hdecode⟩
  | case3 u u' us hpair =>
    obtain ⟨p, hp, hval⟩ := unitsOf_pairChar hpair.1 hpair.2
    have hle := le_toNat_pairChar hpair.1 hpair.2
    rw [quoteBody, if_pos hpair]
    refine ⟨List.cons_ne_nil _ _, p, us, by rw [hp]; rfl, ?_⟩
    rw [decode_of_ne (fun hc => absurd (hc ▸ hle) (by decide)), hval]
  | case4 u u' us hpair =>
    obtain ⟨p, hp, hval⟩ := hsingle u
    rw [quoteBody, if_neg hpair]
    refine ⟨List.append_ne_nil_of_left_ne_nil (quoteUnit_ne_nil u) _, p, u' :: us,
      by rw [hp]; rfl, ?_⟩
    rw [decode_quoteUnit, hval]

theorem quoteBody_injective : Function.Injective quoteBody := by
  intro us us' heq
  induction hlength : us.length using Nat.strong_induction_on generalizing us us' with
  | h n ih =>
    have hunits : ∀ p : CodePoint, unitsOf p ≠ [] := fun p => by
      unfold unitsOf
      split <;> exact List.cons_ne_nil _ _
    by_cases hnil : us = []
    · by_contra hne
      exact (decode_quoteBody (fun hnil' => hne (hnil.trans hnil'.symm))).1 (heq ▸ hnil ▸ rfl)
    · obtain ⟨hbody, p, rest, rfl, hdecode⟩ := decode_quoteBody hnil
      have hnil' : us' ≠ [] := by
        rintro rfl
        exact hbody heq
      obtain ⟨-, p', rest', rfl, hdecode'⟩ := decode_quoteBody hnil'
      rw [heq, hdecode'] at hdecode
      obtain ⟨hval, hrest⟩ := Prod.mk.inj hdecode
      obtain rfl := Fin.ext hval
      have hlt : rest.length < n := by
        rw [← hlength, List.length_append]
        exact Nat.lt_add_of_pos_left (List.length_pos_of_ne_nil (hunits p'))
      rw [ih rest.length hlt hrest.symm rfl]

/-- **A quoted text tells the text.** -/
theorem quoteUnits_injective : Function.Injective quoteUnits := by
  intro us us' h
  rw [quoteUnits, quoteUnits, String.ofList_inj, List.cons_append, List.cons_append,
    List.cons_inj_right, List.append_cancel_right_eq] at h
  exact quoteBody_injective h

namespace Decimal

/-! ### Numbers -/

/-- The digits of a number without an exponent, and where the point stands among them. -/
def readDigits (cs : List Char) : List Char × ℤ :=
  let whole := cs.takeWhile (· ≠ '.')
  let all := whole ++ (cs.dropWhile (· ≠ '.')).tail
  let significant := all.dropWhile (· = '0')
  (significant.rdropWhile (· = '0'),
    (whole.length : ℤ) - (all.length - significant.length : ℕ))

/-- The number that is written after an `e`. -/
def readExponent : List Char → ℤ
  | 'e' :: '-' :: cs => -(Nat.ofDigitChars 10 cs 0 : ℤ)
  | 'e' :: '+' :: cs => Nat.ofDigitChars 10 cs 0
  | _ => 0

/-- The digits and the point of a number. -/
def readScript (cs : List Char) : List Char × ℤ :=
  let read := readDigits (cs.takeWhile (· ≠ 'e'))
  (read.1, read.2 + readExponent (cs.dropWhile (· ≠ 'e')))

/-- Digits without zeros at either end. -/
structure Significant (digits : List Char) : Prop where
  isDigit : ∀ c ∈ digits, c.isDigit = true
  head : ∀ c ∈ digits.head?, c ≠ '0'
  last : ∀ c ∈ digits.getLast?, c ≠ '0'
  ne_nil : digits ≠ []

section

variable {digits : List Char} {n : ℤ}

theorem ne_of_isDigit {c c' : Char} (h : c.isDigit = true) (h' : c'.isDigit = false) : c ≠ c' := by
  rintro rfl
  exact absurd (h.symm.trans h') (by decide)

theorem takeWhile_ne {c : Char} {cs : List Char} (cs' : List Char) (h : c ∉ cs) :
    (cs ++ c :: cs').takeWhile (· ≠ c) = cs ∧ (cs ++ c :: cs').dropWhile (· ≠ c) = c :: cs' := by
  have hall : ∀ x ∈ cs, decide (x ≠ c) = true := fun x hx =>
    decide_eq_true (fun heq => h (heq ▸ hx))
  rw [List.takeWhile_append_of_pos hall, List.dropWhile_append_of_pos hall]
  simp

theorem takeWhile_ne_of_notMem {c : Char} {cs : List Char} (h : c ∉ cs) :
    cs.takeWhile (· ≠ c) = cs ∧ cs.dropWhile (· ≠ c) = [] := by
  have hall : ∀ x ∈ cs, decide (x ≠ c) = true := fun x hx =>
    decide_eq_true (fun heq => h (heq ▸ hx))
  exact ⟨List.takeWhile_eq_self_iff.mpr hall, List.dropWhile_eq_nil_iff.mpr hall⟩

/-- Zeros around the digits are left out. -/
theorem dropWhile_zeros (h : Significant digits) (i j : ℕ) :
    ((List.replicate i '0' ++ (digits ++ List.replicate j '0')).dropWhile (· = '0')) =
      digits ++ List.replicate j '0' := by
  obtain ⟨c, cs, rfl⟩ := List.exists_cons_of_ne_nil h.ne_nil
  have hc : c ≠ '0' := h.head c rfl
  rw [List.dropWhile_append_of_pos fun x hx => decide_eq_true (List.eq_of_mem_replicate hx)]
  simp [hc]

theorem rdropWhile_zeros (h : Significant digits) (j : ℕ) :
    ((digits ++ List.replicate j '0').rdropWhile (· = '0')) = digits := by
  rw [List.rdropWhile, List.reverse_append, List.reverse_replicate,
    List.dropWhile_append_of_pos fun x hx => decide_eq_true (List.eq_of_mem_replicate hx)]
  have hreverse : digits.reverse.dropWhile (· = '0') = digits.reverse := by
    refine List.dropWhile_eq_self_iff.mpr fun hlt => ?_
    have hlast := h.last (digits.reverse[0]) ?_
    · simpa using hlast
    · rw [← List.head?_reverse, List.head?_eq_getElem?, List.getElem?_eq_getElem hlt]
      rfl
  rw [hreverse, List.reverse_reverse]

/-- What is read of a whole part and of decimals. -/
theorem readDigits_of (h : Significant digits) {cs whole decimals : List Char} {i j : ℕ}
    (hwhole : cs.takeWhile (· ≠ '.') = whole)
    (hdecimals : (cs.dropWhile (· ≠ '.')).tail = decimals)
    (hall : whole ++ decimals = List.replicate i '0' ++ (digits ++ List.replicate j '0')) :
    readDigits cs = (digits, (whole.length : ℤ) - i) := by
  rw [readDigits]
  simp only [hwhole, hdecimals, hall, dropWhile_zeros h, rdropWhile_zeros h]
  rw [List.length_append, List.length_replicate, Nat.add_sub_cancel]

theorem point_notMem (h : Significant digits) : '.' ∉ digits := fun hmem =>
  absurd (h.isDigit _ hmem) (by decide)

theorem readDigits_padded (h : Significant digits) (hn : (digits.length : ℤ) ≤ n) :
    readDigits (padded digits n) = (digits, n) := by
  have hpoint : '.' ∉ padded digits n := by
    simp [padded, point_notMem h]
  obtain ⟨htake, hdrop⟩ := takeWhile_ne_of_notMem hpoint
  rw [readDigits_of h htake (congrArg List.tail hdrop) (i := 0)
    (j := (n - digits.length).toNat) (List.append_nil _), padded, List.length_append,
    List.length_replicate]
  exact congrArg _ (by omega)

theorem readDigits_pointed (h : Significant digits) (hn : n < digits.length) :
    readDigits (pointed digits n) = (digits, n) := by
  unfold pointed
  split
  next hle =>
    obtain ⟨htake, hdrop⟩ := takeWhile_ne (List.replicate (-n).toNat '0' ++ digits)
      (show '.' ∉ ['0'] by decide)
    rw [List.singleton_append] at htake hdrop
    rw [readDigits_of h htake (congrArg List.tail hdrop) (i := (-n).toNat + 1) (j := 0)]
    · exact congrArg _ (by simp only [List.length_singleton]; omega)
    · rw [List.replicate_succ, List.replicate_zero, List.append_nil]
      rfl
  next hlt =>
    have hpoint : '.' ∉ digits.take n.toNat := fun hmem =>
      point_notMem h (List.mem_of_mem_take hmem)
    obtain ⟨htake, hdrop⟩ := takeWhile_ne (digits.drop n.toNat) hpoint
    rw [readDigits_of h htake (congrArg List.tail hdrop) (i := 0) (j := 0)]
    · rw [List.length_take]
      exact congrArg _ (by omega)
    · rw [List.tail_cons, List.take_append_drop]
      simp

theorem readDigits_mantissa (h : Significant digits) : readDigits (mantissa digits) = (digits, 1) := by
  obtain ⟨c, cs, rfl⟩ := List.exists_cons_of_ne_nil h.ne_nil
  have hpoint := point_notMem h
  cases cs with
  | nil =>
    obtain ⟨htake, hdrop⟩ := takeWhile_ne_of_notMem hpoint
    exact readDigits_of h htake (congrArg List.tail hdrop) (i := 0) (j := 0) rfl
  | cons c' cs =>
    have hc : '.' ∉ [c] := fun hmem => hpoint (List.mem_singleton.mp hmem ▸ List.mem_cons_self)
    obtain ⟨htake, hdrop⟩ := takeWhile_ne (c' :: cs) hc
    rw [List.singleton_append] at htake hdrop
    change readDigits (c :: '.' :: c' :: cs) = _
    rw [readDigits_of h htake (congrArg List.tail hdrop) (i := 0) (j := 0) (by simp)]
    rfl

theorem readExponent_sign (e : ℤ) :
    readExponent ('e' :: exponentSign e :: Nat.toDigits 10 e.natAbs) = e := by
  unfold exponentSign
  split <;> simp only [readExponent, Nat.ofDigitChars_ten_toDigits] <;> omega

/-- **The digits and the point can be read back** from what is written. -/
theorem readScript_scriptChars (h : Significant digits) :
    readScript (scriptChars digits n) = (digits, n) := by
  have hplain : ∀ {cs : List Char}, 'e' ∉ cs → readDigits cs = (digits, n) →
      readScript cs = (digits, n) := by
    intro cs he hread
    obtain ⟨htake, hdrop⟩ := takeWhile_ne_of_notMem he
    rw [readScript]
    simp only [htake, hdrop, hread, readExponent, add_zero]
  unfold scriptChars
  split
  next hinteger => exact hplain (e_notMem_padded h.isDigit) (readDigits_padded h hinteger.1)
  next hinteger =>
    split
    next hpoint =>
      exact hplain (e_notMem_pointed h.isDigit) (readDigits_pointed h (by omega))
    next =>
      have he : 'e' ∉ mantissa digits := by
        obtain ⟨c, cs, rfl⟩ := List.exists_cons_of_ne_nil h.ne_nil
        have := e_notMem_of_digits h.isDigit
        cases cs <;> simp_all [mantissa]
      obtain ⟨htake, hdrop⟩ := takeWhile_ne
        (exponentSign (n - 1) :: Nat.toDigits 10 (n - 1).natAbs) he
      rw [readScript, scaled]
      simp only [htake, hdrop, readDigits_mantissa h, readExponent_sign]
      exact congrArg _ (by omega)

end

/-- No numeral but `0` starts with a zero. -/
theorem head?_toDigits_ne {n : ℕ} (h : 0 < n) : ∀ c ∈ (Nat.toDigits 10 n).head?, c ≠ '0' := by
  induction n using Nat.strong_induction_on with
  | h n ih =>
    rw [Nat.toDigits_eq_if (by decide)]
    split
    next hlt =>
      intro c hc
      obtain rfl := Option.some.inj hc
      interval_cases n <;> decide
    next hle =>
      have hne : Nat.toDigits 10 (n / 10) ≠ [] := Nat.toDigits_ne_nil
      rw [List.head?_append_of_ne_nil _ hne]
      exact ih (n / 10) (by omega) (by omega)

theorem getLast?_toDigits_ne {n : ℕ} (h : n % 10 ≠ 0) :
    ∀ c ∈ (Nat.toDigits 10 n).getLast?, c ≠ '0' := by
  have hdigit : ∀ m, m < 10 → m ≠ 0 → Nat.digitChar m ≠ '0' := by decide
  rw [Nat.toDigits_eq_if (by decide)]
  intro c hc
  split at hc
  next hlt =>
    obtain rfl := Option.some.inj hc
    exact hdigit n hlt (by omega)
  next =>
    rw [List.getLast?_concat] at hc
    obtain rfl := Option.some.inj hc
    exact hdigit (n % 10) (Nat.mod_lt n (by decide)) h

theorem significant_digits (d : Decimal) : Significant d.digits where
  isDigit := fun c hc => isDigit_of_mem_digits hc
  head := head?_toDigits_ne (Nat.pos_of_ne_zero fun h => d.last_ne_zero (by rw [h]))
  last := getLast?_toDigits_ne d.last_ne_zero
  ne_nil := List.ne_nil_of_length_pos d.length_digits_pos

theorem scriptChars_ne_sign (d : Decimal) :
    ∃ c cs, scriptChars d.digits d.point = c :: cs ∧ c ≠ '-' := by
  obtain ⟨⟨c, cs, hcs, hc⟩, -⟩ := d.startsWithDigit_scriptChars
  exact ⟨c, cs, hcs, ne_of_isDigit hc (by decide)⟩

/-- No other number is written as zero is. -/
theorem numberText_ne_zero (d : Decimal) : d.numberText ≠ "0" := by
  intro h
  have hlist : sign d.negative ++ scriptChars d.digits d.point = ['0'] :=
    String.ofList_inj.mp h
  have hread := readScript_scriptChars (n := d.point) d.significant_digits
  cases hneg : d.negative
  · rw [hneg, sign, if_neg (by decide), List.nil_append] at hlist
    rw [hlist] at hread
    exact d.significant_digits.ne_nil (congrArg Prod.fst hread).symm
  · rw [hneg, sign, if_pos rfl] at hlist
    exact absurd (List.cons.inj hlist).1 (by decide)

/-- **The text of a number tells the number.** -/
theorem numberText_injective : Function.Injective numberText := by
  intro d d' h
  rw [numberText, numberText, String.ofList_inj] at h
  have hread : ∀ d : Decimal, readScript (scriptChars d.digits d.point) = (d.digits, d.point) :=
    fun d => readScript_scriptChars d.significant_digits
  obtain ⟨c, cs, hcs, hc⟩ := d.scriptChars_ne_sign
  obtain ⟨c', cs', hcs', hc'⟩ := d'.scriptChars_ne_sign
  have hsame : d.negative = d'.negative ∧
      scriptChars d.digits d.point = scriptChars d'.digits d'.point := by
    rw [hcs, hcs'] at h ⊢
    cases hneg : d.negative <;> cases hneg' : d'.negative <;> rw [hneg, hneg'] at h
    · exact ⟨rfl, h⟩
    · exact absurd (List.cons.inj h).1 hc
    · exact absurd (List.cons.inj h).1.symm hc'
    · exact ⟨rfl, (List.cons.inj h).2⟩
  have hpair := congrArg readScript hsame.2
  rw [hread, hread] at hpair
  obtain ⟨hdigits, hpoint⟩ := Prod.mk.inj hpair
  have hsignificand : d.significand = d'.significand := by
    have := congrArg (fun cs => Nat.ofDigitChars 10 cs 0) hdigits
    simpa only [digits, Nat.ofDigitChars_ten_toDigits] using this
  cases d
  cases d'
  obtain rfl : _ = _ := hsame.1
  obtain rfl : _ = _ := hsignificand
  obtain rfl : _ = _ := hpoint
  rfl

end Decimal

end Js
