import ScientificProtocol.Js.JsonText
import Mathlib.Data.List.Chain
import Mathlib.Order.Fin.Basic

/-!
# Quoting texts

A text of a script is a list of code units, one of Python a list of code points. `JSON.stringify`
leaves a character as it is unless it is a control character, a quote, a backslash or half of a
pair; `json.dumps` escapes, in addition, whatever is not printable in ASCII, unit by unit. So the
two write the same for a text exactly if it has nothing else in it (`Js.dumps_eq_quoteUnits_iff`).
-/

namespace Js

/-- A code unit of UTF-16. -/
abbrev CodeUnit : Type := Fin 0x10000

/-- A code point, which may be a surrogate. -/
abbrev CodePoint : Type := Fin 0x110000

def IsHigh (u : ℕ) : Prop := 0xD800 ≤ u ∧ u < 0xDC00

def IsLow (u : ℕ) : Prop := 0xDC00 ≤ u ∧ u < 0xE000

instance (u : ℕ) : Decidable (IsHigh u) := inferInstanceAs (Decidable (0xD800 ≤ u ∧ u < 0xDC00))

instance (u : ℕ) : Decidable (IsLow u) := inferInstanceAs (Decidable (0xDC00 ≤ u ∧ u < 0xE000))

/-- The code units of a code point. -/
def unitsOf (p : CodePoint) : List CodeUnit :=
  if h : p.val < 0x10000 then [⟨p.val, h⟩]
  else [⟨0xD800 + (p.val - 0x10000) / 0x400, by omega⟩,
    ⟨0xDC00 + (p.val - 0x10000) % 0x400, by omega⟩]

/-- What a script sees of a text. -/
def units (text : List CodePoint) : List CodeUnit := text.flatMap unitsOf

/-! ### What is written -/

/-- The character that two code units make. -/
def pairChar (high low : ℕ) : Char := Char.ofNat (0x10000 + (high - 0xD800) * 0x400 + (low - 0xDC00))

/-- A code unit that is not one of a pair. -/
def quoteUnit (u : CodeUnit) : List Char :=
  (escapeControl u).getD (if IsHigh u ∨ IsLow u then unicodeEscape u else [Char.ofNat u])

/-- What `JSON.stringify` writes between the quotes. -/
def quoteBody : List CodeUnit → List Char
  | [] => []
  | [u] => quoteUnit u
  | u :: u' :: us =>
    if IsHigh u ∧ IsLow u' then pairChar u u' :: quoteBody us
    else quoteUnit u ++ quoteBody (u' :: us)

/-- `JSON.stringify(text)` -/
def quoteUnits (text : List CodeUnit) : String :=
  String.ofList ('"' :: quoteBody text ++ ['"'])

/-- What `json.dumps` writes of a code unit. -/
def asciiEscape (u : CodeUnit) : List Char :=
  (escapeControl u).getD (if 0x20 ≤ u.val ∧ u.val < 0x7F then [Char.ofNat u] else unicodeEscape u)

/-- `json.dumps(text)` -/
def dumps (text : List CodePoint) : String :=
  String.ofList ('"' :: (text.flatMap fun p => (unitsOf p).flatMap asciiEscape) ++ ['"'])

/-! ### Reading an escape back -/

def hexValue (c : Char) : ℕ := if c.toNat < 58 then c.toNat - 48 else c.toNat - 87

/-- The first code unit of what `json.dumps` has written. -/
def decode : List Char → ℕ × List Char
  | [] => (0, [])
  | '\\' :: 'u' :: c₃ :: c₂ :: c₁ :: c₀ :: cs =>
    (hexValue c₃ * 4096 + hexValue c₂ * 256 + hexValue c₁ * 16 + hexValue c₀, cs)
  | '\\' :: 'b' :: cs => (0x08, cs)
  | '\\' :: 't' :: cs => (0x09, cs)
  | '\\' :: 'n' :: cs => (0x0A, cs)
  | '\\' :: 'f' :: cs => (0x0C, cs)
  | '\\' :: 'r' :: cs => (0x0D, cs)
  | '\\' :: c :: cs => (c.toNat, cs)
  | c :: cs => (c.toNat, cs)

theorem hexValue_hexDigit {n : ℕ} (h : n < 16) : hexValue (hexDigit n) = n := by
  revert n
  decide

theorem decode_unicodeEscape {u : ℕ} (h : u < 0x10000) (cs : List Char) :
    decode (unicodeEscape u ++ cs) = (u, cs) := by
  have hdigit : ∀ n, hexValue (hexDigit (n % 16)) = n % 16 :=
    fun n => hexValue_hexDigit (Nat.mod_lt n (by decide))
  change (_, cs) = _
  rw [hdigit, hdigit, hdigit, hdigit]
  refine congrArg (·, cs) ?_
  omega

theorem decode_of_ne {c : Char} (h : c ≠ '\\') (cs : List Char) :
    decode (c :: cs) = (c.toNat, cs) := by
  unfold decode
  split <;> simp_all

theorem toNat_ofNat {u : ℕ} (h : u.isValidChar) : (Char.ofNat u).toNat = u := by
  rw [Char.ofNat, dif_pos h]
  rfl

/-- **An escape can be read back**, whatever comes after it. -/
theorem decode_asciiEscape (u : CodeUnit) (cs : List Char) :
    decode (asciiEscape u ++ cs) = (u.val, cs) := by
  unfold asciiEscape escapeControl
  split
  next h => rw [h]; rfl
  next hquote =>
    split
    next h => rw [h]; rfl
    next hescape =>
      split
      next h => rw [h]; rfl
      next =>
        split
        next h => rw [h]; rfl
        next =>
          split
          next h => rw [h]; rfl
          next =>
            split
            next h => rw [h]; rfl
            next =>
              split
              next h => rw [h]; rfl
              next =>
                split
                next h => exact decode_unicodeEscape u.isLt cs
                next =>
                  rw [Option.getD_none]
                  split
                  next h =>
                    have htoNat := toNat_ofNat (.inl (Nat.lt_trans h.2 (by decide : 0x7F < 0xD800)))
                    rw [List.singleton_append, decode_of_ne ?_ cs, htoNat]
                    intro hc
                    rw [hc] at htoNat
                    exact hescape htoNat.symm
                  next => exact decode_unicodeEscape u.isLt cs

/-- **The first escape is known from what is written.** -/
theorem asciiEscape_append_inj {u u' : CodeUnit} {cs cs' : List Char}
    (h : asciiEscape u ++ cs = asciiEscape u' ++ cs') : u = u' ∧ cs = cs' := by
  have hdecoded := congrArg decode h
  rw [decode_asciiEscape, decode_asciiEscape] at hdecoded
  obtain ⟨hval, hrest⟩ := Prod.mk.inj hdecoded
  exact ⟨Fin.ext hval, hrest⟩

/-! ### When both write the same -/

/-- A code unit that `json.dumps` writes as a script does when it stands alone. -/
def IsPlain (u : ℕ) : Prop := u < 0x7F ∨ IsHigh u ∨ IsLow u

instance (u : ℕ) : Decidable (IsPlain u) :=
  inferInstanceAs (Decidable (u < 0x7F ∨ IsHigh u ∨ IsLow u))

/-- **A plain text** has printable characters of ASCII, control characters other than the last one,
and halves of pairs that do not stand together. -/
def Plain (text : List ℕ) : Prop :=
  (∀ u ∈ text, IsPlain u) ∧ text.IsChain fun u u' => ¬(IsHigh u ∧ IsLow u')

instance (text : List ℕ) : Decidable (Plain text) :=
  inferInstanceAs (Decidable ((∀ u ∈ text, IsPlain u) ∧
    text.IsChain fun u u' => ¬(IsHigh u ∧ IsLow u')))

/-- A code unit is escaped by a letter, by its number or not at all. -/
theorem escapeControl_spec (u : ℕ) :
    (escapeControl u = none ∧ 0x20 ≤ u ∧ u ≠ 0x22 ∧ u ≠ 0x5C) ∨
      (u < 0x7F ∧ ∃ c, escapeControl u = some ['\\', c]) ∨
      (u < 0x20 ∧ escapeControl u = some (unicodeEscape u)) := by
  rw [escapeControl]
  by_cases h₁ : u = 0x22
  · exact .inr (.inl ⟨by omega, _, if_pos h₁⟩)
  rw [if_neg h₁]
  by_cases h₂ : u = 0x5C
  · exact .inr (.inl ⟨by omega, _, if_pos h₂⟩)
  rw [if_neg h₂]
  by_cases h₃ : u = 0x08
  · exact .inr (.inl ⟨by omega, _, if_pos h₃⟩)
  rw [if_neg h₃]
  by_cases h₄ : u = 0x09
  · exact .inr (.inl ⟨by omega, _, if_pos h₄⟩)
  rw [if_neg h₄]
  by_cases h₅ : u = 0x0A
  · exact .inr (.inl ⟨by omega, _, if_pos h₅⟩)
  rw [if_neg h₅]
  by_cases h₆ : u = 0x0C
  · exact .inr (.inl ⟨by omega, _, if_pos h₆⟩)
  rw [if_neg h₆]
  by_cases h₇ : u = 0x0D
  · exact .inr (.inl ⟨by omega, _, if_pos h₇⟩)
  rw [if_neg h₇]
  by_cases h₈ : u < 0x20
  · exact .inr (.inr ⟨h₈, if_pos h₈⟩)
  · exact .inl ⟨if_neg h₈, by omega, h₁, h₂⟩

theorem escapeControl_cases (u : ℕ) :
    (escapeControl u = none ∧ 0x20 ≤ u) ∨ ∃ cs, escapeControl u = some ('\\' :: cs) := by
  rcases escapeControl_spec u with ⟨hnone, hle, -⟩ | ⟨-, c, hsome⟩ | ⟨-, hsome⟩
  · exact .inl ⟨hnone, hle⟩
  · exact .inr ⟨[c], hsome⟩
  · exact .inr ⟨_, hsome⟩

/-- What `json.dumps` writes is in ASCII. -/
theorem asciiEscape_head (u : CodeUnit) : ∃ c cs, asciiEscape u = c :: cs ∧ c.toNat < 0x7F := by
  unfold asciiEscape
  rcases escapeControl_cases u with ⟨hnone, -⟩ | ⟨cs, hsome⟩
  · rw [hnone, Option.getD_none]
    split
    next h =>
      refine ⟨Char.ofNat u, [], rfl, ?_⟩
      rw [toNat_ofNat (.inl (Nat.lt_trans h.2 (by decide)))]
      exact h.2
    next => exact ⟨'\\', _, rfl, by decide⟩
  · rw [hsome]
    exact ⟨'\\', cs, rfl, by decide⟩

theorem quoteUnit_of_plain {u : CodeUnit} (h : IsPlain u) : quoteUnit u = asciiEscape u := by
  unfold quoteUnit asciiEscape
  rcases escapeControl_cases u with ⟨hnone, hle⟩ | ⟨cs, hsome⟩
  · rw [hnone, Option.getD_none, Option.getD_none]
    unfold IsPlain IsHigh IsLow at *
    by_cases hascii : u.val < 0x7F
    · rw [if_neg (by omega), if_pos ⟨hle, hascii⟩]
    · rw [if_pos (by omega), if_neg (by omega)]
  · rw [hsome, Option.getD_some, Option.getD_some]

theorem quoteUnit_of_not_plain {u : CodeUnit} (h : ¬IsPlain u) :
    quoteUnit u = [Char.ofNat u] ∧ 0x7F ≤ (Char.ofNat u).toNat := by
  have hlt := u.isLt
  unfold IsPlain IsHigh IsLow at h
  have hcontrol : escapeControl u = none := by
    rcases escapeControl_spec u with ⟨hnone, -⟩ | ⟨hlt', -⟩ | ⟨hlt', -⟩
    · exact hnone
    · omega
    · omega
  constructor
  · unfold quoteUnit IsHigh IsLow
    rw [hcontrol, Option.getD_none, if_neg (by omega)]
  · rw [toNat_ofNat (by unfold Nat.isValidChar; omega)]
    omega

/-- What a script has written as it is, `json.dumps` has not written. -/
theorem ne_flatMap_asciiEscape {c : Char} (h : 0x7F ≤ c.toNat) (cs : List Char)
    (text : List CodeUnit) : c :: cs ≠ text.flatMap asciiEscape := by
  intro heq
  cases text with
  | nil => cases heq
  | cons u us =>
    obtain ⟨c', cs', hescape, hlt⟩ := asciiEscape_head u
    rw [List.flatMap_cons, hescape] at heq
    rw [(List.cons.inj heq).1] at h
    omega

/-- The first code unit, if it is not one of a pair. -/
theorem quoteUnit_append_eq_iff {u : CodeUnit} {cs : List Char} {text : List CodeUnit} :
    quoteUnit u ++ cs = text.flatMap asciiEscape ↔
      IsPlain u ∧ ∃ text', text = u :: text' ∧ cs = text'.flatMap asciiEscape := by
  by_cases hplain : IsPlain u
  · rw [quoteUnit_of_plain hplain]
    constructor
    · intro heq
      refine ⟨hplain, ?_⟩
      cases text with
      | nil =>
        obtain ⟨c, cs', hescape, -⟩ := asciiEscape_head u
        rw [hescape] at heq
        cases heq
      | cons u' text' =>
        obtain ⟨rfl, hrest⟩ := asciiEscape_append_inj heq
        exact ⟨text', rfl, hrest⟩
    · rintro ⟨-, text', rfl, rfl⟩
      rfl
  · obtain ⟨hraw, hle⟩ := quoteUnit_of_not_plain hplain
    rw [hraw]
    exact iff_of_false (ne_flatMap_asciiEscape hle cs text) fun h => hplain h.1

theorem le_toNat_pairChar {u u' : CodeUnit} (hhigh : IsHigh u) (hlow : IsLow u') :
    0x10000 ≤ (pairChar u u').toNat := by
  unfold IsHigh IsLow at *
  rw [pairChar, toNat_ofNat (by unfold Nat.isValidChar; omega)]
  omega

/-- **The same is written between the quotes** only of the same text, if it is plain. -/
theorem quoteBody_eq_iff (us : List CodeUnit) (text : List CodeUnit) :
    quoteBody us = text.flatMap asciiEscape ↔ us = text ∧ Plain (us.map Fin.val) := by
  induction us using quoteBody.induct generalizing text with
  | case1 =>
    constructor
    · intro heq
      cases text with
      | nil => exact ⟨rfl, fun u hu => absurd hu List.not_mem_nil, .nil⟩
      | cons u us =>
        obtain ⟨c, cs, hescape, -⟩ := asciiEscape_head u
        rw [List.flatMap_cons, hescape] at heq
        cases heq
    · rintro ⟨rfl, -⟩
      rfl
  | case2 u =>
    rw [quoteBody, ← List.append_nil (quoteUnit u), quoteUnit_append_eq_iff]
    constructor
    · rintro ⟨hplain, text', rfl, hnil⟩
      obtain rfl : text' = [] := by
        cases text' with
        | nil => rfl
        | cons u' us' =>
          obtain ⟨c, cs, hescape, -⟩ := asciiEscape_head u'
          rw [List.flatMap_cons, hescape] at hnil
          cases hnil
      exact ⟨rfl, List.forall_mem_singleton.mpr hplain, .singleton _⟩
    · rintro ⟨rfl, hplain⟩
      exact ⟨hplain.1 _ List.mem_cons_self, [], rfl, rfl⟩
  | case3 u u' us hpair ih =>
    rw [quoteBody, if_pos hpair]
    have htoNat := le_toNat_pairChar hpair.1 hpair.2
    refine iff_of_false (ne_flatMap_asciiEscape (Nat.le_trans (by decide) htoNat) _ _) ?_
    rintro ⟨-, -, hchain⟩
    exact (List.isChain_cons_cons.mp hchain).1 hpair
  | case4 u u' us hpair ih =>
    rw [quoteBody, if_neg hpair, quoteUnit_append_eq_iff]
    constructor
    · rintro ⟨hplain, text', rfl, hrest⟩
      obtain ⟨rfl, hall, hchain⟩ := (ih text').mp hrest
      exact ⟨rfl, List.forall_mem_cons.mpr ⟨hplain, hall⟩, List.isChain_cons_cons.mpr ⟨hpair, hchain⟩⟩
    · rintro ⟨rfl, hall, hchain⟩
      obtain ⟨hplain, hall⟩ := List.forall_mem_cons.mp hall
      exact ⟨hplain, _, rfl, (ih _).mpr ⟨rfl, hall, (List.isChain_cons_cons.mp hchain).2⟩⟩

/-- A plain text has no code points that take two units. -/
theorem units_of_plain {text : List CodePoint} (h : Plain (text.map Fin.val)) :
    (units text).map Fin.val = text.map Fin.val := by
  have hall := List.forall_mem_map.mp h.1
  rw [units, List.map_flatMap, ← List.flatMap_singleton' (text.map Fin.val), List.flatMap_map]
  refine List.flatMap_congr fun p hp => ?_
  have hlt : p.val < 0x10000 := by
    have := hall p hp
    unfold IsPlain IsHigh IsLow at this
    omega
  rw [unitsOf, dif_pos hlt, List.map_singleton]

/-- Plain texts with the same units are the same. -/
theorem units_injOn_plain {text text' : List CodePoint} (h : Plain (text.map Fin.val))
    (h' : Plain (text'.map Fin.val)) (heq : units text = units text') : text = text' := by
  refine Fin.val_injective.list_map ?_
  rw [← units_of_plain h, ← units_of_plain h', heq]

theorem plain_units_iff {text : List CodePoint} :
    Plain ((units text).map Fin.val) ↔ Plain (text.map Fin.val) := by
  refine ⟨fun h => ?_, fun h => (units_of_plain h).symm ▸ h⟩
  -- A code point that takes two units would be a pair.
  have hsmall : ∀ p ∈ text, p.val < 0x10000 := by
    intro p hp
    by_contra hle
    have hlt := p.isLt
    obtain ⟨before, after, rfl⟩ := List.append_of_mem hp
    have hunits : (units (before ++ p :: after)).map Fin.val =
        (units before).map Fin.val ++ ((unitsOf p).map Fin.val ++ (units after).map Fin.val) := by
      simp [units]
    have hchain := h.2
    rw [hunits] at hchain
    have hpair := hchain.right_of_append.left_of_append
    rw [unitsOf, dif_neg hle] at hpair
    refine (List.isChain_cons_cons.mp hpair).1 ?_
    change IsHigh (0xD800 + (p.val - 0x10000) / 0x400) ∧ IsLow (0xDC00 + (p.val - 0x10000) % 0x400)
    unfold IsHigh IsLow
    omega
  have hsame : (units text).map Fin.val = text.map Fin.val := by
    rw [units, List.map_flatMap, ← List.flatMap_singleton' (text.map Fin.val), List.flatMap_map]
    refine List.flatMap_congr fun p hp => ?_
    rw [unitsOf, dif_pos (hsmall p hp), List.map_singleton]
  exact hsame ▸ h

/-- **The same is written of a text** exactly if a script sees this text, and it is plain. -/
theorem dumps_eq_quoteUnits_iff {text : List CodePoint} {us : List CodeUnit} :
    dumps text = quoteUnits us ↔ us = units text ∧ Plain (text.map Fin.val) := by
  have hbody : (text.flatMap fun p => (unitsOf p).flatMap asciiEscape) =
      (units text).flatMap asciiEscape := List.flatMap_assoc.symm
  rw [dumps, quoteUnits, String.ofList_inj, hbody, List.cons_append, List.cons_append,
    List.cons_inj_right, List.append_cancel_right_eq, eq_comm, quoteBody_eq_iff]
  constructor
  · rintro ⟨rfl, hplain⟩
    exact ⟨rfl, plain_units_iff.mp hplain⟩
  · rintro ⟨rfl, hplain⟩
    exact ⟨rfl, plain_units_iff.mpr hplain⟩

/-! ### Quotes are escaped -/

theorem hexDigit_ne {n : ℕ} (h : n < 16) : hexDigit n ≠ '"' ∧ hexDigit n ≠ '\\' := by
  revert n
  decide

theorem body_unicodeEscape {u : ℕ} {cs : List Char} (h : Body cs) :
    Body (unicodeEscape u ++ cs) := by
  have hdigit : ∀ (n : ℕ) {cs : List Char}, Body cs → Body (hexDigit (n % 16) :: cs) :=
    fun n _ hcs =>
      have hne := hexDigit_ne (Nat.mod_lt n (by decide : 0 < 16))
      .plain hne.1 hne.2 hcs
  exact .escaped (hdigit _ (hdigit _ (hdigit _ (hdigit _ h))))

theorem body_escapeControl {u : ℕ} {escape cs : List Char} (h : escapeControl u = some escape)
    (hcs : Body cs) : Body (escape ++ cs) := by
  rcases escapeControl_spec u with ⟨hnone, -⟩ | ⟨-, c, hsome⟩ | ⟨-, hsome⟩
  · rw [hnone] at h
    cases h
  · obtain rfl := Option.some.inj (hsome.symm.trans h)
    exact .escaped hcs
  · obtain rfl := Option.some.inj (hsome.symm.trans h)
    exact body_unicodeEscape hcs

/-- A character that is not escaped is no quote and no backslash. -/
theorem body_ofNat {u : ℕ} {cs : List Char} (hcontrol : escapeControl u = none) (h : Body cs) :
    Body (Char.ofNat u :: cs) := by
  have hne : u ≠ 0x22 ∧ u ≠ 0x5C := by
    constructor <;>
      · rintro rfl
        cases hcontrol
  have hchar : ∀ c : Char, c.toNat ≠ 0 → u ≠ c.toNat → Char.ofNat u ≠ c := by
    rintro c hzero hu rfl
    by_cases hvalid : u.isValidChar
    · exact hu (toNat_ofNat hvalid).symm
    · refine hzero ?_
      rw [Char.ofNat, dif_neg hvalid]
      rfl
  exact .plain (hchar '"' (by decide) hne.1) (hchar '\\' (by decide) hne.2) h

theorem isQuoted_dumps (text : List CodePoint) : IsQuoted (dumps text) := by
  refine ⟨_, ?_, String.toList_ofList⟩
  rw [show (text.flatMap fun p => (unitsOf p).flatMap asciiEscape) =
    (units text).flatMap asciiEscape from List.flatMap_assoc.symm]
  induction units text with
  | nil => exact .nil
  | cons u us ih =>
    rw [List.flatMap_cons, asciiEscape]
    cases hcontrol : escapeControl u with
    | some escape => exact body_escapeControl hcontrol ih
    | none =>
      rw [Option.getD_none]
      split
      · exact body_ofNat hcontrol ih
      · exact body_unicodeEscape ih

theorem body_quoteUnit {u : CodeUnit} {cs : List Char} (h : Body cs) : Body (quoteUnit u ++ cs) := by
  unfold quoteUnit
  cases hcontrol : escapeControl u with
  | some escape => exact body_escapeControl hcontrol h
  | none =>
    rw [Option.getD_none]
    split
    · exact body_unicodeEscape h
    · exact body_ofNat hcontrol h

theorem isQuoted_quoteUnits (text : List CodeUnit) : IsQuoted (quoteUnits text) := by
  refine ⟨_, ?_, String.toList_ofList⟩
  induction text using quoteBody.induct with
  | case1 => exact .nil
  | case2 u =>
    rw [quoteBody, ← List.append_nil (quoteUnit u)]
    exact body_quoteUnit .nil
  | case3 u u' us hpair ih =>
    rw [quoteBody, if_pos hpair]
    have htoNat := le_toNat_pairChar hpair.1 hpair.2
    refine .plain ?_ ?_ ih <;>
      · intro hc
        rw [hc] at htoNat
        exact absurd htoNat (by decide)
  | case4 u u' us hpair ih =>
    rw [quoteBody, if_neg hpair]
    exact body_quoteUnit ih

end Js
