import Mathlib.Data.List.Basic
import Mathlib.Data.List.DropRight

/-!
# Texts as a script handles them

The three things a script does to the texts it builds keys from: it trims them, it
splits them at a separator, and it joins two of them with a separator between. The
first two lose information, the third loses some too: which of the separators is the one
that was put in cannot be seen afterwards, unless one of the halves has none of its own.

* `Js.join_left_inj`: the half after the *last* separator can be read back;
* `Js.split_join`: so can the half before the *first*;
* `Js.split_join_eq_append`, `Js.split_inj`: all the pieces can, but not whose they were;
* `Js.trim_append`: what is put behind a text stops the trimming on that side.
-/

namespace Js

/-- White space and line terminators. -/
def isSpace (c : Char) : Bool :=
  c.toNat ∈ [0x09, 0x0A, 0x0B, 0x0C, 0x0D, 0x20, 0xA0, 0x1680, 0x2028, 0x2029, 0x202F, 0x205F,
    0x3000, 0xFEFF] || (0x2000 ≤ c.toNat && c.toNat ≤ 0x200A)

/-- `text.trim()`. -/
def trim (text : String) : String :=
  String.ofList ((text.toList.dropWhile isSpace).rdropWhile isSpace)

/-- `text.split(sep)`. -/
def split (sep : Char) (text : String) : List String :=
  (text.toList.splitOn sep).map String.ofList

/-- Two texts with a separator between them. -/
def join (sep : Char) (left right : String) : String := left ++ sep.toString ++ right

/-- The first `n` code units of some characters. Half of a character that takes two is
stored as the replacement character. -/
def sliceChars : ℕ → List Char → List Char
  | 0, _ => []
  | _, [] => []
  | n + 1, c :: cs =>
    if c.toNat < 0x10000 then c :: sliceChars n cs
    else if n = 0 then ['\uFFFD'] else c :: sliceChars (n - 1) cs

/-- `text.slice(0, n)`. -/
def slice (n : ℕ) (text : String) : String := String.ofList (sliceChars n text.toList)

/-- `text.toLowerCase()`, of a text in ASCII. -/
def toLowerCase (text : String) : String := String.ofList (text.toList.map Char.toLower)

/-- `BigInt(text)`, of a decimal numeral without a sign; the empty one is 0. -/
def bigInt (text : String) : Option ℕ :=
  let digits := (trim text).toList
  if digits.all Char.isDigit then some (Nat.ofDigitChars 10 digits 0) else none

/-- The bytes of a text. -/
def toUtf8Bytes (text : String) : List UInt8 := text.toUTF8.data.toList

/-! ### Joining -/

section

variable {sep : Char} {left right left' right' : String}

theorem toList_join : (join sep left right).toList = left.toList ++ sep :: right.toList := by
  simp [join]

/-- **The half after the last separator can be read back**, and then the other half
too. -/
theorem join_left_inj (hright : sep ∉ right.toList) (hright' : sep ∉ right'.toList)
    (h : join sep left right = join sep left' right') : left = left' ∧ right = right' := by
  have hlist := congrArg String.toList h
  rw [toList_join, toList_join] at hlist
  -- Read backwards, the last separator is the first one.
  have hsplit := congrArg (fun l => l.reverse.splitOn sep) hlist
  simp only [List.reverse_append, List.reverse_cons, List.append_assoc, List.singleton_append]
    at hsplit
  rw [List.splitOn_append_cons_self_of_not_mem (by rwa [List.mem_reverse]),
    List.splitOn_append_cons_self_of_not_mem (by rwa [List.mem_reverse])] at hsplit
  obtain rfl : right = right' :=
    String.toList_inj.mp (List.reverse_injective (List.cons.inj hsplit).1)
  exact ⟨String.toList_inj.mp (List.append_cancel_right hlist), rfl⟩

/-- **The half before the first separator can be read back.** -/
theorem split_join (hleft : sep ∉ left.toList) :
    split sep (join sep left right) = left :: split sep right := by
  rw [split, toList_join, List.splitOn_append_cons_self_of_not_mem hleft, List.map_cons,
    String.ofList_toList, split]

theorem split_of_not_mem (h : sep ∉ left.toList) : split sep left = [left] := by
  rw [split, List.splitOn_eq_singleton h, List.map_singleton, String.ofList_toList]

/-- **The pieces of two texts come one after the other**, whatever separators they have. -/
theorem split_join_eq_append :
    split sep (join sep left right) = split sep left ++ split sep right := by
  rw [split, toList_join, List.splitOn_append_cons_self, List.map_append, split, split]

theorem length_splitOn (chars : List Char) : (chars.splitOn sep).length = chars.count sep + 1 := by
  induction chars with
  | nil => rfl
  | cons c chars ih =>
    rw [List.splitOn_cons_eq_if_modifyHead, List.count_cons]
    by_cases hc : c == sep
    · rw [if_pos hc, List.length_cons, ih, if_pos hc]
    · rw [if_neg hc, List.length_modifyHead, ih, if_neg hc, Nat.add_zero]

/-- There is one piece more than there are separators. -/
theorem length_split : (split sep left).length = left.toList.count sep + 1 := by
  rw [split, List.length_map, length_splitOn]

/-- The pieces determine the text. -/
theorem split_inj : split sep left = split sep left' ↔ left = left' := by
  refine ⟨fun h => ?_, fun h => h ▸ rfl⟩
  have hpieces : left.toList.splitOn sep = left'.toList.splitOn sep :=
    List.map_injective_iff.mpr (fun _ _ hofList => String.ofList_injective hofList) h
  have hlist := congrArg (List.intercalate [sep]) hpieces
  rw [List.intercalate_splitOn, List.intercalate_splitOn] at hlist
  exact String.toList_inj.mp hlist

end

/-! ### Numerals -/

/-- A numeral has digits only. -/
theorem isDigit_of_mem_toString {c : Char} {n : ℕ} (h : c ∈ (toString n).toList) :
    c.isDigit = true := by
  rw [Nat.toString_eq_ofList_toDigits, String.toList_ofList] at h
  exact Nat.isDigit_of_mem_toDigits (by decide) (by decide) h

theorem not_mem_toString {sep : Char} (hsep : sep.isDigit = false) (n : ℕ) :
    sep ∉ (toString n).toList := by
  intro hmem
  rw [isDigit_of_mem_toString hmem] at hsep
  exact absurd hsep (by decide)

theorem toString_ne_empty (n : ℕ) : toString n ≠ "" := by
  intro h
  have hlist := congrArg String.toList h
  rw [Nat.toString_eq_ofList_toDigits, String.toList_ofList] at hlist
  exact Nat.toDigits_ne_nil hlist

/-- A numeral ends with a digit. -/
theorem toList_toString (n : ℕ) :
    ∃ digits last, (toString n).toList = digits ++ [last] ∧ last.isDigit = true := by
  rcases List.eq_nil_or_concat (toString n).toList with hnil | ⟨digits, last, hlast⟩
  · exact absurd (String.toList_inj.mp (hnil.trans String.toList_empty.symm)) (toString_ne_empty n)
  · rw [List.concat_eq_append] at hlast
    have hmem : last ∈ (toString n).toList :=
      hlast ▸ List.mem_append_right _ (List.mem_singleton_self _)
    exact ⟨digits, last, hlast, isDigit_of_mem_toString hmem⟩

theorem toString_injective {m n : ℕ} (h : toString m = toString n) : m = n := by
  have hlist := congrArg String.toList h
  rw [Nat.toString_eq_ofList_toDigits, Nat.toString_eq_ofList_toDigits, String.toList_ofList,
    String.toList_ofList] at hlist
  have hvalue := congrArg (fun digits => Nat.ofDigitChars 10 digits 0) hlist
  simpa using hvalue

/-! ### Trimming -/

theorem isSpace_of_isDigit {c : Char} (h : c.isDigit = true) : isSpace c = false := by
  rw [Char.isDigit, Bool.and_eq_true, decide_eq_true_eq, decide_eq_true_eq] at h
  have hlow : 48 ≤ c.toNat := h.1
  have hhigh : c.toNat ≤ 57 := h.2
  simp only [isSpace, List.mem_cons, List.not_mem_nil, or_false, Bool.or_eq_false_iff,
    decide_eq_false_iff_not, Bool.and_eq_false_iff]
  omega

/-- **What is put behind a text stops the trimming on that side**, if it begins and ends
with something to see. -/
theorem trim_append {text tail : String} {first last : Char} {middle : List Char}
    (htail : tail.toList = first :: middle ++ [last]) (hfirst : isSpace first = false)
    (hlast : isSpace last = false) :
    trim (text ++ tail) = String.ofList (text.toList.dropWhile isSpace) ++ tail := by
  have hdrop : tail.toList.dropWhile isSpace = tail.toList := by
    rw [htail, List.cons_append, List.dropWhile_cons_of_neg (by simp [hfirst])]
  have hstart : (text.toList ++ tail.toList).dropWhile isSpace =
      text.toList.dropWhile isSpace ++ tail.toList := by
    rw [List.dropWhile_append]
    split
    next hempty => rw [hdrop, List.isEmpty_iff.mp hempty, List.nil_append]
    next => rfl
  have hend : (text.toList.dropWhile isSpace ++ tail.toList).rdropWhile isSpace =
      text.toList.dropWhile isSpace ++ tail.toList := by
    rw [htail, ← List.append_assoc, List.rdropWhile_concat_neg _ _ _ (by simp [hlast])]
  rw [trim, String.toList_append, hstart, hend, String.ofList_append, String.ofList_toList]

end Js
