import Mathlib.Data.List.Sort
import Mathlib.Order.Defs.LinearOrder
import Mathlib.Data.List.Lex

/-!
# The code units of a text

A script sees a text as a list of code units, and this is how it orders texts: `sort()` compares
them unit by unit. The characters above the basic plane take two units from the surrogate range, so
the order is not the one of the characters; but different texts have different code units
(`Js.utf16_injective`), and what `sort()` makes of some texts does not depend on the order they
come in (`Js.sort_eq_of_perm`).
-/

namespace Js

/-- The code units of a character. -/
def codeUnits (c : Char) : List ℕ :=
  if c.toNat < 0x10000 then [c.toNat]
  else [0xD800 + (c.toNat - 0x10000) / 0x400, 0xDC00 + (c.toNat - 0x10000) % 0x400]

/-- The code units of a text. -/
def utf16 (text : String) : List ℕ := text.toList.flatMap codeUnits

/-- A character of the basic plane is not a surrogate. -/
theorem toNat_notMem_surrogates (c : Char) : c.toNat < 0xD800 ∨ 0xE000 ≤ c.toNat := by
  rcases c.valid with h | ⟨h, -⟩
  · exact .inl h
  · exact .inr h

theorem toNat_lt (c : Char) : c.toNat < 0x110000 := by
  rcases c.valid with h | ⟨-, h⟩
  · exact Nat.lt_trans h (by decide)
  · exact h

/-- **The first character can be read back**, whatever comes after it. -/
theorem codeUnits_append_inj {c c' : Char} {units units' : List ℕ}
    (h : codeUnits c ++ units = codeUnits c' ++ units') : c = c' ∧ units = units' := by
  have hc := toNat_notMem_surrogates c
  have hc' := toNat_notMem_surrogates c'
  have hlt := toNat_lt c
  have hlt' := toNat_lt c'
  unfold codeUnits at h
  split at h <;> split at h
  · obtain ⟨hunit, hrest⟩ := List.cons.inj h
    exact ⟨Char.toNat_inj.mp hunit, hrest⟩
  · have hunit := (List.cons.inj h).1
    omega
  · have hunit := (List.cons.inj h).1
    omega
  · obtain ⟨hhigh, htail⟩ := List.cons.inj h
    obtain ⟨hlow, hrest⟩ := List.cons.inj htail
    exact ⟨Char.toNat_inj.mp (by omega), hrest⟩

/-- **Different texts have different code units.** -/
theorem utf16_injective : Function.Injective utf16 := by
  have hchars : ∀ cs cs' : List Char, cs.flatMap codeUnits = cs'.flatMap codeUnits → cs = cs' := by
    have hne : ∀ (c : Char) (units : List ℕ), codeUnits c ++ units ≠ [] := by
      intro c units
      unfold codeUnits
      split <;> exact List.cons_ne_nil _ _
    intro cs
    induction cs with
    | nil =>
      intro cs' h
      cases cs' with
      | nil => rfl
      | cons c' cs' => exact absurd h.symm (hne c' _)
    | cons c cs ih =>
      intro cs' h
      cases cs' with
      | nil => exact absurd h (hne c _)
      | cons c' cs' =>
        obtain ⟨rfl, hrest⟩ := codeUnits_append_inj h
        rw [ih cs' hrest]
  exact fun text text' h => String.toList_inj.mp (hchars _ _ h)

/-- How texts are ordered by `sort()`. -/
def TextLE (text text' : String) : Prop := utf16 text ≤ utf16 text'

instance : DecidableRel TextLE := fun text text' =>
  inferInstanceAs (Decidable (utf16 text ≤ utf16 text'))

instance : Std.Total TextLE := ⟨fun _ _ => le_total _ _⟩

instance : IsTrans String TextLE := ⟨fun _ _ _ => le_trans⟩

instance : Std.Antisymm TextLE := ⟨fun _ _ h h' => utf16_injective (le_antisymm h h')⟩

/-- `texts.sort()`. -/
def sort (texts : List String) : List String := texts.insertionSort TextLE

theorem sort_perm (texts : List String) : (sort texts).Perm texts := List.perm_insertionSort _ _

/-- **The order the texts come in does not matter.** -/
theorem sort_eq_of_perm {texts texts' : List String} (h : texts.Perm texts') :
    sort texts = sort texts' := by
  have hsorted : ∀ texts, (sort texts).Pairwise TextLE := List.pairwise_insertionSort TextLE
  exact (((sort_perm texts).trans h).trans (sort_perm texts').symm).eq_of_pairwise'
    (hsorted texts) (hsorted texts')

end Js
