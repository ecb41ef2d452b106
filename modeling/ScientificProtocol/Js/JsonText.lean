import ScientificProtocol.Js.Json
import Mathlib.Data.List.Basic
import Mathlib.Data.List.Forall2

/-!
# Reading the text of a value back

A value whose numbers and texts are written already is determined by its text
(`Js.stringify_injective`). A number ends where a comma or a closing bracket comes, a text where its
closing quote does, and anything else is told apart by its first character. So two encoders write
the same text for two values exactly if they write the same numbers and texts at the same places.
-/

namespace Js

section

variable {σ ν : Type}

/-- Induction over the values of JSON. -/
theorem Json.induction {P : Json σ ν → Prop} (null : P .null) (bool : ∀ b, P (.bool b))
    (number : ∀ n, P (.number n)) (string : ∀ s, P (.string s))
    (array : ∀ items, (∀ item ∈ items, P item) → P (.array items))
    (object : ∀ members, (∀ member ∈ members, P member.2) → P (.object members))
    (value : Json σ ν) : P value :=
  @Json.rec σ ν P (fun items => ∀ item ∈ items, P item)
    (fun members => ∀ member ∈ members, P member.2) (fun member => P member.2)
    null bool number string array object (fun _ h => absurd h List.not_mem_nil)
    (fun _ _ hitem hitems => List.forall_mem_cons.mpr ⟨hitem, hitems⟩)
    (fun _ h => absurd h List.not_mem_nil)
    (fun _ _ hmember hmembers => List.forall_mem_cons.mpr ⟨hmember, hmembers⟩)
    (fun _ _ h => h) value

mutual

/-- The texts of a value, with the keys of its objects, and its numbers. -/
def Json.All (p : σ → Prop) (q : ν → Prop) : Json σ ν → Prop
  | .null | .bool _ => True
  | .number n => q n
  | .string s => p s
  | .array items => allItems p q items
  | .object members => allMembers p q members

def allItems (p : σ → Prop) (q : ν → Prop) : List (Json σ ν) → Prop
  | [] => True
  | item :: items => item.All p q ∧ allItems p q items

def allMembers (p : σ → Prop) (q : ν → Prop) : List (σ × Json σ ν) → Prop
  | [] => True
  | (key, value) :: members => (p key ∧ value.All p q) ∧ allMembers p q members

end

mutual

/-- No object of a value has a key twice. -/
def Json.Distinct : Json σ ν → Prop
  | .null | .bool _ | .number _ | .string _ => True
  | .array items => distinctItems items
  | .object members => (members.map Prod.fst).Nodup ∧ distinctMembers members

def distinctItems : List (Json σ ν) → Prop
  | [] => True
  | item :: items => item.Distinct ∧ distinctItems items

def distinctMembers : List (σ × Json σ ν) → Prop
  | [] => True
  | (_, value) :: members => value.Distinct ∧ distinctMembers members

end

theorem distinct_array {items : List (Json σ ν)} :
    (Json.array items).Distinct ↔ ∀ item ∈ items, item.Distinct := by
  rw [Json.Distinct]
  induction items with
  | nil => exact iff_of_true True.intro fun _ h => absurd h List.not_mem_nil
  | cons item items ih => rw [distinctItems, ih, List.forall_mem_cons]

theorem distinct_object {members : List (σ × Json σ ν)} :
    (Json.object members).Distinct ↔
      (members.map Prod.fst).Nodup ∧ ∀ member ∈ members, member.2.Distinct := by
  rw [Json.Distinct]
  refine and_congr Iff.rfl ?_
  induction members with
  | nil => exact iff_of_true True.intro fun _ h => absurd h List.not_mem_nil
  | cons member members ih => rw [distinctMembers, ih, List.forall_mem_cons]

variable {p : σ → Prop} {q : ν → Prop}

theorem all_array {items : List (Json σ ν)} :
    (Json.array items).All p q ↔ ∀ item ∈ items, item.All p q := by
  rw [Json.All]
  induction items with
  | nil => exact iff_of_true True.intro fun _ h => absurd h List.not_mem_nil
  | cons item items ih => rw [allItems, ih, List.forall_mem_cons]

theorem all_object {members : List (σ × Json σ ν)} :
    (Json.object members).All p q ↔ ∀ member ∈ members, p member.1 ∧ member.2.All p q := by
  rw [Json.All]
  induction members with
  | nil => exact iff_of_true True.intro fun _ h => absurd h List.not_mem_nil
  | cons member members ih => rw [allMembers, ih, List.forall_mem_cons]

variable {quoteText : σ → String} {numberText : ν → String}

theorem stringifyItems_eq (items : List (Json σ ν)) :
    stringifyItems quoteText numberText items = items.map (·.stringify quoteText numberText) := by
  induction items with
  | nil => rfl
  | cons item items ih => rw [stringifyItems, ih, List.map_cons]

theorem stringifyMembers_eq (members : List (σ × Json σ ν)) :
    stringifyMembers quoteText numberText members =
      members.map fun member =>
        quoteText member.1 ++ ":" ++ member.2.stringify quoteText numberText := by
  induction members with
  | nil => rfl
  | cons member members ih => rw [stringifyMembers, ih, List.map_cons]

end

/-! ### Where a part ends -/

/-- What is left of a text after a part of it. -/
def Ends (rest : List Char) : Prop := ∀ c ∈ rest.head?, c = ',' ∨ c = ']' ∨ c = '\x7d'

/-- Such a part is told from others that are written the same way. -/
def ReadsBack {α : Type} (text : α → List Char) (good : α → Prop) (a : α) : Prop :=
  ∀ {a' rest rest'}, good a' → Ends rest → Ends rest' →
    text a ++ rest = text a' ++ rest' → a = a' ∧ rest = rest'

/-- **The parts between two brackets** can be told apart one by one, also where they are written in
two ways. -/
theorem forall₂_of_intercalate {α β : Type} {text : α → List Char} {text' : β → List Char}
    {R : α → β → Prop} {close : Char} (hclose : close = ']' ∨ close = '\x7d')
    {rest rest' : List Char} {as : List α} {bs : List β} (hnil : as = [] ↔ bs = [])
    (hparts : ∀ p ∈ as.zip bs, ∀ {rest rest'}, Ends rest → Ends rest' →
      text p.1 ++ rest = text' p.2 ++ rest' → R p.1 p.2 ∧ rest = rest')
    (heq : [','].intercalate (as.map text) ++ close :: rest =
      [','].intercalate (bs.map text') ++ close :: rest') :
    List.Forall₂ R as bs ∧ rest = rest' := by
  have hend : ∀ rest, Ends (close :: rest) := by
    rintro rest c hc
    obtain rfl := Option.some.inj hc
    exact .inr hclose
  have hcomma : ∀ rest, Ends (',' :: rest) := by
    rintro rest c hc
    obtain rfl := Option.some.inj hc
    exact .inl rfl
  have hne : close ≠ ',' := by rcases hclose with rfl | rfl <;> decide
  induction as generalizing bs with
  | nil =>
    obtain rfl := hnil.mp rfl
    exact ⟨.nil, (List.cons.inj heq).2⟩
  | cons a as ih =>
    cases bs with
    | nil => exact absurd (hnil.mpr rfl) (List.cons_ne_nil _ _)
    | cons b bs =>
      rw [List.zip_cons_cons] at hparts
      obtain ⟨hpart, hparts⟩ := List.forall_mem_cons.mp hparts
      -- What comes after a part is the closing bracket, or a comma and the next one.
      cases as with
      | nil =>
        cases bs with
        | nil =>
          obtain ⟨hab, hrest⟩ := hpart (hend rest) (hend rest') (by simpa using heq)
          exact ⟨.cons hab .nil, (List.cons.inj hrest).2⟩
        | cons b' bs =>
          obtain ⟨-, hrest⟩ := hpart (hend rest) (hcomma _) (by
            simpa [List.intercalate_cons_cons] using heq)
          exact absurd (List.cons.inj hrest).1 hne
      | cons a' as =>
        cases bs with
        | nil =>
          obtain ⟨-, hrest⟩ := hpart (hcomma _) (hend rest') (by
            simpa [List.intercalate_cons_cons] using heq)
          exact absurd (List.cons.inj hrest).1.symm hne
        | cons b' bs =>
          rw [List.map_cons, List.map_cons, List.map_cons, List.map_cons,
            List.intercalate_cons_cons, List.intercalate_cons_cons, List.append_assoc,
            List.append_assoc, List.append_assoc, List.append_assoc] at heq
          obtain ⟨hab, hrest⟩ := hpart (hcomma _) (hcomma _) heq
          obtain ⟨htail, hrest⟩ := ih (iff_of_false (List.cons_ne_nil _ _) (List.cons_ne_nil _ _))
            hparts (List.cons.inj hrest).2
          exact ⟨.cons hab htail, hrest⟩

section

variable {α : Type} {text : α → List Char} {good : α → Prop}

/-- The parts between two brackets. -/
theorem readsBack_intercalate (hstart : ∀ {a rest}, good a → ¬Ends (text a ++ rest))
    {close : Char} (hclose : close = ']' ∨ close = '\x7d') {rest rest' : List Char}
    {as as' : List α} (hgood : ∀ a ∈ as, good a ∧ ReadsBack text good a) (hgood' : ∀ a ∈ as', good a)
    (h : [','].intercalate (as.map text) ++ close :: rest =
      [','].intercalate (as'.map text) ++ close :: rest') : as = as' ∧ rest = rest' := by
  have hend : ∀ rest, Ends (close :: rest) := by
    rintro rest c hc
    obtain rfl := Option.some.inj hc
    exact .inr hclose
  have hfirst : ∀ a (as : List α) rest, ∃ after,
      [','].intercalate ((a :: as).map text) ++ close :: rest = text a ++ after := by
    intro a as rest
    cases as with
    | nil => exact ⟨close :: rest, by simp⟩
    | cons b as => exact ⟨_, by rw [List.map_cons, List.map_cons, List.intercalate_cons_cons,
        List.append_assoc, List.append_assoc]⟩
  have hnil : as = [] ↔ as' = [] := by
    cases as with
    | nil =>
      cases as' with
      | nil => exact Iff.rfl
      | cons a' as' =>
        obtain ⟨after, htext⟩ := hfirst a' as' rest'
        rw [htext] at h
        change close :: rest = _ at h
        exact absurd (h ▸ hend rest) (hstart (hgood' a' List.mem_cons_self))
    | cons a as =>
      cases as' with
      | nil =>
        obtain ⟨after, htext⟩ := hfirst a as rest
        rw [htext] at h
        change _ = close :: rest' at h
        exact absurd (h ▸ hend rest') (hstart (hgood a List.mem_cons_self).1)
      | cons a' as' => exact iff_of_false (List.cons_ne_nil _ _) (List.cons_ne_nil _ _)
  have hparts : ∀ p ∈ as.zip as', ∀ {rest rest'}, Ends rest → Ends rest' →
      text p.1 ++ rest = text p.2 ++ rest' → p.1 = p.2 ∧ rest = rest' := fun p hp _ _ =>
    (hgood p.1 (List.of_mem_zip hp).1).2 (hgood' p.2 (List.of_mem_zip hp).2)
  obtain ⟨hsame, hrest⟩ := forall₂_of_intercalate hclose hnil hparts h
  exact ⟨List.forall₂_eq_eq_eq ▸ hsame, hrest⟩

end

/-! ### Texts and numbers that are written -/

/-- What stands between the quotes of a text: every quote is escaped. -/
inductive Body : List Char → Prop where
  | nil : Body []
  | plain {c : Char} {cs : List Char} : c ≠ '"' → c ≠ '\\' → Body cs → Body (c :: cs)
  | escaped {c : Char} {cs : List Char} : Body cs → Body ('\\' :: c :: cs)

/-- A text between quotes. -/
def IsQuoted (text : String) : Prop := ∃ body, Body body ∧ text.toList = '"' :: body ++ ['"']

/-- A number does not have what it ends at in it. -/
def IsNumber (text : String) : Prop :=
  (∃ c cs, text.toList = c :: cs ∧ (c = '-' ∨ c.isDigit = true)) ∧
    ∀ c ∈ text.toList, c ≠ ',' ∧ c ≠ ']' ∧ c ≠ '\x7d'

theorem Body.append_inj {body body' rest rest' : List Char} (h : Body body) (h' : Body body')
    (heq : body ++ '"' :: rest = body' ++ '"' :: rest') : body = body' ∧ rest = rest' := by
  induction h generalizing body' with
  | nil =>
    cases h' with
    | nil => exact ⟨rfl, (List.cons.inj heq).2⟩
    | plain hquote => exact absurd (List.cons.inj heq).1.symm hquote
    | escaped => exact absurd (List.cons.inj heq).1 (by decide)
  | plain hquote hescape hbody ih =>
    cases h' with
    | nil => exact absurd (List.cons.inj heq).1 hquote
    | plain hquote' hescape' hbody' =>
      obtain ⟨rfl, hrest⟩ := List.cons.inj heq
      obtain ⟨rfl, rfl⟩ := ih hbody' hrest
      exact ⟨rfl, rfl⟩
    | escaped => exact absurd (List.cons.inj heq).1 hescape
  | escaped hbody ih =>
    cases h' with
    | nil => exact absurd (List.cons.inj heq).1 (by decide)
    | plain hquote' hescape' => exact absurd (List.cons.inj heq).1.symm hescape'
    | escaped hbody' =>
      obtain ⟨-, htail⟩ := List.cons.inj heq
      obtain ⟨rfl, hrest⟩ := List.cons.inj htail
      obtain ⟨rfl, rfl⟩ := ih hbody' hrest
      exact ⟨rfl, rfl⟩

/-- **A text ends where its closing quote is.** -/
theorem IsQuoted.append_inj {text text' : String} {rest rest' : List Char} (h : IsQuoted text)
    (h' : IsQuoted text') (heq : text.toList ++ rest = text'.toList ++ rest') :
    text = text' ∧ rest = rest' := by
  obtain ⟨body, hbody, htext⟩ := h
  obtain ⟨body', hbody', htext'⟩ := h'
  rw [htext, htext'] at heq
  simp only [List.cons_append, List.append_assoc, List.nil_append] at heq
  obtain ⟨rfl, rfl⟩ := hbody.append_inj hbody' (List.cons.inj heq).2
  exact ⟨String.toList_inj.mp (htext.trans htext'.symm), rfl⟩

/-- **A number ends where something comes that no number has in it.** -/
theorem IsNumber.append_inj {text text' : String} {rest rest' : List Char} (h : IsNumber text)
    (h' : IsNumber text') (hrest : Ends rest) (hrest' : Ends rest')
    (heq : text.toList ++ rest = text'.toList ++ rest') : text = text' ∧ rest = rest' := by
  have hchars : ∀ {cs cs' : List Char}, (∀ c ∈ cs, c ≠ ',' ∧ c ≠ ']' ∧ c ≠ '\x7d') →
      (∀ c ∈ cs', c ≠ ',' ∧ c ≠ ']' ∧ c ≠ '\x7d') → cs ++ rest = cs' ++ rest' →
        cs = cs' ∧ rest = rest' := by
    intro cs
    induction cs with
    | nil =>
      intro cs' _ h' heq
      cases cs' with
      | nil => exact ⟨rfl, heq⟩
      | cons c' cs' =>
        obtain ⟨hcomma, hbracket, hbrace⟩ := h' c' List.mem_cons_self
        rcases hrest c' (by rw [show rest = _ from heq]; rfl) with hc | hc | hc
        · exact absurd hc hcomma
        · exact absurd hc hbracket
        · exact absurd hc hbrace
    | cons c cs ih =>
      intro cs' h h' heq
      cases cs' with
      | nil =>
        obtain ⟨hcomma, hbracket, hbrace⟩ := h c List.mem_cons_self
        rcases hrest' c (by rw [show rest' = _ from heq.symm]; rfl) with hc | hc | hc
        · exact absurd hc hcomma
        · exact absurd hc hbracket
        · exact absurd hc hbrace
      | cons c' cs' =>
        obtain ⟨rfl, htail⟩ := List.cons.inj heq
        obtain ⟨rfl, hrests⟩ := ih (fun c hc => h c (List.mem_cons_of_mem _ hc))
          (fun c hc => h' c (List.mem_cons_of_mem _ hc)) htail
        exact ⟨rfl, hrests⟩
  obtain ⟨htext, hrests⟩ := hchars h.2 h'.2 heq
  exact ⟨String.toList_inj.mp htext, hrests⟩

/-! ### Values that are written -/

/-- A value whose texts and numbers are written already. -/
abbrev Written : Type := Json String String

/-- They are texts and numbers. -/
abbrev Written.Good (value : Written) : Prop := value.All IsQuoted IsNumber

/-- The text of a value. -/
def Written.chars (value : Written) : List Char := (value.stringify id id).toList

theorem chars_array (items : List Written) :
    Written.chars (.array items) = '[' :: ([','].intercalate (items.map Written.chars) ++ [']']) := by
  rw [Written.chars, Json.stringify, stringifyItems_eq, String.toList_append, String.toList_append,
    String.toList_intercalate, List.map_map]
  rfl

/-- The text of a member. -/
def memberChars (member : String × Written) : List Char :=
  member.1.toList ++ ':' :: member.2.chars

theorem chars_object (members : List (String × Written)) :
    Written.chars (.object members) =
      '{' :: ([','].intercalate (members.map memberChars) ++ ['}']) := by
  have hmember : (String.toList ∘ fun member : String × Written =>
      id member.1 ++ ":" ++ member.2.stringify id id) = memberChars := by
    funext member
    simp [memberChars, Written.chars]
  rw [Written.chars, Json.stringify, stringifyMembers_eq, String.toList_append,
    String.toList_append, String.toList_intercalate, List.map_map, hmember]
  rfl

/-- What a value starts with: a number for each kind of values. -/
def startOf (c : Char) : ℕ :=
  if c = 'n' then 0 else if c = 't' then 1 else if c = 'f' then 2 else if c = '"' then 3
  else if c = '[' then 4 else if c = '{' then 5
  else if c = ',' ∨ c = ']' ∨ c = '}' then 6 else 7

def Written.start : Written → ℕ
  | .null => 0
  | .bool true => 1
  | .bool false => 2
  | .string _ => 3
  | .array _ => 4
  | .object _ => 5
  | .number _ => 7

/-- **The first character tells the kind.** -/
theorem startOf_chars {value : Written} (h : value.Good) :
    ∃ c cs, value.chars = c :: cs ∧ startOf c = value.start := by
  cases value with
  | null => exact ⟨'n', _, rfl, rfl⟩
  | bool b =>
    cases b with
    | true => exact ⟨'t', _, rfl, rfl⟩
    | false => exact ⟨'f', _, rfl, rfl⟩
  | string s =>
    obtain ⟨body, -, htext⟩ := h
    exact ⟨'"', _, htext, rfl⟩
  | array items => exact ⟨'[', _, chars_array items, rfl⟩
  | object members => exact ⟨'{', _, chars_object members, rfl⟩
  | number n =>
    obtain ⟨⟨c, cs, htext, hc⟩, -⟩ := h
    refine ⟨c, cs, htext, ?_⟩
    rcases hc with rfl | hdigit
    · rfl
    · have hrange : 48 ≤ c.toNat ∧ c.toNat ≤ 57 := by
        rw [Char.isDigit, Bool.and_eq_true, decide_eq_true_eq, decide_eq_true_eq] at hdigit
        exact ⟨UInt32.le_iff_toNat_le.mp hdigit.1, UInt32.le_iff_toNat_le.mp hdigit.2⟩
      have hne : ∀ c' : Char, c'.toNat < 48 ∨ 57 < c'.toNat → c ≠ c' := by
        rintro c' hc' rfl
        omega
      simp only [startOf, hne 'n' (by decide), hne 't' (by decide), hne 'f' (by decide),
        hne '"' (by decide), hne '[' (by decide), hne '{' (by decide), hne ',' (by decide),
        hne ']' (by decide), hne '}' (by decide), if_false, or_self]
      rfl

theorem not_ends_chars {value : Written} {rest : List Char} (h : value.Good) :
    ¬Ends (value.chars ++ rest) := by
  obtain ⟨c, cs, htext, hstart⟩ := startOf_chars h
  intro hends
  rw [htext] at hends
  have hsix : startOf c = 6 := by
    rcases hends c rfl with rfl | rfl | rfl <;> rfl
  rw [hstart] at hsix
  cases value with
  | bool b => cases b <;> cases hsix
  | _ => cases hsix

theorem start_eq {value value' : Written} {rest rest' : List Char} (h : value.Good)
    (h' : value'.Good) (heq : value.chars ++ rest = value'.chars ++ rest') :
    value.start = value'.start := by
  obtain ⟨c, cs, htext, hstart⟩ := startOf_chars h
  obtain ⟨c', cs', htext', hstart'⟩ := startOf_chars h'
  rw [htext, htext'] at heq
  rw [← hstart, ← hstart', (List.cons.inj heq).1]

/-- The members of an object are told from others as their values are. -/
theorem readsBack_member {member : String × Written} (hkey : IsQuoted member.1)
    (hvalue : ReadsBack Written.chars Written.Good member.2) :
    ReadsBack memberChars (fun member => IsQuoted member.1 ∧ member.2.Good) member := by
  intro member' rest rest' hgood hrest hrest' heq
  simp only [memberChars, List.append_assoc, List.cons_append] at heq
  obtain ⟨hkeys, htail⟩ := hkey.append_inj hgood.1 heq
  obtain ⟨hvalues, hrests⟩ := hvalue hgood.2 hrest hrest' (List.cons.inj htail).2
  exact ⟨Prod.ext hkeys hvalues, hrests⟩

theorem not_ends_member {member : String × Written} {rest : List Char}
    (h : IsQuoted member.1 ∧ member.2.Good) : ¬Ends (memberChars member ++ rest) := by
  obtain ⟨⟨body, -, htext⟩, -⟩ := h
  intro hends
  rw [memberChars, htext] at hends
  rcases hends '"' rfl with hc | hc | hc <;> exact absurd hc (by decide)

/-- **A value is told from others.** -/
theorem readsBack_chars (value : Written) (h : value.Good) :
    ReadsBack Written.chars Written.Good value := by
  induction value using Json.induction with
  | null =>
    intro value' rest rest' h' _ _ heq
    have hstart := start_eq h h' heq
    cases value' with
    | null => exact ⟨rfl, List.append_cancel_left heq⟩
    | bool b => cases b <;> cases hstart
    | _ => cases hstart
  | bool b =>
    intro value' rest rest' h' _ _ heq
    have hstart := start_eq h h' heq
    cases value' with
    | bool b' =>
      obtain rfl : b = b' := by cases b <;> cases b' <;> first | rfl | cases hstart
      exact ⟨rfl, List.append_cancel_left heq⟩
    | _ => cases b <;> cases hstart
  | number n =>
    intro value' rest rest' h' hrest hrest' heq
    have hstart := start_eq h h' heq
    cases value' with
    | number n' =>
      obtain ⟨rfl, hrests⟩ := IsNumber.append_inj h h' hrest hrest' heq
      exact ⟨rfl, hrests⟩
    | bool b => cases b <;> cases hstart
    | _ => cases hstart
  | string s =>
    intro value' rest rest' h' _ _ heq
    have hstart := start_eq h h' heq
    cases value' with
    | string s' =>
      obtain ⟨rfl, hrests⟩ := IsQuoted.append_inj h h' heq
      exact ⟨rfl, hrests⟩
    | bool b => cases b <;> cases hstart
    | _ => cases hstart
  | array items ih =>
    intro value' rest rest' h' _ _ heq
    have hstart := start_eq h h' heq
    cases value' with
    | array items' =>
      rw [chars_array, chars_array] at heq
      simp only [List.cons_append, List.append_assoc, List.nil_append] at heq
      have hgood := all_array.mp h
      obtain ⟨rfl, hrests⟩ := readsBack_intercalate (fun hgood => not_ends_chars hgood) (.inl rfl)
        (fun item hitem => ⟨hgood item hitem, ih item hitem (hgood item hitem)⟩)
        (all_array.mp h') (List.cons.inj heq).2
      exact ⟨rfl, hrests⟩
    | bool b => cases b <;> cases hstart
    | _ => cases hstart
  | object members ih =>
    intro value' rest rest' h' _ _ heq
    have hstart := start_eq h h' heq
    cases value' with
    | object members' =>
      rw [chars_object, chars_object] at heq
      simp only [List.cons_append, List.append_assoc, List.nil_append] at heq
      have hgood := all_object.mp h
      obtain ⟨rfl, hrests⟩ := readsBack_intercalate (fun hgood => not_ends_member hgood) (.inr rfl)
        (fun member hmember => ⟨hgood member hmember, readsBack_member (hgood member hmember).1
          (ih member hmember (hgood member hmember).2)⟩)
        (all_object.mp h') (List.cons.inj heq).2
      exact ⟨rfl, hrests⟩
    | bool b => cases b <;> cases hstart
    | _ => cases hstart

/-- **The text of a value tells the value.** -/
theorem stringify_injective {value value' : Written} (h : value.Good) (h' : value'.Good)
    (heq : value.stringify id id = value'.stringify id id) : value = value' := by
  have hnil : Ends [] := fun c hc => by cases hc
  refine (readsBack_chars value h h' hnil hnil ?_).1
  rw [Written.chars, Written.chars, heq]

end Js
