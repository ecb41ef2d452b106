import Mathlib.Data.Nat.Notation

/-!
# Values of JSON, and their texts

A value is built from numbers and texts that are left open, and `JSON.stringify` writes it in one of
two ways: without any blanks, or with an indentation. The two texts of an object are different if the
second one ends a line (`Js.stringify_ne_line`).
-/

namespace Js

/-- A value of JSON, with texts in `σ` and numbers in `ν`. -/
inductive Json (σ ν : Type) where
  | null
  | bool (b : Bool)
  | number (n : ν)
  | string (s : σ)
  | array (items : List (Json σ ν))
  | object (members : List (σ × Json σ ν))

/-! ### Quoting -/

def hexDigit (n : ℕ) : Char := if n < 10 then Char.ofNat (48 + n) else Char.ofNat (87 + n)

/-- A code unit as an escape sequence of four digits. -/
def unicodeEscape (unit : ℕ) : List Char :=
  ['\\', 'u', hexDigit (unit / 4096 % 16), hexDigit (unit / 256 % 16), hexDigit (unit / 16 % 16),
    hexDigit (unit % 16)]

/-- The characters that no text of JSON has as they are. -/
def escapeControl (unit : ℕ) : Option (List Char) :=
  if unit = 0x22 then some ['\\', '"']
  else if unit = 0x5C then some ['\\', '\\']
  else if unit = 0x08 then some ['\\', 'b']
  else if unit = 0x09 then some ['\\', 't']
  else if unit = 0x0A then some ['\\', 'n']
  else if unit = 0x0C then some ['\\', 'f']
  else if unit = 0x0D then some ['\\', 'r']
  else if unit < 0x20 then some (unicodeEscape unit)
  else none

/-- A text between quotes. -/
def quote (text : String) : String :=
  String.ofList ('"' :: text.toList.flatMap (fun c => (escapeControl c.toNat).getD [c]) ++ ['"'])

section

variable {σ ν : Type} (quoteText : σ → String) (numberText : ν → String)

/-! ### Without blanks -/

mutual

/-- `JSON.stringify(value)`. -/
def Json.stringify : Json σ ν → String
  | .null => "null"
  | .bool b => if b then "true" else "false"
  | .number n => numberText n
  | .string s => quoteText s
  | .array items => "[" ++ ",".intercalate (stringifyItems items) ++ "]"
  | .object members => "\x7b" ++ ",".intercalate (stringifyMembers members) ++ "\x7d"

def stringifyItems : List (Json σ ν) → List String
  | [] => []
  | item :: items => item.stringify :: stringifyItems items

def stringifyMembers : List (σ × Json σ ν) → List String
  | [] => []
  | (key, value) :: members => (quoteText key ++ ":" ++ value.stringify) :: stringifyMembers members

end

/-! ### With an indentation of two -/

/-- The lines between two brackets, or nothing. -/
def bracket (left right indent : String) : List String → String
  | [] => left ++ right
  | lines => left ++ "\n" ++ indent ++ "  " ++ (",\n" ++ indent ++ "  ").intercalate lines ++ "\n" ++
      indent ++ right

mutual

/-- `JSON.stringify(value, null, 2)`, within lines of an indentation. -/
def Json.indented (indent : String) : Json σ ν → String
  | .null => "null"
  | .bool b => if b then "true" else "false"
  | .number n => numberText n
  | .string s => quoteText s
  | .array items => bracket "[" "]" indent (indentedItems (indent ++ "  ") items)
  | .object members => bracket "\x7b" "\x7d" indent (indentedMembers (indent ++ "  ") members)

def indentedItems (indent : String) : List (Json σ ν) → List String
  | [] => []
  | item :: items => item.indented indent :: indentedItems indent items

def indentedMembers (indent : String) : List (σ × Json σ ν) → List String
  | [] => []
  | (key, value) :: members =>
    (quoteText key ++ ": " ++ value.indented indent) :: indentedMembers indent members

end

variable {quoteText numberText}

/-- **The text of an object is not a line**: it ends with a brace. -/
theorem stringify_ne_line {members : List (σ × Json σ ν)} (text : String) :
    (Json.object members).stringify quoteText numberText ≠ text ++ "\n" := by
  intro h
  have hlast := congrArg (fun s : String => s.toList.getLast?) h
  simp only [Json.stringify, String.toList_append, List.getLast?_append] at hlast
  cases hlast

end

end Js
