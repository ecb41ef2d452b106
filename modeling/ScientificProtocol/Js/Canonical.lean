import ScientificProtocol.Js.JsonText

/-!
# Canonical texts

A canonical text of a value has the members of every object in the order of their keys, and no
blanks. What it is depends on the order and on how texts and numbers are written
(`Js.Json.serialize`). With the members put in order and the texts and numbers written, it is the
text of the value that is left (`Js.serialize_eq_stringify`), and tells it
(`Js.serialize_eq_iff`).
-/

namespace Js

section

variable {σ ν : Type} (le : σ → σ → Bool) (quoteText : σ → String)

/-- Members are compared by their keys. -/
def byKey {α : Type} (m m' : σ × α) : Bool := le m.1 m'.1

mutual

/-- **The canonical text of a value.** An object is written member by member, before they are put in
order. -/
def Json.serialize (numberText : ν → String) : Json σ ν → String
  | .null => "null"
  | .bool b => if b then "true" else "false"
  | .number n => numberText n
  | .string s => quoteText s
  | .array items => "[" ++ ",".intercalate (serializeItems numberText items) ++ "]"
  | .object members =>
    let entries := (serializeMembers numberText members).mergeSort (byKey le)
    "\x7b" ++ ",".intercalate (entries.map fun (key, text) => quoteText key ++ ":" ++ text) ++ "\x7d"

def serializeItems (numberText : ν → String) : List (Json σ ν) → List String
  | [] => []
  | item :: items => item.serialize numberText :: serializeItems numberText items

def serializeMembers (numberText : ν → String) : List (σ × Json σ ν) → List (σ × String)
  | [] => []
  | (key, value) :: members => (key, value.serialize numberText) :: serializeMembers numberText members

end

mutual

/-- A value with its members in order, and its texts and numbers written. -/
def Json.written (number : ν → Written) : Json σ ν → Written
  | .null => .null
  | .bool b => .bool b
  | .number n => number n
  | .string s => .string (quoteText s)
  | .array items => .array (writtenItems number items)
  | .object members =>
    .object (((writtenMembers number members).mergeSort (byKey le)).map fun (key, value) =>
      (quoteText key, value))

def writtenItems (number : ν → Written) : List (Json σ ν) → List Written
  | [] => []
  | item :: items => item.written number :: writtenItems number items

def writtenMembers (number : ν → Written) : List (σ × Json σ ν) → List (σ × Written)
  | [] => []
  | (key, value) :: members => (key, value.written number) :: writtenMembers number members

end

variable {le quoteText} {numberText : ν → String} {number : ν → Written}

theorem serializeItems_eq (items : List (Json σ ν)) :
    serializeItems le quoteText numberText items =
      items.map (·.serialize le quoteText numberText) := by
  induction items with
  | nil => rfl
  | cons item items ih => rw [serializeItems, ih, List.map_cons]

theorem serializeMembers_eq (members : List (σ × Json σ ν)) :
    serializeMembers le quoteText numberText members =
      members.map fun member => (member.1, member.2.serialize le quoteText numberText) := by
  induction members with
  | nil => rfl
  | cons member members ih => rw [serializeMembers, ih, List.map_cons]

theorem writtenItems_eq (items : List (Json σ ν)) :
    writtenItems le quoteText number items = items.map (·.written le quoteText number) := by
  induction items with
  | nil => rfl
  | cons item items ih => rw [writtenItems, ih, List.map_cons]

theorem writtenMembers_eq (members : List (σ × Json σ ν)) :
    writtenMembers le quoteText number members =
      members.map fun member => (member.1, member.2.written le quoteText number) := by
  induction members with
  | nil => rfl
  | cons member members ih => rw [writtenMembers, ih, List.map_cons]

/-- Members can be put in order before or after their values are changed. -/
theorem map_mergeSort_byKey {α β : Type} (f : α → β) (members : List (σ × α)) :
    (members.mergeSort (byKey le)).map (Prod.map id f) =
      (members.map (Prod.map id f)).mergeSort (byKey le) :=
  List.map_mergeSort fun _ _ _ _ => rfl

/-- Putting members in order puts their keys in order. -/
theorem map_fst_mergeSort_byKey {α : Type} (members : List (σ × α)) :
    (members.mergeSort (byKey le)).map Prod.fst = (members.map Prod.fst).mergeSort le :=
  List.map_mergeSort fun _ _ _ _ => rfl

/-- The canonical text of an array is that of another one if their items have the same texts. -/
theorem serialize_array_congr {ν' : Type} {numberText' : ν' → String} {items : List (Json σ ν)}
    {items' : List (Json σ ν')} (h : items.map (·.serialize le quoteText numberText) =
      items'.map (·.serialize le quoteText numberText')) :
    (Json.array items).serialize le quoteText numberText =
      (Json.array items').serialize le quoteText numberText' := by
  rw [Json.serialize, Json.serialize, serializeItems_eq, serializeItems_eq, h]

theorem serialize_object_congr {ν' : Type} {numberText' : ν' → String}
    {members : List (σ × Json σ ν)} {members' : List (σ × Json σ ν')}
    (h : members.map (fun member => (member.1, member.2.serialize le quoteText numberText)) =
      members'.map fun member => (member.1, member.2.serialize le quoteText numberText')) :
    (Json.object members).serialize le quoteText numberText =
      (Json.object members').serialize le quoteText numberText' := by
  rw [Json.serialize, Json.serialize, serializeMembers_eq, serializeMembers_eq, h]

theorem toList_serialize_array (items : List (Json σ ν)) :
    ((Json.array items).serialize le quoteText numberText).toList =
      '[' :: ([','].intercalate (items.map fun item =>
        (item.serialize le quoteText numberText).toList) ++ [']']) := by
  rw [Json.serialize, serializeItems_eq, String.toList_append, String.toList_append,
    String.toList_intercalate, List.map_map]
  rfl

theorem toList_serialize_object (members : List (σ × Json σ ν)) :
    ((Json.object members).serialize le quoteText numberText).toList =
      '{' :: ([','].intercalate ((members.mergeSort (byKey le)).map fun member =>
        (quoteText member.1).toList ++ ':' ::
          (member.2.serialize le quoteText numberText).toList) ++ ['}']) := by
  have hsort : (members.map fun member =>
      (member.1, member.2.serialize le quoteText numberText)).mergeSort (byKey le) =
        (members.mergeSort (byKey le)).map (Prod.map id (·.serialize le quoteText numberText)) :=
    (map_mergeSort_byKey _ _).symm
  rw [Json.serialize, serializeMembers_eq, String.toList_append, String.toList_append,
    String.toList_intercalate, hsort, List.map_map, List.map_map]
  refine congrArg (fun texts => '{' :: ([','].intercalate texts ++ ['}'])) ?_
  refine List.map_congr_left fun member _ => ?_
  simp

/-- **The canonical text** is the text of the value that is written. -/
theorem serialize_eq_stringify (hnumber : ∀ n, numberText n = (number n).stringify id id)
    (value : Json σ ν) :
    value.serialize le quoteText numberText =
      (value.written le quoteText number).stringify id id := by
  induction value using Json.induction with
  | null | bool | string => rfl
  | number n => exact hnumber n
  | array items ih =>
    have hitems : items.map (·.serialize le quoteText numberText) =
        items.map fun item => (item.written le quoteText number).stringify id id :=
      List.map_congr_left ih
    rw [Json.serialize, Json.written, Json.stringify, serializeItems_eq, writtenItems_eq,
      stringifyItems_eq, List.map_map, hitems]
    rfl
  | object members ih =>
    have hmembers : (members.map fun member =>
        (member.1, member.2.serialize le quoteText numberText)) =
          (members.map fun member => (member.1, member.2.written le quoteText number)).map
            (Prod.map id (·.stringify id id)) := by
      rw [List.map_map]
      exact List.map_congr_left fun member hmember => Prod.ext rfl (ih member hmember)
    rw [Json.serialize, Json.written, Json.stringify, serializeMembers_eq, writtenMembers_eq,
      stringifyMembers_eq, hmembers, ← map_mergeSort_byKey, List.map_map, List.map_map]
    rfl

/-- It is well written if the texts and the numbers are. -/
theorem good_written (hquoted : ∀ s, IsQuoted (quoteText s)) (hnumber : ∀ n, (number n).Good)
    (value : Json σ ν) : (value.written le quoteText number).Good := by
  induction value using Json.induction with
  | null | bool => exact True.intro
  | number n => exact hnumber n
  | string s => exact hquoted s
  | array items ih =>
    rw [Json.written, writtenItems_eq]
    exact all_array.mpr (List.forall_mem_map.mpr ih)
  | object members ih =>
    rw [Json.written, writtenMembers_eq]
    refine all_object.mpr (List.forall_mem_map.mpr fun member hmember => ⟨hquoted _, ?_⟩)
    obtain ⟨member', hmember', rfl⟩ := List.mem_map.mp (List.mem_mergeSort.mp hmember)
    exact ih member' hmember'

end

section

variable {σ σ' ν ν' : Type} {le : σ → σ → Bool} {le' : σ' → σ' → Bool} {quoteText : σ → String}
  {quoteText' : σ' → String} {numberText : ν → String} {numberText' : ν' → String}
  {number : ν → Written} {number' : ν' → Written}

/-- **Two canonical texts are the same** exactly if the same is written. -/
theorem serialize_eq_iff (hnumber : ∀ n, numberText n = (number n).stringify id id)
    (hnumber' : ∀ n, numberText' n = (number' n).stringify id id)
    (hquoted : ∀ s, IsQuoted (quoteText s)) (hquoted' : ∀ s, IsQuoted (quoteText' s))
    (hgood : ∀ n, (number n).Good) (hgood' : ∀ n, (number' n).Good) (value : Json σ ν)
    (value' : Json σ' ν') :
    value.serialize le quoteText numberText = value'.serialize le' quoteText' numberText' ↔
      value.written le quoteText number = value'.written le' quoteText' number' := by
  rw [serialize_eq_stringify hnumber, serialize_eq_stringify hnumber']
  refine ⟨?_, fun h => h ▸ rfl⟩
  exact stringify_injective (good_written hquoted hgood value) (good_written hquoted' hgood' value')

end

end Js
