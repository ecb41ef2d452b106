import ScientificProtocol.AgentRequests.CanonicalForm

/-!
# What a value becomes when it is sent

`JSON.stringify` and then `JSON.parse` leave out what is undefined, make `null` of numbers that are
not finite, and replace an object by what its `toJSON` gives; `stableSerialize` of
`src/shared/artifact-storage-bundles.ts` goes through the properties of a value as it is in memory.
Both write the same exactly for a value that is settled (`text_eq_image_iff`): nothing in it is
undefined but items of arrays, an array has all its items, and what an object with a `toJSON` gives
is what its properties are.

A text of a value without `null` is not the text of any other value (`same_of_text`).
-/

namespace ScientificProtocol.Artifacts

open Js AgentRequests

/-! ### Values in memory -/

/-- What is in memory where JSON has a number. -/
inductive Leaf where
  | number (n : JsNumber)
  | nan
  /-- `undefined`, a function or a symbol -/
  | absent
  /-- An item that an array does not have. -/
  | hole
  /-- An object with a `toJSON`, or with a primitive in it: its properties, with `null` for what
  is undefined in them, and what `JSON.stringify` writes of it. -/
  | exotic (properties : JsValue) (json : Option JsValue)

/-- A value that `JSON.stringify` accepts. -/
abbrev Value : Type := Json (List CodeUnit) Leaf

def Leaf.image : Leaf → Option JsValue
  | .number (.infinite _) | .nan => some .null
  | .number (.zero _) => some (.number (.zero false))
  | .number n => some (.number n)
  | .absent | .hole => none
  | .exotic _ json => json

mutual

/-- What `JSON.parse` makes of the `JSON.stringify` of a value. -/
def image : Value → Option JsValue
  | .null => some .null
  | .bool b => some (.bool b)
  | .number leaf => leaf.image
  | .string s => some (.string s)
  | .array items => some (.array (imageItems items))
  | .object members => some (.object (imageMembers members))

def imageItems : List Value → List JsValue
  | [] => []
  | item :: items => (image item).getD .null :: imageItems items

def imageMembers : List (List CodeUnit × Value) → List (List CodeUnit × JsValue)
  | [] => []
  | (key, value) :: members =>
    match image value with
    | some json => (key, json) :: imageMembers members
    | none => imageMembers members

end

/-- No key comes twice, and `JSON.stringify` writes no infinite numbers. -/
def Leaf.Good : Leaf → Prop
  | .exotic properties json => properties.Distinct ∧ ∀ j ∈ json, j.Distinct ∧ Finite j
  | _ => True

def Good (v : Value) : Prop := v.Distinct ∧ v.All (fun _ => True) Leaf.Good

section

variable (collator : Collator)

def Leaf.text : Leaf → String
  | .number n => n.text
  | .nan | .absent => "null"
  | .hole => ""
  | .exotic properties _ => Server.stableSerialize collator properties

def stableSerialize (v : Value) : String := v.serialize collator.le quoteUnits (Leaf.text collator)

mutual

/-- **What is in memory is what is sent**: no property is undefined, no array lacks an item, and an
object with a `toJSON` has the properties that this gives. -/
def Settled : Value → Prop
  | .null | .bool _ | .string _ => True
  | .number .hole => False
  | .number (.exotic properties json) =>
    SameTies collator (nulled properties) (nulled (json.getD .null))
  | .number _ => True
  | .array items => settledItems items
  | .object members => settledMembers members

def settledItems : List Value → Prop
  | [] => True
  | item :: items => Settled item ∧ settledItems items

def settledMembers : List (List CodeUnit × Value) → Prop
  | [] => True
  | (_, value) :: members => ((image value).isSome ∧ Settled value) ∧ settledMembers members

end

end

variable {collator : Collator}

theorem imageItems_eq (items : List Value) :
    imageItems items = items.map fun item => (image item).getD .null := by
  induction items with
  | nil => rfl
  | cons item items ih => rw [imageItems, ih, List.map_cons]

theorem imageMembers_eq (members : List (List CodeUnit × Value)) :
    imageMembers members =
      members.filterMap fun member => (image member.2).map fun json => (member.1, json) := by
  induction members with
  | nil => rfl
  | cons member members ih =>
    rw [imageMembers, List.filterMap_cons, ih]
    cases image member.2 <;> rfl

theorem settled_array {items : List Value} :
    Settled collator (.array items) ↔ ∀ item ∈ items, Settled collator item := by
  rw [Settled]
  induction items with
  | nil => exact iff_of_true True.intro fun _ h => absurd h List.not_mem_nil
  | cons item items ih => rw [settledItems, ih, List.forall_mem_cons]

theorem settled_object {members : List (List CodeUnit × Value)} :
    Settled collator (.object members) ↔
      ∀ member ∈ members, (image member.2).isSome ∧ Settled collator member.2 := by
  rw [Settled]
  induction members with
  | nil => exact iff_of_true True.intro fun _ h => absurd h List.not_mem_nil
  | cons member members ih => rw [settledMembers, ih, List.forall_mem_cons]

theorem Good.array {items : List Value} (h : Good (.array items)) : ∀ item ∈ items, Good item :=
  fun item hitem => ⟨distinct_array.mp h.1 item hitem, all_array.mp h.2 item hitem⟩

theorem Good.object {members : List (List CodeUnit × Value)} (h : Good (.object members)) :
    (members.map Prod.fst).Nodup ∧ ∀ member ∈ members, Good member.2 :=
  ⟨(distinct_object.mp h.1).1, fun member hmember =>
    ⟨(distinct_object.mp h.1).2 member hmember, (all_object.mp h.2 member hmember).2⟩⟩

theorem Good.of_object {members : List (List CodeUnit × Value)}
    (hnodup : (members.map Prod.fst).Nodup) (h : ∀ member ∈ members, Good member.2) :
    Good (.object members) :=
  ⟨distinct_object.mpr ⟨hnodup, fun member hmember => (h member hmember).1⟩,
    all_object.mpr fun member hmember => ⟨True.intro, (h member hmember).2⟩⟩

theorem Good.of_array {items : List Value} (h : ∀ item ∈ items, Good item) :
    Good (.array items) :=
  ⟨distinct_array.mpr fun item hitem => (h item hitem).1,
    all_array.mpr fun item hitem => (h item hitem).2⟩

/-- Where nothing is left out, each value is replaced. -/
theorem imageMembers_of_isSome {members : List (List CodeUnit × Value)}
    (h : ∀ member ∈ members, (image member.2).isSome = true) :
    imageMembers members = members.map (Prod.map id fun v => (image v).getD .null) := by
  induction members with
  | nil => rfl
  | cons member members ih =>
    obtain ⟨hmember, hmembers⟩ := List.forall_mem_cons.mp h
    obtain ⟨json, hjson⟩ := Option.isSome_iff_exists.mp hmember
    rw [imageMembers, hjson, ih hmembers, List.map_cons, Prod.map, hjson]
    rfl

theorem imageMembers_sublist (members : List (List CodeUnit × Value)) :
    ((imageMembers members).map Prod.fst).Sublist (members.map Prod.fst) := by
  induction members with
  | nil => exact .slnil
  | cons member members ih =>
    rw [imageMembers]
    cases image member.2 with
    | none => exact ih.cons _
    | some json => exact ih.cons_cons _

theorem mem_imageMembers {members : List (List CodeUnit × Value)} {key : List CodeUnit}
    {json : JsValue} :
    (key, json) ∈ imageMembers members ↔ ∃ v, (key, v) ∈ members ∧ image v = some json := by
  rw [imageMembers_eq, List.mem_filterMap]
  constructor
  · rintro ⟨member, hmember, himage⟩
    obtain ⟨json', hjson, heq⟩ := Option.map_eq_some_iff.mp himage
    obtain ⟨rfl, rfl⟩ := Prod.mk.inj heq
    exact ⟨member.2, hmember, hjson⟩
  · rintro ⟨v, hv, hjson⟩
    exact ⟨(key, v), hv, by rw [hjson]; rfl⟩

/-- **What is sent is a value of JSON** without infinite numbers. -/
theorem good_image {v : Value} (h : Good v) :
    ∀ json ∈ image v, json.Distinct ∧ Finite json := by
  induction v using Json.induction with
  | null | bool | string =>
    intro json hjson
    obtain rfl := Option.some.inj hjson
    exact ⟨True.intro, True.intro⟩
  | number leaf =>
    cases leaf with
    | number n =>
      intro json hjson
      cases n <;> obtain rfl := Option.some.inj hjson
      · exact ⟨True.intro, nofun⟩
      · exact ⟨True.intro, nofun⟩
      · exact ⟨True.intro, True.intro⟩
    | nan =>
      intro json hjson
      obtain rfl := Option.some.inj hjson
      exact ⟨True.intro, True.intro⟩
    | absent | hole => exact nofun
    | exotic properties json => exact h.2.2
  | array items ih =>
    have hitems : ∀ item ∈ imageItems items, item.Distinct ∧ Finite item := by
      rw [imageItems_eq]
      refine List.forall_mem_map.mpr fun item hitem => ?_
      cases hjson : image item with
      | none => exact ⟨True.intro, True.intro⟩
      | some json => exact ih item hitem (h.array item hitem) json hjson
    intro json hjson
    obtain rfl := Option.some.inj hjson
    exact ⟨distinct_array.mpr fun item hitem => (hitems item hitem).1,
      all_array.mpr fun item hitem => (hitems item hitem).2⟩
  | object members ih =>
    have hmembers : ∀ member ∈ imageMembers members, member.2.Distinct ∧ Finite member.2 := by
      intro member hmember
      obtain ⟨v, hv, hjson⟩ := mem_imageMembers.mp hmember
      exact ih _ hv (h.object.2 _ hv) _ hjson
    intro json hjson
    obtain rfl := Option.some.inj hjson
    exact ⟨distinct_object.mpr ⟨h.object.1.sublist (imageMembers_sublist members),
        fun member hmember => (hmembers member hmember).1⟩,
      all_object.mpr fun member hmember => ⟨True.intro, (hmembers member hmember).2⟩⟩

theorem exists_mem_zip {α β : Type} {l : List α} {l' : List β} (hlength : l.length = l'.length)
    {a : α} (ha : a ∈ l) : ∃ b ∈ l', (a, b) ∈ l.zip l' := by
  obtain ⟨i, hi, rfl⟩ := List.getElem_of_mem ha
  refine ⟨l'[i], List.getElem_mem _, ?_⟩
  have hlt : i < (l.zip l').length := by
    rw [List.length_zip]
    omega
  have hmem := List.getElem_mem hlt
  rwa [List.getElem_zip] at hmem

/-- What is settled is written as what is sent is. -/
theorem text_of_settled {v : Value} (h : Good v) (hsettled : Settled collator v) :
    stableSerialize collator v = Server.stableSerialize collator ((image v).getD .null) := by
  induction v using Json.induction with
  | null | bool | string => rfl
  | number leaf =>
    cases leaf with
    | number n => cases n <;> rfl
    | nan | absent => rfl
    | hole => exact hsettled.elim
    | exotic properties json =>
      refine (serverSerialize_eq_iff h.2.1 ?_).mpr hsettled
      cases json with
      | none => exact True.intro
      | some j => exact (h.2.2 j rfl).1
  | array items ih =>
    rw [image, Option.getD_some, imageItems_eq]
    refine serialize_array_congr ?_
    rw [List.map_map]
    exact List.map_congr_left fun item hitem =>
      ih item hitem (h.array item hitem) (settled_array.mp hsettled item hitem)
  | object members ih =>
    have hmembers := settled_object.mp hsettled
    rw [image, Option.getD_some,
      imageMembers_of_isSome fun member hmember => (hmembers member hmember).1]
    refine serialize_object_congr ?_
    rw [List.map_map]
    exact List.map_congr_left fun member hmember => Prod.ext rfl
      (ih member hmember (h.object.2 member hmember) (hmembers member hmember).2)

/-- Where a value that is sent ends can be told from its text. -/
theorem sent_append_inj {u v : JsValue} {rest rest' : List Char} (hrest : Ends rest)
    (hrest' : Ends rest') (h : (Server.stableSerialize collator u).toList ++ rest =
      (Server.stableSerialize collator v).toList ++ rest') :
    Server.stableSerialize collator u = Server.stableSerialize collator v ∧ rest = rest' := by
  have htext : ∀ w : JsValue, Server.stableSerialize collator w =
      (serverWritten collator w).stringify id id := serialize_eq_stringify JsNumber.text_eq
  have hgood : ∀ w : JsValue, (serverWritten collator w).Good :=
    good_written isQuoted_quoteUnits JsNumber.good_write
  rw [htext, htext] at h ⊢
  obtain ⟨hwritten, hrests⟩ := readsBack_chars _ (hgood u) (hgood v) hrest hrest' h
  exact ⟨congrArg (·.stringify id id) hwritten, hrests⟩

/-- **Only what is settled** is written as what is sent is, wherever it stands. -/
theorem settled_of_text {v : Value} (h : Good v) {rest rest' : List Char} (hrest : Ends rest)
    (hrest' : Ends rest') (heq : (stableSerialize collator v).toList ++ rest =
      (Server.stableSerialize collator ((image v).getD .null)).toList ++ rest') :
    Settled collator v ∧ rest = rest' := by
  induction v using Json.induction generalizing rest rest' with
  | null | bool | string => exact ⟨True.intro, List.append_cancel_left heq⟩
  | number leaf =>
    cases leaf with
    | number n => cases n <;> exact ⟨True.intro, List.append_cancel_left heq⟩
    | nan | absent => exact ⟨True.intro, List.append_cancel_left heq⟩
    | hole =>
      -- What follows an item does not start as `null` does.
      obtain rfl : rest = "null".toList ++ rest' := heq
      rcases hrest 'n' rfl with hc | hc | hc <;> exact absurd hc (by decide)
    | exotic properties json =>
      obtain ⟨htext, hrests⟩ := sent_append_inj hrest hrest' heq
      refine ⟨(serverSerialize_eq_iff h.2.1 ?_).mp htext, hrests⟩
      cases json with
      | none => exact True.intro
      | some j => exact (h.2.2 j rfl).1
  | array items ih =>
    rw [image, Option.getD_some, imageItems_eq, stableSerialize, Server.stableSerialize,
      toList_serialize_array, toList_serialize_array, List.map_map, List.cons_append,
      List.cons_append, List.append_assoc, List.append_assoc] at heq
    have hparts : ∀ p ∈ items.zip items, ∀ {rest rest'}, Ends rest → Ends rest' →
        (stableSerialize collator p.1).toList ++ rest =
          (Server.stableSerialize collator ((image p.2).getD .null)).toList ++ rest' →
            Settled collator p.1 ∧ rest = rest' := by
      intro p hp
      rw [List.zip, List.zipWith_self] at hp
      obtain ⟨item, hitem, rfl⟩ := List.mem_map.mp hp
      exact fun hrest hrest' heq => ih item hitem (h.array item hitem) hrest hrest' heq
    obtain ⟨hitems, hrests⟩ := forall₂_of_intercalate (R := fun item _ => Settled collator item)
      (.inl rfl) Iff.rfl hparts (List.cons.inj heq).2
    refine ⟨settled_array.mpr fun item hitem => ?_, hrests⟩
    exact (@List.forall₂_same _ (fun item _ => Settled collator item) _).mp hitems item hitem
  | object members ih =>
    rw [image, Option.getD_some, stableSerialize, Server.stableSerialize,
      toList_serialize_object, toList_serialize_object, List.cons_append,
      List.cons_append, List.append_assoc, List.append_assoc] at heq
    replace heq := (List.cons.inj heq).2
    -- Members with the same key stand in the same place, as no key comes twice.
    have hparts : ∀ p ∈ (members.mergeSort (byKey collator.le)).zip
        ((imageMembers members).mergeSort (byKey collator.le)), ∀ {rest rest'}, Ends rest →
          Ends rest' → ((quoteUnits p.1.1).toList ++ ':' ::
            (stableSerialize collator p.1.2).toList) ++ rest = ((quoteUnits p.2.1).toList ++ ':' ::
              (Server.stableSerialize collator p.2.2).toList) ++ rest' →
                Settled collator p.1.2 ∧ rest = rest' := by
      intro p hp rest rest' hrest hrest' heq
      obtain ⟨hleft, hright⟩ := List.of_mem_zip hp
      rw [List.append_assoc, List.append_assoc] at heq
      obtain ⟨hkeys, htail⟩ := (isQuoted_quoteUnits _).append_inj (isQuoted_quoteUnits _) heq
      obtain ⟨v, hv, hjson⟩ := mem_imageMembers.mp (List.mem_mergeSort.mp hright)
      have hsame : p.1 = (p.2.1, v) := List.inj_on_of_nodup_map h.object.1
        (List.mem_mergeSort.mp hleft) hv (quoteUnits_injective hkeys)
      refine ih p.1 (List.mem_mergeSort.mp hleft) (h.object.2 _ (List.mem_mergeSort.mp hleft))
        hrest hrest' ?_
      rw [hsame, hjson, ← hsame]
      exact (List.cons.inj htail).2
    have hnil : members.mergeSort (byKey collator.le) = [] ↔
        (imageMembers members).mergeSort (byKey collator.le) = [] := by
      refine ⟨fun hnone => ?_, fun hnone => by_contra fun hne => ?_⟩
      · have hlength := congrArg List.length hnone
        rw [List.length_mergeSort] at hlength
        obtain rfl : members = [] := List.eq_nil_of_length_eq_zero hlength
        rw [imageMembers, List.mergeSort_nil]
      · -- A member starts with a quote.
        obtain ⟨member, members', hcons⟩ := List.exists_cons_of_ne_nil hne
        obtain ⟨body, -, htext⟩ := isQuoted_quoteUnits member.1
        rw [hnone, hcons, List.map_cons, htext] at heq
        cases members' <;> exact absurd (List.cons.inj heq).1 (by decide)
    obtain ⟨hsettled, hrests⟩ := forall₂_of_intercalate
      (R := fun member _ => Settled collator member.2) (.inr rfl) hnil hparts heq
    -- As many members are sent as there are.
    have hlength := hsettled.length_eq
    rw [List.length_mergeSort, List.length_mergeSort, imageMembers_eq] at hlength
    refine ⟨settled_object.mpr fun member hmember => ⟨?_, ?_⟩, hrests⟩
    · have hkept := List.filterMap_length_eq_length.mp hlength.symm member hmember
      rwa [Option.isSome_map] at hkept
    · obtain ⟨member', -, hzip⟩ :=
        exists_mem_zip hsettled.length_eq (List.mem_mergeSort.mpr hmember)
      exact List.forall₂_zip hsettled hzip

/-- **What is in memory is written as what is sent is** exactly if it is settled. -/
theorem text_eq_image_iff {v : Value} (h : Good v) :
    stableSerialize collator v = Server.stableSerialize collator ((image v).getD .null) ↔
      Settled collator v := by
  have hnil : Ends [] := fun c hc => by cases hc
  exact ⟨fun heq => (settled_of_text h hnil hnil (by rw [heq])).1, text_of_settled h⟩

/-! ### What cannot be replaced -/

mutual

/-- There is no `null` in a value. -/
def NoNull : JsValue → Prop
  | .null => False
  | .bool _ | .number _ | .string _ => True
  | .array items => noNullItems items
  | .object members => noNullMembers members

def noNullItems : List JsValue → Prop
  | [] => True
  | item :: items => NoNull item ∧ noNullItems items

def noNullMembers : List (List CodeUnit × JsValue) → Prop
  | [] => True
  | (_, value) :: members => NoNull value ∧ noNullMembers members

end

theorem noNull_array {items : List JsValue} :
    NoNull (.array items) ↔ ∀ item ∈ items, NoNull item := by
  rw [NoNull]
  induction items with
  | nil => exact iff_of_true True.intro fun _ h => absurd h List.not_mem_nil
  | cons item items ih => rw [noNullItems, ih, List.forall_mem_cons]

theorem noNull_object {members : List (List CodeUnit × JsValue)} :
    NoNull (.object members) ↔ ∀ member ∈ members, NoNull member.2 := by
  rw [NoNull]
  induction members with
  | nil => exact iff_of_true True.intro fun _ h => absurd h List.not_mem_nil
  | cons member members ih => rw [noNullMembers, ih, List.forall_mem_cons]

/-- There is no `null` in what is sent of a value. -/
def NoNullSent (v : Value) : Prop := ∀ json ∈ image v, NoNull json

theorem noNullSent_object {members : List (List CodeUnit × Value)} :
    NoNullSent (.object members) ↔ ∀ member ∈ members, NoNullSent member.2 := by
  have hobject : NoNullSent (.object members) ↔ NoNull (.object (imageMembers members)) :=
    ⟨fun h => h _ rfl, fun h json hjson => Option.some.inj hjson ▸ h⟩
  rw [hobject, noNull_object]
  constructor
  · exact fun h member hmember json hjson =>
      h (member.1, json) (mem_imageMembers.mpr ⟨member.2, hmember, hjson⟩)
  · intro h member hmember
    obtain ⟨v, hv, hjson⟩ := mem_imageMembers.mp hmember
    exact h _ hv _ hjson

mutual

/-- A value with an infinite number for each `null`. -/
def inflated : JsValue → JsValue
  | .null => .number (.infinite false)
  | .bool b => .bool b
  | .number n => .number n
  | .string s => .string s
  | .array items => .array (inflatedItems items)
  | .object members => .object (inflatedMembers members)

def inflatedItems : List JsValue → List JsValue
  | [] => []
  | item :: items => inflated item :: inflatedItems items

def inflatedMembers : List (List CodeUnit × JsValue) → List (List CodeUnit × JsValue)
  | [] => []
  | (key, value) :: members => (key, inflated value) :: inflatedMembers members

end

theorem inflatedItems_eq (items : List JsValue) : inflatedItems items = items.map inflated := by
  induction items with
  | nil => rfl
  | cons item items ih => rw [inflatedItems, ih, List.map_cons]

theorem inflatedMembers_eq (members : List (List CodeUnit × JsValue)) :
    inflatedMembers members = members.map (Prod.map id inflated) := by
  induction members with
  | nil => rfl
  | cons member members ih => rw [inflatedMembers, ih, List.map_cons]; rfl

theorem distinct_inflated {v : JsValue} (h : v.Distinct) : (inflated v).Distinct := by
  induction v using Json.induction with
  | null | bool | number | string => exact True.intro
  | array items ih =>
    rw [inflated, inflatedItems_eq]
    exact distinct_array.mpr (List.forall_mem_map.mpr fun item hitem =>
      ih item hitem (distinct_array.mp h item hitem))
  | object members ih =>
    obtain ⟨hnodup, hmembers⟩ := distinct_object.mp h
    rw [inflated, inflatedMembers_eq]
    refine distinct_object.mpr ⟨?_, List.forall_mem_map.mpr fun member hmember =>
      ih member hmember (hmembers member hmember)⟩
    rw [List.map_map]
    exact hnodup

/-- It is written as the value is. -/
theorem text_inflated (v : JsValue) :
    Server.stableSerialize collator (inflated v) = Server.stableSerialize collator v := by
  induction v using Json.induction with
  | null | bool | number | string => rfl
  | array items ih =>
    rw [inflated, inflatedItems_eq]
    refine serialize_array_congr ?_
    rw [List.map_map]
    exact List.map_congr_left ih
  | object members ih =>
    rw [inflated, inflatedMembers_eq]
    refine serialize_object_congr ?_
    rw [List.map_map]
    exact List.map_congr_left fun member hmember => Prod.ext rfl (ih member hmember)

/-- It is the same value only if there was no `null`. -/
theorem noNull_of_same_inflated {v : JsValue} (h : Same (inflated v) v) : NoNull v := by
  induction v using Json.induction with
  | null => cases h
  | bool | number | string => exact True.intro
  | array items ih =>
    rw [inflated, inflatedItems_eq] at h
    cases h with
    | array _ hitems =>
      refine noNull_array.mpr fun item hitem => ih item hitem (hitems (inflated item, item) ?_)
      have hzip : (items.map inflated).zip (items.map id) = items.map fun a => (inflated a, id a) :=
        List.zip_map'
      rw [List.map_id] at hzip
      exact hzip ▸ List.mem_map_of_mem hitem
  | object members ih =>
    rw [inflated, inflatedMembers_eq] at h
    cases h with
    | object _ hvalues =>
      exact noNull_object.mpr fun member hmember => ih member hmember
        (hvalues _ (List.mem_map_of_mem hmember) member hmember rfl)

/-- What has the text of a value without `null` has no infinite numbers. -/
theorem nulled_eq_of_matches {u v : JsValue} (h : Same (nulled u) v) (hnull : NoNull v) :
    nulled u = u := by
  induction u using Json.induction generalizing v with
  | null | bool | string => rfl
  | number n =>
    cases n with
    | infinite negative =>
      cases h
      exact hnull.elim
    | zero | finite => rfl
  | array items ih =>
    rw [nulled, nulledItems_eq] at h ⊢
    cases h with
    | @array _ items' hlength hitems =>
      refine congrArg Json.array ((List.map_congr_left fun item hitem => ?_).trans (List.map_id _))
      obtain ⟨item', hitem', hmem⟩ := exists_mem_zip hlength (List.mem_map_of_mem hitem)
      exact ih item hitem (hitems _ hmem) (noNull_array.mp hnull item' hitem')
  | object members ih =>
    rw [nulled, nulledMembers_eq] at h ⊢
    cases h with
    | @object _ members' hkeys hvalues =>
      refine congrArg Json.object ((List.map_congr_left fun member hmember => ?_).trans
        (List.map_id _))
      have hkey : member.1 ∈ members'.map Prod.fst := by
        refine hkeys.mem_iff.mp ?_
        rw [List.map_map]
        exact List.mem_map_of_mem hmember
      obtain ⟨member', hmember', heq⟩ := List.mem_map.mp hkey
      exact Prod.ext rfl (ih member hmember
        (hvalues _ (List.mem_map_of_mem hmember) member' hmember' heq.symm)
        (noNull_object.mp hnull member' hmember'))

/-- **The text of a value without `null` is the text of no other value.** -/
theorem same_of_text {u v : JsValue} (hu : u.Distinct) (hv : v.Distinct) (hfinite : Finite v)
    (hnull : NoNull v) (h : Server.stableSerialize collator u = Server.stableSerialize collator v) :
    Same u v := by
  have hwritten : serverWritten collator u = serverWritten collator v :=
    (serialize_eq_iff JsNumber.text_eq JsNumber.text_eq isQuoted_quoteUnits isQuoted_quoteUnits
      JsNumber.good_write JsNumber.good_write u v).mp h
  rw [← serverWritten_nulled u] at hwritten
  have hsame := ((serverWritten_eq_iff (distinct_nulled hu) hv (finite_nulled u) hfinite).mp
    hwritten).same
  rwa [nulled_eq_of_matches hsame hnull] at hsame

/-- With a `null` it is the text of another one. -/
theorem not_same_inflated {v : JsValue} (hnull : ¬NoNull v) : ¬Same (inflated v) v := fun h =>
  hnull (noNull_of_same_inflated h)

end ScientificProtocol.Artifacts
