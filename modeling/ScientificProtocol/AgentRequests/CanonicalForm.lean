import ScientificProtocol.AgentRequests.Serialization
import ScientificProtocol.Js.ReadBack

/-!
# What the text of a request tells

`stableSerialize` of `src/shared/agent-request-envelope.ts`, and the same function of
`src/shared/public-write-envelope.ts` and `src/shared/operator-requests.ts`. What is hashed and
signed is the text of a value, which should tell the value up to the order of its keys, and nothing
else.

It tells a little less and a little more. `JSON.stringify` writes `null` for a number beyond the
doubles, which `JSON.parse` reads as infinite. And keys are sorted by `localeCompare`: two keys that
it does not tell apart stay in the order in which they came. With this taken into account the text
is the same exactly for the same values (`serverSerialize_eq_iff`).
-/

namespace ScientificProtocol.AgentRequests

open Js StableSort

/-! ### The same value -/

/-- `===` -/
def JsNumber.Equals : JsNumber → JsNumber → Prop
  | .zero _, .zero _ => True
  | .finite d, .finite d' => d = d'
  | .infinite negative, .infinite negative' => negative = negative'
  | _, _ => False

/-- Two values with the same entries, where the keys of an object and those of the object that
stands in its place are related. -/
inductive Matches (keys : List (List CodeUnit) → List (List CodeUnit) → Prop) :
    JsValue → JsValue → Prop where
  | null : Matches keys .null .null
  | bool (b : Bool) : Matches keys (.bool b) (.bool b)
  | number {n n' : JsNumber} (h : n.Equals n') : Matches keys (.number n) (.number n')
  | string (s : List CodeUnit) : Matches keys (.string s) (.string s)
  | array {items items' : List JsValue} (hlength : items.length = items'.length)
      (hitems : ∀ p ∈ items.zip items', Matches keys p.1 p.2) :
      Matches keys (.array items) (.array items')
  | object {members members' : List (List CodeUnit × JsValue)}
      (hkeys : keys (members.map Prod.fst) (members'.map Prod.fst))
      (hvalues : ∀ member ∈ members, ∀ member' ∈ members', member.1 = member'.1 →
        Matches keys member.2 member'.2) :
      Matches keys (.object members) (.object members')

/-- **Two values are equal up to the order of keys**, at every depth. -/
abbrev Same : JsValue → JsValue → Prop := Matches List.Perm

/-- Two values are equal up to the order of keys that `localeCompare` tells apart. -/
abbrev SameTies (collator : Collator) : JsValue → JsValue → Prop :=
  Matches fun keys keys' => keys.Perm keys' ∧ TiesAlike collator.le keys keys'

mutual

/-- What `JSON.stringify` sees of a value: it writes `null` for a number that is infinite. -/
def nulled : JsValue → JsValue
  | .null => .null
  | .bool b => .bool b
  | .number (.infinite _) => .null
  | .number n => .number n
  | .string s => .string s
  | .array items => .array (nulledItems items)
  | .object members => .object (nulledMembers members)

def nulledItems : List JsValue → List JsValue
  | [] => []
  | item :: items => nulled item :: nulledItems items

def nulledMembers : List (List CodeUnit × JsValue) → List (List CodeUnit × JsValue)
  | [] => []
  | (key, value) :: members => (key, nulled value) :: nulledMembers members

end

theorem nulledItems_eq (items : List JsValue) : nulledItems items = items.map nulled := by
  induction items with
  | nil => rfl
  | cons item items ih => rw [nulledItems, ih, List.map_cons]

theorem nulledMembers_eq (members : List (List CodeUnit × JsValue)) :
    nulledMembers members = members.map (Prod.map id nulled) := by
  induction members with
  | nil => rfl
  | cons member members ih => rw [nulledMembers, ih, List.map_cons]; rfl

theorem map_fst_nulledMembers (members : List (List CodeUnit × JsValue)) :
    (nulledMembers members).map Prod.fst = members.map Prod.fst := by
  rw [nulledMembers_eq, List.map_map]
  rfl

/-- Ties or not, the keys are the same. -/
theorem Matches.mono {keys keys' : List (List CodeUnit) → List (List CodeUnit) → Prop}
    (himp : ∀ l l', keys l l' → keys' l l') {u v : JsValue} (h : Matches keys u v) :
    Matches keys' u v := by
  induction h with
  | null => exact .null
  | bool b => exact .bool b
  | number h => exact .number h
  | string s => exact .string s
  | array hlength _ ih => exact .array hlength ih
  | object hkeys _ ih => exact .object (himp _ _ hkeys) ih

theorem SameTies.same {collator : Collator} {u v : JsValue} (h : SameTies collator u v) :
    Same u v := h.mono fun _ _ hkeys => hkeys.1

/-! ### What is written -/

section

variable {collator : Collator}

/-- Two numbers that are written alike, with `null` for those that are infinite. -/
theorem write_eq_write_iff {n n' : JsNumber} (h : ∀ negative, n ≠ .infinite negative)
    (h' : ∀ negative, n' ≠ .infinite negative) : n.write = n'.write ↔ n.Equals n' := by
  cases n with
  | infinite negative => exact absurd rfl (h negative)
  | zero negative =>
    cases n' with
    | infinite negative' => exact absurd rfl (h' negative')
    | zero negative' => exact iff_of_true rfl True.intro
    | finite d' => exact iff_of_false (fun heq => d'.numberText_ne_zero (Json.number.inj heq).symm) id
  | finite d =>
    cases n' with
    | infinite negative' => exact absurd rfl (h' negative')
    | zero negative' => exact iff_of_false (fun heq => d.numberText_ne_zero (Json.number.inj heq)) id
    | finite d' =>
      exact ⟨fun heq => Decimal.numberText_injective (Json.number.inj heq),
        fun heq => congrArg (fun d : Decimal => Json.number d.numberText) heq⟩

theorem serverWritten_array (items : List JsValue) :
    serverWritten collator (.array items) = .array (items.map (serverWritten collator)) := by
  rw [serverWritten, Json.written, writtenItems_eq]

theorem serverWritten_object (members : List (List CodeUnit × JsValue)) :
    serverWritten collator (.object members) =
      .object (((members.map (Prod.map id (serverWritten collator))).mergeSort
        (byKey collator.le)).map (Prod.map quoteUnits id)) := by
  rw [serverWritten, Json.written, writtenMembers_eq]
  rfl

/-- Numbers that are infinite are not seen. -/
theorem serverWritten_nulled (v : JsValue) :
    serverWritten collator (nulled v) = serverWritten collator v := by
  induction v using Json.induction with
  | null | bool | string => rfl
  | number n => cases n <;> rfl
  | array items ih =>
    rw [nulled, nulledItems_eq, serverWritten_array, serverWritten_array, List.map_map]
    exact congrArg Json.array (List.map_congr_left ih)
  | object members ih =>
    rw [nulled, nulledMembers_eq, serverWritten_object, serverWritten_object, List.map_map]
    have hmembers : members.map (Prod.map id (serverWritten collator) ∘ Prod.map id nulled) =
        members.map (Prod.map id (serverWritten collator)) :=
      List.map_congr_left fun member hmember => Prod.ext rfl (ih member hmember)
    rw [hmembers]

/-- **Two objects are written alike** if they have the same keys, the keys that are not told apart
stand in the same order, and the values are written alike. -/
theorem serverWritten_object_eq_iff {members members' : List (List CodeUnit × JsValue)}
    (hnodup : (members.map Prod.fst).Nodup) (hnodup' : (members'.map Prod.fst).Nodup) :
    serverWritten collator (.object members) = serverWritten collator (.object members') ↔
      ((members.map Prod.fst).Perm (members'.map Prod.fst) ∧
        TiesAlike collator.le (members.map Prod.fst) (members'.map Prod.fst)) ∧
      ∀ member ∈ members, ∀ member' ∈ members', member.1 = member'.1 →
        serverWritten collator member.2 = serverWritten collator member'.2 := by
  have hquote : Function.Injective (Prod.map quoteUnits id : _ × Written → _) :=
    quoteUnits_injective.prodMap Function.injective_id
  have hfst : ∀ l : List (List CodeUnit × JsValue),
      (l.map (Prod.map id (serverWritten collator))).map Prod.fst = l.map Prod.fst := fun l => by
    rw [List.map_map]
    rfl
  rw [serverWritten_object, serverWritten_object, Json.object.injEq,
    (List.map_injective_iff.mpr hquote).eq_iff,
    ← mergeSort_eq_mergeSort_iff collator_trans collator_total hnodup hnodup']
  have hkeys : ∀ l : List (List CodeUnit × JsValue),
      ((l.map (Prod.map id (serverWritten collator))).mergeSort (byKey collator.le)).map Prod.fst =
        (l.map Prod.fst).mergeSort collator.le := fun l => by
    rw [map_fst_mergeSort_byKey, hfst]
  have hsorted : ∀ l : List (List CodeUnit × JsValue),
      ((l.map (Prod.map id (serverWritten collator))).mergeSort (byKey collator.le)).Perm
        (l.map (Prod.map id (serverWritten collator))) := fun l => List.mergeSort_perm _ _
  constructor
  · intro heq
    refine ⟨by rw [← hkeys, heq, hkeys], fun member hmember member' hmember' hkey => ?_⟩
    have hmem := (hsorted members).mem_iff.mpr (List.mem_map_of_mem hmember)
    rw [heq, (hsorted members').mem_iff] at hmem
    have hinj := List.inj_on_of_nodup_map (by rwa [hfst members']) hmem
      (List.mem_map_of_mem hmember') hkey
    exact congrArg Prod.snd hinj
  · rintro ⟨horder, hvalues⟩
    have hnodupKeys : ∀ {l : List (List CodeUnit × JsValue)}, (l.map Prod.fst).Nodup →
        (l.map (Prod.map id (serverWritten collator))).Nodup := fun hl =>
      List.Nodup.of_map Prod.fst (by rwa [hfst])
    have hperm : (members.map Prod.fst).Perm (members'.map Prod.fst) :=
      ((mergeSort_eq_mergeSort_iff collator_trans collator_total hnodup hnodup').mp horder).1
    -- A member of the one is a member of the other.
    have hsub : ∀ entry ∈ members.map (Prod.map id (serverWritten collator)),
        entry ∈ members'.map (Prod.map id (serverWritten collator)) := by
      intro entry hentry
      obtain ⟨member, hmember, rfl⟩ := List.mem_map.mp hentry
      obtain ⟨member', hmember', hkey⟩ :=
        List.mem_map.mp (hperm.mem_iff.mp (List.mem_map_of_mem hmember))
      refine List.mem_map.mpr ⟨member', hmember', ?_⟩
      exact Prod.ext hkey (hvalues member hmember member' hmember' hkey.symm).symm
    have hsame : (members.map (Prod.map id (serverWritten collator))).Perm
        (members'.map (Prod.map id (serverWritten collator))) := by
      refine (List.subperm_of_subset (hnodupKeys hnodup) hsub).perm_of_length_le ?_
      have hlength := hperm.length_eq
      rw [List.length_map, List.length_map] at hlength ⊢
      exact hlength.ge
    refine eq_of_map_fst_eq ((hsorted members).trans (hsame.trans (hsorted members').symm)) ?_ ?_
    · rw [hkeys]
      exact (List.mergeSort_perm _ _).nodup_iff.mpr hnodup'
    · rw [hkeys, hkeys, horder]

/-! ### When it is the same -/

/-- There is no number in a value that is infinite. -/
abbrev Finite (v : JsValue) : Prop :=
  v.All (fun _ => True) fun n => ∀ negative, n ≠ .infinite negative

theorem finite_nulled (v : JsValue) : Finite (nulled v) := by
  induction v using Json.induction with
  | null | bool | string => exact True.intro
  | number n =>
    cases n with
    | infinite negative => exact True.intro
    | zero negative => exact fun _ h => JsNumber.noConfusion h
    | finite d => exact fun _ h => JsNumber.noConfusion h
  | array items ih =>
    rw [nulled, nulledItems_eq]
    exact all_array.mpr (List.forall_mem_map.mpr ih)
  | object members ih =>
    rw [nulled, nulledMembers_eq]
    exact all_object.mpr (List.forall_mem_map.mpr fun member hmember =>
      ⟨True.intro, ih member hmember⟩)

theorem distinct_nulled {v : JsValue} (h : v.Distinct) : (nulled v).Distinct := by
  induction v using Json.induction with
  | null | bool | string => exact True.intro
  | number n => cases n <;> exact True.intro
  | array items ih =>
    rw [nulled, nulledItems_eq]
    exact distinct_array.mpr (List.forall_mem_map.mpr fun item hitem =>
      ih item hitem (distinct_array.mp h item hitem))
  | object members ih =>
    obtain ⟨hnodup, hmembers⟩ := distinct_object.mp h
    rw [nulled]
    refine distinct_object.mpr ⟨by rwa [map_fst_nulledMembers], ?_⟩
    rw [nulledMembers_eq]
    exact List.forall_mem_map.mpr fun member hmember => ih member hmember (hmembers member hmember)

/-- Two lists are written alike if their items are. -/
theorem map_eq_map_iff_zip {α β : Type} {f : α → β} {l l' : List α} :
    l.map f = l'.map f ↔ l.length = l'.length ∧ ∀ p ∈ l.zip l', f p.1 = f p.2 := by
  induction l generalizing l' with
  | nil => cases l' <;> simp
  | cons a l ih => cases l' <;> simp [ih, and_left_comm]

/-- **Values without infinite numbers are written alike** exactly if they are the same up to the
order of keys that are told apart. -/
theorem serverWritten_eq_iff {u v : JsValue} (hu : u.Distinct) (hv : v.Distinct) (hfu : Finite u)
    (hfv : Finite v) :
    serverWritten collator u = serverWritten collator v ↔ SameTies collator u v := by
  -- Values of different kinds are written with different constructors.
  induction u using Json.induction generalizing v with
  | null =>
    cases v with
    | null => exact iff_of_true rfl .null
    | number n => cases n <;> first | exact absurd rfl (hfv _) | exact iff_of_false nofun nofun
    | _ => exact iff_of_false nofun nofun
  | bool b =>
    cases v with
    | bool b' =>
      refine ⟨fun h => ?_, fun h => by cases h; rfl⟩
      obtain rfl : b = b' := Json.bool.inj h
      exact .bool b
    | number n => cases n <;> exact iff_of_false nofun nofun
    | _ => exact iff_of_false nofun nofun
  | number n =>
    cases v with
    | number n' =>
      refine (write_eq_write_iff hfu hfv).trans ⟨.number, fun h => ?_⟩
      cases h
      assumption
    | _ => cases n <;> first | exact absurd rfl (hfu _) | exact iff_of_false nofun nofun
  | string s =>
    cases v with
    | string s' =>
      refine ⟨fun h => ?_, fun h => by cases h; rfl⟩
      obtain rfl : s = s' := quoteUnits_injective (Json.string.inj h)
      exact .string s
    | number n => cases n <;> exact iff_of_false nofun nofun
    | _ => exact iff_of_false nofun nofun
  | array items ih =>
    cases v with
    | array items' =>
      have hitems : ∀ p ∈ items.zip items', serverWritten collator p.1 = serverWritten collator p.2 ↔
          SameTies collator p.1 p.2 := by
        intro p hp
        obtain ⟨hleft, hright⟩ := List.of_mem_zip hp
        exact ih p.1 hleft (distinct_array.mp hu _ hleft) (distinct_array.mp hv _ hright)
          (all_array.mp hfu _ hleft) (all_array.mp hfv _ hright)
      rw [serverWritten_array, serverWritten_array, Json.array.injEq, map_eq_map_iff_zip]
      refine ⟨fun h => .array h.1 fun p hp => (hitems p hp).mp (h.2 p hp), fun h => ?_⟩
      cases h with
      | array hlength hall => exact ⟨hlength, fun p hp => (hitems p hp).mpr (hall p hp)⟩
    | number n => cases n <;> exact iff_of_false nofun nofun
    | _ => exact iff_of_false nofun nofun
  | object members ih =>
    cases v with
    | object members' =>
      obtain ⟨hnodup, hdistinct⟩ := distinct_object.mp hu
      obtain ⟨hnodup', hdistinct'⟩ := distinct_object.mp hv
      have hvalues : ∀ member ∈ members, ∀ member' ∈ members',
          serverWritten collator member.2 = serverWritten collator member'.2 ↔
            SameTies collator member.2 member'.2 := fun member hmember member' hmember' =>
        ih member hmember (hdistinct member hmember) (hdistinct' member' hmember')
          (all_object.mp hfu member hmember).2 (all_object.mp hfv member' hmember').2
      rw [serverWritten_object_eq_iff hnodup hnodup']
      refine ⟨fun h => .object h.1 fun member hmember member' hmember' hkey => ?_, fun h => ?_⟩
      · exact (hvalues member hmember member' hmember').mp (h.2 member hmember member' hmember' hkey)
      · cases h with
        | object hkeys hall =>
          refine ⟨hkeys, fun member hmember member' hmember' hkey => ?_⟩
          exact (hvalues member hmember member' hmember').mpr
            (hall member hmember member' hmember' hkey)
    | number n => cases n <;> exact iff_of_false nofun nofun
    | _ => exact iff_of_false nofun nofun

/-- **The text of a value** is that of another exactly if they are the same with `null` for infinite
numbers, up to the order of keys that are told apart. -/
theorem serverSerialize_eq_iff {u v : JsValue} (hu : u.Distinct) (hv : v.Distinct) :
    Server.stableSerialize collator u = Server.stableSerialize collator v ↔
      SameTies collator (nulled u) (nulled v) := by
  rw [Server.stableSerialize, Server.stableSerialize,
    serialize_eq_iff JsNumber.text_eq JsNumber.text_eq isQuoted_quoteUnits isQuoted_quoteUnits
      JsNumber.good_write JsNumber.good_write]
  have hsame : serverWritten collator (nulled u) = serverWritten collator (nulled v) ↔ _ :=
    serverWritten_eq_iff (distinct_nulled hu) (distinct_nulled hv) (finite_nulled u)
      (finite_nulled v)
  rwa [serverWritten_nulled, serverWritten_nulled] at hsame

/-- Without infinite numbers, and if `localeCompare` tells any two keys apart, **the text is the
same exactly for the same value**. -/
theorem stableSerialize_eq_iff_same (hantisymm : ∀ k k', collator.le k k' = true →
    collator.le k' k = true → k = k') {u v : JsValue} (hu : u.Distinct) (hv : v.Distinct)
    (hfu : Finite u) (hfv : Finite v) :
    Server.stableSerialize collator u = Server.stableSerialize collator v ↔ Same u v := by
  rw [serverSerialize_eq_iff hu hv, ← serverWritten_eq_iff (distinct_nulled hu)
    (distinct_nulled hv) (finite_nulled u) (finite_nulled v), serverWritten_nulled,
    serverWritten_nulled, serverWritten_eq_iff hu hv hfu hfv]
  refine ⟨SameTies.same, fun h => ?_⟩
  induction h with
  | null => exact .null
  | bool b => exact .bool b
  | number h => exact .number h
  | string s => exact .string s
  | array hlength _ ih =>
    refine .array hlength fun p hp => ?_
    obtain ⟨hleft, hright⟩ := List.of_mem_zip hp
    exact ih p hp (distinct_array.mp hu _ hleft) (distinct_array.mp hv _ hright)
      (all_array.mp hfu _ hleft) (all_array.mp hfv _ hright)
  | object hkeys _ ih =>
    obtain ⟨hnodup, hdistinct⟩ := distinct_object.mp hu
    obtain ⟨-, hdistinct'⟩ := distinct_object.mp hv
    refine .object ⟨hkeys, fun k k' hle hge hsub => ?_⟩ fun member hmember member' hmember' hkey => ?_
    · obtain rfl := hantisymm k k' hle hge
      exact absurd hsub (List.nodup_iff_sublist.mp hnodup k)
    · exact ih member hmember member' hmember' hkey (hdistinct member hmember)
        (hdistinct' member' hmember') (all_object.mp hfu member hmember).2
        (all_object.mp hfv member' hmember').2

/-! ### When it is faithful -/

theorem Matches.nulled {keys : List (List CodeUnit) → List (List CodeUnit) → Prop} {u v : JsValue}
    (h : Matches keys u v) : Matches keys (nulled u) (nulled v) := by
  induction h with
  | null => exact .null
  | bool b => exact .bool b
  | number h =>
    rename_i n n'
    cases n <;> cases n' <;> first | exact .null | exact .number h | exact False.elim h
  | string s => exact .string s
  | array hlength _ ih =>
    rw [AgentRequests.nulled, AgentRequests.nulled, nulledItems_eq, nulledItems_eq]
    refine .array (by rw [List.length_map, List.length_map, hlength]) fun p hp => ?_
    rw [List.zip_map] at hp
    obtain ⟨p', hp', rfl⟩ := List.mem_map.mp hp
    exact ih p' hp'
  | object hkeys _ ih =>
    rw [AgentRequests.nulled, AgentRequests.nulled]
    refine .object (by rwa [map_fst_nulledMembers, map_fst_nulledMembers]) ?_
    rw [nulledMembers_eq, nulledMembers_eq]
    refine List.forall_mem_map.mpr fun member hmember => ?_
    exact List.forall_mem_map.mpr fun member' hmember' hkey => ih member hmember member' hmember' hkey

/-- Which keys are tied does not depend on the numbers. -/
theorem SameTies.of_nulled {u v : JsValue} (hsame : Same u v)
    (h : SameTies collator (AgentRequests.nulled u) (AgentRequests.nulled v)) :
    SameTies collator u v := by
  induction hsame with
  | null => exact .null
  | bool b => exact .bool b
  | number heq => exact .number heq
  | string s => exact .string s
  | array hlength _ ih =>
    rw [AgentRequests.nulled, AgentRequests.nulled, nulledItems_eq, nulledItems_eq] at h
    cases h with
    | array _ hitems =>
      refine .array hlength fun p hp => ih p hp (hitems (Prod.map _ _ p) ?_)
      rw [List.zip_map]
      exact List.mem_map_of_mem hp
  | object hkeys _ ih =>
    rw [AgentRequests.nulled, AgentRequests.nulled] at h
    cases h with
    | object hties hvalues =>
      rw [map_fst_nulledMembers, map_fst_nulledMembers] at hties
      rw [nulledMembers_eq, nulledMembers_eq] at hvalues
      refine .object hties fun member hmember member' hmember' hkey => ?_
      exact ih member hmember member' hmember' hkey (hvalues _ (List.mem_map_of_mem hmember) _
        (List.mem_map_of_mem hmember') hkey)

/-- **The text is the same exactly for values that are equal up to the order of keys**, exactly if
two equal values have keys that are not told apart in the same order, and two values that are not
equal are still not equal with `null` for the numbers that are infinite. -/
theorem stableSerialize_faithful_iff {u v : JsValue} (hu : u.Distinct) (hv : v.Distinct) :
    (Server.stableSerialize collator u = Server.stableSerialize collator v ↔ Same u v) ↔
      (Same u v → SameTies collator u v) ∧
        (¬Same u v → ¬SameTies collator (nulled u) (nulled v)) := by
  rw [serverSerialize_eq_iff hu hv]
  constructor
  · intro hfaithful
    exact ⟨fun hsame => .of_nulled hsame (hfaithful.mpr hsame), fun hne hties =>
      hne (hfaithful.mp hties)⟩
  · rintro ⟨hties, hne⟩
    exact ⟨fun h => by_contra fun hsame => hne hsame h, fun hsame => (hties hsame).nulled⟩

end

/-- `é` as one code unit, and as an `e` with an accent. -/
def composed (text : List CodeUnit) : List CodeUnit :=
  if text = [⟨0x65, by decide⟩, ⟨0x301, by decide⟩] then [⟨0xE9, by decide⟩] else text

/-- It does not tell the two apart. -/
def accents : Collator where
  localeCompare left right := if composed left ≤ composed right then
    (if composed right ≤ composed left then 0 else -1) else 1
  total left right := by
    rcases le_total (composed left) (composed right) with h | h
    · left
      rw [if_pos h]
      split <;> decide
    · right
      rw [if_pos h]
      split <;> decide
  trans left middle right hleft hright := by
    have hle : ∀ {l r : List CodeUnit}, (if composed l ≤ composed r then
        (if composed r ≤ composed l then 0 else -1) else 1) ≤ (0 : ℤ) → composed l ≤ composed r := by
      intro l r h
      by_contra hnot
      rw [if_neg hnot] at h
      exact absurd h (by decide)
    rw [if_pos ((hle hleft).trans (hle hright))]
    split <;> decide

/-- An object with two keys, and the same one with the keys in the other order. -/
def twoKeys : JsValue :=
  .object [([⟨0x61, by decide⟩], .bool true), ([⟨0x62, by decide⟩], .number (.infinite false))]

def twoKeysReversed : JsValue :=
  .object [([⟨0x62, by decide⟩], .number (.infinite false)), ([⟨0x61, by decide⟩], .bool true)]

theorem stableSerialize_faithful_iff_twoKeys :
    (Server.stableSerialize accents twoKeys = Server.stableSerialize accents twoKeysReversed ↔
        Same twoKeys twoKeysReversed) ↔
      (Same twoKeys twoKeysReversed → SameTies accents twoKeys twoKeysReversed) ∧
      (¬Same twoKeys twoKeysReversed →
        ¬SameTies accents (nulled twoKeys) (nulled twoKeysReversed)) :=
  stableSerialize_faithful_iff
    (distinct_object.mpr ⟨by decide, by simp only [List.forall_mem_cons]; exact
      ⟨True.intro, True.intro, fun _ h => absurd h List.not_mem_nil⟩⟩)
    (distinct_object.mpr ⟨by decide, by simp only [List.forall_mem_cons]; exact
      ⟨True.intro, True.intro, fun _ h => absurd h List.not_mem_nil⟩⟩)

/-- Two equal objects with such keys in different orders have different texts, and a number beyond
the doubles has the text of `null`. -/
theorem stableSerialize_not_faithful :
    ¬(Server.stableSerialize accents
          (.object [([0xE9], .bool true), ([0x65, 0x301], .bool false)]) =
        Server.stableSerialize accents
          (.object [([0x65, 0x301], .bool false), ([0xE9], .bool true)]) ↔
      Same (.object [([0xE9], .bool true), ([0x65, 0x301], .bool false)])
        (.object [([0x65, 0x301], .bool false), ([0xE9], .bool true)])) ∧
    ¬(Server.stableSerialize accents (.number (.infinite false)) =
        Server.stableSerialize accents .null ↔ Same (.number (.infinite false)) .null) := by
  constructor
  · intro hfaithful
    have hsame : Same (.object [([0xE9], .bool true), ([0x65, 0x301], .bool false)])
        (.object [([0x65, 0x301], .bool false), ([0xE9], .bool true)]) := by
      refine .object (.swap _ _ _) ?_
      simp only [List.forall_mem_cons, List.not_mem_nil, false_implies, implies_true, and_true]
      exact ⟨⟨fun h => absurd h (by decide), fun _ => .bool true⟩, fun _ => .bool false,
        fun h => absurd h (by decide)⟩
    have hdistinct : ∀ {l : List (List CodeUnit × JsValue)}, (l.map Prod.fst).Nodup →
        (∀ member ∈ l, member.2 = .bool true ∨ member.2 = .bool false) →
        (Json.object l).Distinct := fun hnodup hbool => distinct_object.mpr ⟨hnodup,
      fun member hmember => (hbool member hmember).elim (fun h => h ▸ True.intro)
        fun h => h ▸ True.intro⟩
    have hties := (serverSerialize_eq_iff (hdistinct (by decide) (by simp))
      (hdistinct (by decide) (by simp))).mp (hfaithful.mpr hsame)
    cases hties with
    | object hkeys _ =>
      have hsub := hkeys.2 [0xE9] [0x65, 0x301] (by decide) (by decide) (List.Sublist.refl _)
      exact absurd hsub (by decide)
  · intro hfaithful
    cases hfaithful.mp rfl

end ScientificProtocol.AgentRequests
