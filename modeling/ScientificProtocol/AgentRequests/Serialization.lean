import ScientificProtocol.Js.Canonical
import ScientificProtocol.Js.Decimal
import ScientificProtocol.Js.Quote
import ScientificProtocol.Js.Utf16
import ScientificProtocol.Order.StableSort
import Mathlib.Data.List.Lex

/-!
# The canonical form of a request

`_stable_serialize` of `python/scientific_protocol_client.py` and `stableSerialize` of
`src/shared/agent-request-envelope.ts`. The client writes what it signs before it sends it, and the
server writes what it has received. Both put the members of an object in the order of their keys and
leave no blanks, but they agree on few of the parts: the client quotes integers, escapes what is not
in ASCII, orders keys by code points and writes numbers as Python does.

So they agree on a value exactly if none of this is noticed (`Canonical`,
`ScientificProtocol.AgentRequests.written_eq_iff`).
-/

namespace ScientificProtocol.AgentRequests

open Js

/-! ### Values -/

/-- A number of Python that is not infinite. -/
inductive PyNumber where
  | int (n : ℤ)
  | zero (negative : Bool)
  | float (d : Decimal)

/-- A number that `JSON.parse` makes. -/
inductive JsNumber where
  | zero (negative : Bool)
  | finite (d : Decimal)
  | infinite (negative : Bool)

abbrev PyValue : Type := Json (List CodePoint) PyNumber

/-- With the members of an object in the order of `Object.entries`. -/
abbrev JsValue : Type := Json (List CodeUnit) JsNumber

/-- The code points of a text. -/
def points (text : String) : List CodePoint := text.toList.map fun c => ⟨c.toNat, toNat_lt c⟩

/-- What `localeCompare` answers: the host orders texts in some way. -/
structure Collator where
  localeCompare : List CodeUnit → List CodeUnit → ℤ
  total : ∀ left right, localeCompare left right ≤ 0 ∨ localeCompare right left ≤ 0
  trans : ∀ left middle right, localeCompare left middle ≤ 0 → localeCompare middle right ≤ 0 →
    localeCompare left right ≤ 0

def Collator.le (collator : Collator) (left right : List CodeUnit) : Bool :=
  collator.localeCompare left right ≤ 0

/-! ### The client -/

/-- `json.dumps(str(value))` of an integer, and `json.dumps(value)` of another number. -/
def PyNumber.text : PyNumber → String
  | .int n => dumps (points (toString n))
  | .zero negative => if negative then "-0.0" else "0.0"
  | .float d => d.repr

/-- `sorted(value.keys())` -/
def pointsLE (left right : List CodePoint) : Bool := left ≤ right

/-- `_stable_serialize` -/
def Client.stableSerialize (value : PyValue) : String :=
  value.serialize pointsLE dumps PyNumber.text

/-! ### The server -/

/-- `JSON.stringify(value)` -/
def JsNumber.text : JsNumber → String
  | .zero _ => "0"
  | .finite d => d.numberText
  | .infinite _ => "null"

def Server.stableSerialize (collator : Collator) (value : JsValue) : String :=
  value.serialize collator.le quoteUnits JsNumber.text

/-! ### Between them -/

/-- The number that a key is, if it is an index of an array. -/
def arrayIndex (key : List CodeUnit) : Option ℕ :=
  let index := key.foldl (fun n u => 10 * n + (u.val - 48)) 0
  if key ≠ [] ∧ (∀ u ∈ key, 48 ≤ u.val ∧ u.val ≤ 57) ∧ (key.head? = some 48 → key.length = 1) ∧
    index < 4294967295 then some index else none

section

variable {α β : Type} (key : α → List CodeUnit)

/-- The order of the properties of an object: indices of arrays first. -/
def ownOrder (l : List α) : List α :=
  (l.filter fun a => (arrayIndex (key a)).isSome).mergeSort
      (fun a b => (arrayIndex (key a)).getD 0 ≤ (arrayIndex (key b)).getD 0) ++
    l.filter fun a => !(arrayIndex (key a)).isSome

theorem ownOrder_perm (l : List α) : (ownOrder key l).Perm l :=
  ((List.mergeSort_perm _ _).append_right _).trans (List.filter_append_perm _ _)

theorem map_ownOrder (f : β → α) (l : List β) :
    (ownOrder (fun b => key (f b)) l).map f = ownOrder key (l.map f) := by
  rw [ownOrder, ownOrder, List.map_append, List.filter_map, List.filter_map]
  exact congrArg (· ++ _) (List.map_mergeSort fun _ _ _ _ => rfl)

end

section

variable {κ ν : Type} [DecidableEq κ]

/-- A property is set: the last one counts, and stands where the first one has stood. -/
def setProperty (properties : List (κ × ν)) (property : κ × ν) : List (κ × ν) :=
  if property.1 ∈ properties.map Prod.fst then
    properties.map fun p => if p.1 = property.1 then property else p
  else properties ++ [property]

def setProperties (properties : List (κ × ν)) : List (κ × ν) := properties.foldl setProperty []

theorem setProperties_of_nodup {properties : List (κ × ν)}
    (h : (properties.map Prod.fst).Nodup) : setProperties properties = properties := by
  have hfold : ∀ (l acc : List (κ × ν)), ((acc ++ l).map Prod.fst).Nodup →
      l.foldl setProperty acc = acc ++ l := by
    intro l
    induction l with
    | nil => exact fun acc _ => (List.append_nil acc).symm
    | cons property l ih =>
      intro acc hnodup
      have hfresh : property.1 ∉ acc.map Prod.fst := by
        rw [List.map_append, List.map_cons] at hnodup
        intro hmem
        exact (List.nodup_append.mp hnodup).2.2 _ hmem _ List.mem_cons_self rfl
      rw [List.foldl_cons, setProperty, if_neg hfresh, ih _ (by rwa [← List.append_cons]),
        ← List.append_cons]
  exact hfold properties [] h

theorem setProperties_snoc (properties : List (κ × ν)) (property : κ × ν) :
    setProperties (properties ++ [property]) = setProperty (setProperties properties) property := by
  rw [setProperties, List.foldl_append]
  rfl

theorem mem_of_mem_setProperties {properties : List (κ × ν)} {p : κ × ν}
    (h : p ∈ setProperties properties) : p ∈ properties := by
  induction properties using List.reverseRecOn with
  | nil => exact h
  | append_singleton properties property ih =>
    rw [setProperties_snoc, setProperty] at h
    rw [List.mem_append, List.mem_singleton]
    split at h
    next =>
      obtain ⟨p', hp', heq⟩ := List.mem_map.mp h
      split at heq
      · exact .inr heq.symm
      · exact .inl (ih (heq ▸ hp'))
    next =>
      rw [List.mem_append, List.mem_singleton] at h
      exact h.imp_left ih

/-- Every key that is set is there. -/
theorem mem_map_fst_setProperties {properties : List (κ × ν)} {key : κ}
    (h : key ∈ properties.map Prod.fst) : key ∈ (setProperties properties).map Prod.fst := by
  induction properties using List.reverseRecOn with
  | nil => exact h
  | append_singleton properties property ih =>
    have hkeys : ∀ key', key' ∈ (setProperties properties).map Prod.fst ∨ key' = property.1 →
        key' ∈ (setProperty (setProperties properties) property).map Prod.fst := by
      intro key' hkey'
      unfold setProperty
      split
      next hold =>
        -- Setting a property keeps the keys.
        have hsame : ((setProperties properties).map fun p =>
            if p.1 = property.1 then property else p).map Prod.fst =
              (setProperties properties).map Prod.fst := by
          rw [List.map_map]
          refine List.map_congr_left fun p _ => ?_
          rw [Function.comp_apply]
          split
          next heq => exact heq.symm
          next => rfl
        rw [hsame]
        exact hkey'.elim id fun heq => heq ▸ hold
      next =>
        rw [List.map_append, List.map_singleton, List.mem_append, List.mem_singleton]
        exact hkey'
    rw [setProperties_snoc]
    rw [List.map_append, List.map_singleton, List.mem_append, List.mem_singleton] at h
    exact hkeys key (h.imp_left ih)

end

section

variable (parseInteger : ℤ → JsNumber)

def PyNumber.transport : PyNumber → JsNumber
  | .int n => parseInteger n
  | .zero negative => .zero negative
  | .float d => .finite d

mutual

/-- What `JSON.parse` makes of the `json.dumps` of a value. What it makes of an integer is left
open. -/
def transport : PyValue → JsValue
  | .null => .null
  | .bool b => .bool b
  | .number n => .number (n.transport parseInteger)
  | .string s => .string (units s)
  | .array items => .array (transportItems items)
  | .object members => .object (ownOrder Prod.fst (setProperties (transportMembers members)))

def transportItems : List PyValue → List JsValue
  | [] => []
  | item :: items => transport item :: transportItems items

def transportMembers : List (List CodePoint × PyValue) → List (List CodeUnit × JsValue)
  | [] => []
  | (key, value) :: members => (units key, transport value) :: transportMembers members

end

end

/-! ### When they agree -/

section

variable (collator : Collator)

/-- **Both put the keys in the same order**: if one comes first by its code points, `localeCompare`
does not put it after the other; and where it does not tell the two apart, it comes first in the
object already. -/
def KeysInOrder (keys : List (List CodePoint)) : Prop :=
  ∀ k ∈ keys, ∀ k' ∈ keys, k < k' →
    StableSort.InOrder collator.le (ownOrder id (keys.map units)) (units k) (units k')

mutual

/-- **The values both write the same way**: without integers, with plain texts and keys that both
put in the same order, and with numbers that look alike. -/
def Canonical : PyValue → Prop
  | .null | .bool _ => True
  | .number (.float d) => d.Alike
  | .number (.int _) | .number (.zero _) => False
  | .string s => Plain (s.map Fin.val)
  | .array items => canonicalItems items
  | .object members => KeysInOrder collator (members.map Prod.fst) ∧ canonicalMembers members

def canonicalItems : List PyValue → Prop
  | [] => True
  | item :: items => Canonical item ∧ canonicalItems items

def canonicalMembers : List (List CodePoint × PyValue) → Prop
  | [] => True
  | (key, value) :: members =>
    (Plain (key.map Fin.val) ∧ Canonical value) ∧ canonicalMembers members

end

end

section

variable {collator : Collator} {parseInteger : ℤ → JsNumber}

theorem transportItems_eq (items : List PyValue) :
    transportItems parseInteger items = items.map (transport parseInteger) := by
  induction items with
  | nil => rfl
  | cons item items ih => rw [transportItems, ih, List.map_cons]

theorem transportMembers_eq (members : List (List CodePoint × PyValue)) :
    transportMembers parseInteger members =
      members.map (Prod.map units (transport parseInteger)) := by
  induction members with
  | nil => rfl
  | cons member members ih => rw [transportMembers, ih, List.map_cons]; rfl

theorem canonical_array {items : List PyValue} :
    Canonical collator (.array items) ↔ ∀ item ∈ items, Canonical collator item := by
  rw [Canonical]
  induction items with
  | nil => exact iff_of_true True.intro fun _ h => absurd h List.not_mem_nil
  | cons item items ih => rw [canonicalItems, ih, List.forall_mem_cons]

theorem canonical_object {members : List (List CodePoint × PyValue)} :
    Canonical collator (.object members) ↔ KeysInOrder collator (members.map Prod.fst) ∧
      ∀ member ∈ members, Plain (member.1.map Fin.val) ∧ Canonical collator member.2 := by
  rw [Canonical]
  refine and_congr Iff.rfl ?_
  induction members with
  | nil => exact iff_of_true True.intro fun _ h => absurd h List.not_mem_nil
  | cons member members ih => rw [canonicalMembers, ih, List.forall_mem_cons]

/-! ### What is written for a number -/

def PyNumber.write : PyNumber → Written
  | .int n => .string (dumps (points (toString n)))
  | .zero negative => .number (if negative then "-0.0" else "0.0")
  | .float d => .number d.repr

def JsNumber.write : JsNumber → Written
  | .zero _ => .number "0"
  | .finite d => .number d.numberText
  | .infinite _ => .null

theorem PyNumber.text_eq (n : PyNumber) : n.text = n.write.stringify id id := by
  cases n <;> rfl

theorem JsNumber.text_eq (n : JsNumber) : n.text = n.write.stringify id id := by
  cases n <;> rfl

theorem startsWithDigit_zero : Decimal.StartsWithDigit ['0'] :=
  Decimal.startsWithDigit_of_digits Nat.one_pos fun _ hc => List.mem_singleton.mp hc ▸ rfl

theorem startsWithDigit_pyZero : Decimal.StartsWithDigit ['0', '.', '0'] := by
  refine Decimal.startsWithDigit_append startsWithDigit_zero fun c hc => ?_
  rcases List.mem_cons.mp hc with rfl | hc
  · exact .inr (List.mem_cons_of_mem _ (List.mem_cons_of_mem _ List.mem_cons_self))
  · exact .inl (List.mem_singleton.mp hc ▸ rfl)

theorem PyNumber.good_write (n : PyNumber) : n.write.Good := by
  cases n with
  | int n => exact isQuoted_dumps _
  | zero negative =>
    cases negative
    · exact Decimal.isNumber_of_startsWithDigit false startsWithDigit_pyZero
    · exact Decimal.isNumber_of_startsWithDigit true startsWithDigit_pyZero
  | float d => exact d.isNumber_repr

theorem JsNumber.good_write (n : JsNumber) : n.write.Good := by
  cases n with
  | zero negative => exact Decimal.isNumber_of_startsWithDigit false startsWithDigit_zero
  | finite d => exact d.isNumber_numberText
  | infinite negative => exact True.intro

/-- What the client writes of a value. -/
abbrev clientWritten (value : PyValue) : Written := value.written pointsLE dumps PyNumber.write

/-- What the server writes of it. -/
abbrev serverWritten (collator : Collator) (value : JsValue) : Written :=
  value.written collator.le quoteUnits JsNumber.write

/-- **Numbers**: an integer is a text for the client. -/
theorem write_number_iff (n : PyNumber) :
    n.write = (n.transport parseInteger).write ↔ Canonical collator (.number n) := by
  cases n with
  | int n =>
    refine iff_of_false (fun h => ?_) id
    change Json.string _ = (parseInteger n).write at h
    cases hparsed : parseInteger n <;> rw [hparsed] at h <;> cases h
  | zero negative =>
    refine iff_of_false (fun h => ?_) id
    cases negative <;> exact absurd (Json.number.inj h) (by decide)
  | float d =>
    rw [Canonical, ← d.numberText_eq_repr_iff]
    exact ⟨fun h => (Json.number.inj h).symm, fun h => congrArg Json.number h.symm⟩

/-! ### Objects -/

theorem collator_trans (a b c : List CodeUnit) (hab : collator.le a b = true)
    (hbc : collator.le b c = true) : collator.le a c = true :=
  decide_eq_true (collator.trans a b c (of_decide_eq_true hab) (of_decide_eq_true hbc))

theorem collator_total (a b : List CodeUnit) : (collator.le a b || collator.le b a) = true := by
  rw [Bool.or_eq_true]
  exact (collator.total a b).imp decide_eq_true decide_eq_true

/-- `sorted(value.keys())` is in order. -/
theorem pairwise_sorted {keys : List (List CodePoint)} (hnodup : keys.Nodup) :
    (keys.mergeSort pointsLE).Pairwise (· < ·) := by
  have htrans : ∀ a b c, pointsLE a b = true → pointsLE b c = true → pointsLE a c = true :=
    fun _ _ _ hab hbc => decide_eq_true (le_trans (of_decide_eq_true hab) (of_decide_eq_true hbc))
  have htotal : ∀ a b, (pointsLE a b || pointsLE b a) = true := by
    intro a b
    rw [Bool.or_eq_true]
    exact (le_total a b).imp decide_eq_true decide_eq_true
  have hle := List.pairwise_mergeSort htrans htotal keys
  have hne : (keys.mergeSort pointsLE).Nodup := (List.mergeSort_perm _ _).nodup_iff.mpr hnodup
  exact (hle.and hne).imp fun ⟨hle, hne⟩ => lt_of_le_of_ne (of_decide_eq_true hle) hne

/-- **The server sorts keys as the client does** exactly if they are in order. -/
theorem sorted_eq_iff {keys : List (List CodePoint)} (hnodup : keys.Nodup)
    (hunits : (keys.map units).Nodup) :
    (ownOrder id (keys.map units)).mergeSort collator.le = (keys.mergeSort pointsLE).map units ↔
      KeysInOrder collator keys := by
  have hown := ownOrder_perm id (keys.map units)
  have hsorted : (keys.mergeSort pointsLE).Perm keys := List.mergeSort_perm _ _
  rw [StableSort.mergeSort_eq_iff collator_trans collator_total (hown.nodup_iff.mpr hunits),
    and_iff_right ((hsorted.map units).trans hown.symm), List.pairwise_map]
  constructor
  · intro hpairwise k hk k' hk' hlt
    have hk := hsorted.mem_iff.mpr hk
    have hk' := hsorted.mem_iff.mpr hk'
    rcases StableSort.pair_sublist_or hk hk' hlt.ne with hbefore | hafter
    · exact List.pairwise_iff_forall_sublist.mp hpairwise hbefore
    · exact absurd hlt
        (List.pairwise_iff_forall_sublist.mp (pairwise_sorted hnodup) hafter).not_gt
  · intro horder
    refine (pairwise_sorted hnodup).imp_of_mem fun {k k'} hk hk' hlt => ?_
    exact horder k (hsorted.mem_iff.mp hk) k' (hsorted.mem_iff.mp hk') hlt

/-- The members the server writes, before they are sorted, if no two keys look the same to it. -/
theorem serverMembers_eq {members : List (List CodePoint × PyValue)}
    (hunits : (members.map fun member => units member.1).Nodup) :
    (ownOrder Prod.fst (setProperties (transportMembers parseInteger members))).map
        (fun member : List CodeUnit × JsValue => (member.1, serverWritten collator member.2)) =
      ownOrder Prod.fst (members.map fun member =>
        (units member.1, serverWritten collator (transport parseInteger member.2))) := by
  rw [transportMembers_eq, setProperties_of_nodup (by rwa [List.map_map])]
  refine (map_ownOrder Prod.fst
    (fun member : List CodeUnit × JsValue => (member.1, serverWritten collator member.2))
      _).trans ?_
  rw [List.map_map]
  rfl

/-- Plain keys are the same for the server. -/
theorem nodup_units {members : List (List CodePoint × PyValue)}
    (hnodup : (members.map Prod.fst).Nodup)
    (hplain : ∀ member ∈ members, Plain (member.1.map Fin.val)) :
    (members.map fun member => units member.1).Nodup := by
  have hmap : (members.map fun member => units member.1) = (members.map Prod.fst).map units := by
    rw [List.map_map]
    rfl
  rw [hmap]
  refine hnodup.map_on fun k hk k' hk' heq => ?_
  obtain ⟨member, hmember, rfl⟩ := List.mem_map.mp hk
  obtain ⟨member', hmember', rfl⟩ := List.mem_map.mp hk'
  exact units_injOn_plain (hplain member hmember) (hplain member' hmember') heq

/-- **Objects**: the keys are plain and in order, and the values agree. -/
theorem written_object_iff {members : List (List CodePoint × PyValue)}
    (hnodup : (members.map Prod.fst).Nodup)
    (ih : ∀ member ∈ members, clientWritten member.2 =
      serverWritten collator (transport parseInteger member.2) ↔ Canonical collator member.2) :
    clientWritten (.object members) =
        serverWritten collator (transport parseInteger (.object members)) ↔
      Canonical collator (.object members) := by
  have hmember : ∀ (a : List CodePoint × Written) (b : List CodeUnit × Written),
      (dumps a.1, a.2) = (quoteUnits b.1, b.2) ↔
        b = Prod.map units id a ∧ Plain (a.1.map Fin.val) := by
    intro a b
    rw [Prod.mk.injEq, dumps_eq_quoteUnits_iff, Prod.ext_iff]
    exact ⟨fun ⟨⟨hkey, hplain⟩, hvalue⟩ => ⟨⟨hkey, hvalue.symm⟩, hplain⟩,
      fun ⟨⟨hkey, hvalue⟩, hplain⟩ => ⟨⟨hkey, hplain⟩, hvalue.symm⟩⟩
  have hkeys : (∀ a ∈ (members.map fun member => (member.1, clientWritten member.2)).mergeSort
      (byKey pointsLE), Plain (a.1.map Fin.val)) ↔
        ∀ member ∈ members, Plain (member.1.map Fin.val) := by
    simp only [List.mem_mergeSort, List.forall_mem_map]
  rw [clientWritten, serverWritten, transport, Json.written, Json.written, Json.object.injEq,
    writtenMembers_eq, writtenMembers_eq, StableSort.map_eq_map_iff hmember, hkeys,
    canonical_object, forall₂_and, ← and_assoc, and_right_comm]
  refine and_congr_left fun hplain => ?_
  have hunits := nodup_units hnodup hplain
  rw [serverMembers_eq hunits]
  -- What the server sorts, and what it would have to sort.
  have hagree : (members.map fun member =>
        (units member.1, serverWritten collator (transport parseInteger member.2))) =
      (members.map fun member => (member.1, clientWritten member.2)).map (Prod.map units id) ↔
        ∀ member ∈ members, Canonical collator member.2 := by
    rw [List.map_map, List.map_inj_left]
    refine forall₂_congr fun member hmember => ?_
    rw [← ih member hmember, Function.comp_apply, Prod.map_apply, Prod.mk.injEq,
      and_iff_right rfl]
    exact eq_comm
  generalize hreceived : (members.map fun member =>
    (units member.1, serverWritten collator (transport parseInteger member.2))) = received
    at hagree ⊢
  generalize hsent : (members.map fun member => (member.1, clientWritten member.2)) = sent
    at hagree ⊢
  have hreceivedKeys : received.map Prod.fst = (members.map Prod.fst).map units := by
    rw [← hreceived, List.map_map, List.map_map]
    rfl
  have hsentKeys : sent.map Prod.fst = members.map Prod.fst := by
    rw [← hsent, List.map_map]
    rfl
  have hnodupUnits : ((members.map Prod.fst).map units).Nodup := by rwa [List.map_map]
  have hown := ownOrder_perm Prod.fst received
  have hserverKeys : ((ownOrder Prod.fst received).mergeSort (byKey collator.le)).map Prod.fst =
      (ownOrder id ((members.map Prod.fst).map units)).mergeSort collator.le := by
    rw [map_fst_mergeSort_byKey, ← hreceivedKeys, ← map_ownOrder id Prod.fst]
    rfl
  have hclientKeys : ((sent.mergeSort (byKey pointsLE)).map (Prod.map units id)).map Prod.fst =
      ((members.map Prod.fst).mergeSort pointsLE).map units := by
    rw [List.map_map, ← hsentKeys, ← map_fst_mergeSort_byKey, List.map_map]
    rfl
  have hclient : ((sent.mergeSort (byKey pointsLE)).map (Prod.map units id)).Perm
      (sent.map (Prod.map units id)) := (List.mergeSort_perm _ _).map _
  have hserver : ((ownOrder Prod.fst received).mergeSort (byKey collator.le)).Perm received :=
    (List.mergeSort_perm _ _).trans hown
  constructor
  · intro heq
    refine ⟨(sorted_eq_iff hnodup hnodupUnits).mp ?_, hagree.mp ?_⟩
    · rw [← hserverKeys, heq, hclientKeys]
    · refine StableSort.eq_of_map_fst_eq ((hserver.symm.trans (heq ▸ .refl _)).trans hclient) ?_ ?_
      · rw [List.map_map, ← hsent, List.map_map]
        exact hunits
      · rw [hreceivedKeys, ← hsentKeys, List.map_map, List.map_map]
        rfl
  · rintro ⟨horder, hcanonical⟩
    have hsame := hagree.mpr hcanonical
    refine StableSort.eq_of_map_fst_eq (hserver.trans (hsame ▸ hclient.symm)) ?_ ?_
    · rw [hclientKeys]
      exact ((List.mergeSort_perm _ _).map units).nodup_iff.mpr hnodupUnits
    · rw [hserverKeys, hclientKeys]
      exact (sorted_eq_iff hnodup hnodupUnits).mpr horder

/-- **The client and the server write the same** of a value exactly if it is canonical. -/
theorem written_eq_iff (value : PyValue) (hdistinct : value.Distinct) :
    clientWritten value = serverWritten collator (transport parseInteger value) ↔
      Canonical collator value := by
  induction value using Json.induction with
  | null | bool => exact iff_of_true rfl True.intro
  | number n => exact write_number_iff n
  | string s =>
    rw [Canonical]
    constructor
    · exact fun h => (dumps_eq_quoteUnits_iff.mp (Json.string.inj h)).2
    · exact fun h => congrArg Json.string (dumps_eq_quoteUnits_iff.mpr ⟨rfl, h⟩)
  | array items ih =>
    have hitems := distinct_array.mp hdistinct
    rw [canonical_array, clientWritten, serverWritten, transport, Json.written, Json.written,
      writtenItems_eq, writtenItems_eq, transportItems_eq, List.map_map, Json.array.injEq,
      List.map_inj_left]
    exact forall₂_congr fun item hitem => ih item hitem (hitems item hitem)
  | object members ih =>
    obtain ⟨hnodup, hmembers⟩ := distinct_object.mp hdistinct
    exact written_object_iff hnodup fun member hmember =>
      ih member hmember (hmembers member hmember)

end

end ScientificProtocol.AgentRequests
