import ScientificProtocol.AgentRequests.Serialization

/-!
# Requests of agents

`create_signed_agent_request` and `hash_agent_request_envelope` of
`python/scientific_protocol_client.py`, and `verifyAgentRequestEnvelope` and
`hashAgentRequestEnvelope` of `src/shared/agent-request-envelope.ts`. The client signs the hash of
what it writes of an envelope, and the server verifies the signature against the hash of what it
writes of the envelope it has received.

They agree exactly on the envelopes that are canonical
(`ScientificProtocol.AgentRequests.agree_iff_canonical`). One with an integer in its payload is not
(`ScientificProtocol.AgentRequests.integer_not_agreed`).
-/

namespace ScientificProtocol.AgentRequests

open Js

/-- The envelope of a request, as the client has it. No dictionary has a key twice. -/
structure AgentRequestEnvelope where
  actionType : List CodePoint
  actorAddress : List CodePoint
  agentId : List CodePoint
  issuedAt : List CodePoint
  payload : List (List CodePoint × PyValue)
  requestNonce : List CodePoint
  scopeKey : List CodePoint
  distinct : (Json.object payload).Distinct

def AgentRequestEnvelope.members (envelope : AgentRequestEnvelope) :
    List (List CodePoint × PyValue) := [
  (points "actionType", .string envelope.actionType),
  (points "actorAddress", .string envelope.actorAddress),
  (points "agentId", .string envelope.agentId),
  (points "issuedAt", .string envelope.issuedAt),
  (points "payload", .object envelope.payload),
  (points "requestNonce", .string envelope.requestNonce),
  (points "scopeKey", .string envelope.scopeKey)]

def AgentRequestEnvelope.value (envelope : AgentRequestEnvelope) : PyValue :=
  .object envelope.members

/-- What the two sides have besides their code. The server recovers the address that has signed a
message. -/
structure Host where
  collator : Collator
  parseInteger : ℤ → JsNumber
  sha256 : ByteArray → String
  toLowerCase : List CodeUnit → List CodeUnit
  getAddress : List CodePoint
  signMessage : String → String
  verifyMessage : String → String → Option (List CodeUnit)
  verify_sign : ∀ message, ∃ recovered,
    verifyMessage message (signMessage message) = some recovered ∧
      toLowerCase recovered = toLowerCase (units getAddress)

/-- The arguments of `create_signed_agent_request`. -/
structure SignedRequestInput where
  actionType : List CodePoint
  agentId : List CodePoint ⊕ ℤ
  payload : List (List CodePoint × PyValue)
  scopeKey : List CodePoint
  actorAddress : Option (List CodePoint)
  issuedAt : Option (List CodePoint)
  requestNonce : Option (List CodePoint)
  distinct : (Json.object payload).Distinct

/-- `text or default`: an empty text is none. -/
def orElse : Option (List CodePoint) → List CodePoint → List CodePoint
  | some (c :: cs), _ => c :: cs
  | _, other => other

/-- How verifying an envelope fails. -/
inductive VerifyError where
  | mismatch (expected recovered : List CodeUnit)
  /-- The signature is none, or the address is no text. -/
  | malformed
  deriving DecidableEq

section

variable (host : Host)

def Client.hashAgentRequestEnvelope (envelope : AgentRequestEnvelope) : String :=
  "0x" ++ host.sha256 (Client.stableSerialize envelope.value).toUTF8

/-- With the time of the client, and a nonce it has made. -/
def Client.createSignedAgentRequest (input : SignedRequestInput) (now nonce : List CodePoint) :
    AgentRequestEnvelope × String :=
  let envelope : AgentRequestEnvelope := {
    actionType := input.actionType
    actorAddress := orElse input.actorAddress host.getAddress
    agentId := match input.agentId with
      | .inl text => text
      | .inr n => points (toString n)
    issuedAt := orElse input.issuedAt now
    payload := input.payload
    requestNonce := orElse input.requestNonce nonce
    scopeKey := input.scopeKey
    distinct := input.distinct }
  (envelope, host.signMessage (Client.hashAgentRequestEnvelope host envelope))

def Server.hashAgentRequestEnvelope (envelope : JsValue) : String :=
  "0x" ++ host.sha256 (Server.stableSerialize host.collator envelope).toUTF8

/-- `value[key]` -/
def property (key : List CodeUnit) : JsValue → Option JsValue
  | .object members => (members.find? fun member => member.1 = key).map Prod.snd
  | _ => none

/-- With the address that has been recovered, and the hash. -/
def Server.verifyAgentRequestEnvelope (envelope : JsValue) (signature : String) :
    Except VerifyError (List CodeUnit × String) :=
  let requestHash := Server.hashAgentRequestEnvelope host envelope
  match host.verifyMessage requestHash signature,
    property (units (points "actorAddress")) envelope with
  | some recoveredAddress, some (.string actorAddress) =>
    if host.toLowerCase recoveredAddress = host.toLowerCase actorAddress then
      .ok (recoveredAddress, requestHash)
    else .error (.mismatch actorAddress recoveredAddress)
  | _, _ => .error .malformed

/-- **The two sides agree on an envelope**: they write the same bytes and make the same hash, and a
signature of the actor verifies. -/
structure Agree (envelope : AgentRequestEnvelope) : Prop where
  bytes : (Client.stableSerialize envelope.value).toUTF8 =
    (Server.stableSerialize host.collator (transport host.parseInteger envelope.value)).toUTF8
  hash : Client.hashAgentRequestEnvelope host envelope =
    Server.hashAgentRequestEnvelope host (transport host.parseInteger envelope.value)
  verifies : host.toLowerCase (units envelope.actorAddress) =
      host.toLowerCase (units host.getAddress) →
    ∃ recoveredAddress, Server.verifyAgentRequestEnvelope host
        (transport host.parseInteger envelope.value)
        (host.signMessage (Client.hashAgentRequestEnvelope host envelope)) =
      .ok (recoveredAddress, Client.hashAgentRequestEnvelope host envelope)

end

section

variable {host : Host}

/-- The keys of an envelope are different, for the server, too. -/
theorem nodup_envelopeKeys (envelope : AgentRequestEnvelope) :
    ((envelope.members.map Prod.fst).map units).Nodup := by
  have hkeys : ([points "actionType", points "actorAddress", points "agentId", points "issuedAt",
      points "payload", points "requestNonce", points "scopeKey"].map units).Nodup := by
    decide
  exact hkeys

theorem AgentRequestEnvelope.distinct_value (envelope : AgentRequestEnvelope) :
    envelope.value.Distinct := by
  refine distinct_object.mpr ⟨(nodup_envelopeKeys envelope).of_map, ?_⟩
  simp only [members, List.forall_mem_cons]
  exact ⟨True.intro, True.intro, True.intro, True.intro, envelope.distinct, True.intro, True.intro,
    fun _ h => absurd h List.not_mem_nil⟩

/-- The server reads what the client has put under a key. -/
theorem property_transport {parseInteger : ℤ → JsNumber}
    {members : List (List CodePoint × PyValue)}
    (hnodup : ((members.map Prod.fst).map units).Nodup) {key : List CodePoint} {value : PyValue}
    (hmem : (key, value) ∈ members) :
    property (units key) (transport parseInteger (.object members)) =
      some (transport parseInteger value) := by
  have hkeys : ((members.map (Prod.map units (transport parseInteger))).map Prod.fst).Nodup := by
    rwa [List.map_map] at hnodup ⊢
  rw [transport, transportMembers_eq, setProperties_of_nodup hkeys, property]
  have hperm := ownOrder_perm Prod.fst (members.map (Prod.map units (transport parseInteger)))
  have hreceived : (units key, transport parseInteger value) ∈
      ownOrder Prod.fst (members.map (Prod.map units (transport parseInteger))) :=
    hperm.mem_iff.mpr (List.mem_map.mpr ⟨(key, value), hmem, rfl⟩)
  cases hfound : (ownOrder Prod.fst (members.map (Prod.map units (transport parseInteger)))).find?
      fun member => decide (member.1 = units key) with
  | none =>
    exact absurd (decide_eq_true rfl) (List.find?_eq_none.mp hfound _ hreceived)
  | some member =>
    have hkey : member.1 = units key := by simpa using List.find?_some hfound
    obtain rfl := List.inj_on_of_nodup_map ((hperm.map Prod.fst).nodup_iff.mpr hkeys)
      (List.mem_of_find?_eq_some hfound) hreceived hkey
    rfl

/-- **What is agreed on follows from the bytes.** -/
theorem agree_iff_bytes (envelope : AgentRequestEnvelope) :
    Agree host envelope ↔ Client.stableSerialize envelope.value =
      Server.stableSerialize host.collator (transport host.parseInteger envelope.value) := by
  constructor
  · intro h
    have hbytes := h.bytes
    rw [String.toUTF8_eq_toByteArray, String.toUTF8_eq_toByteArray] at hbytes
    exact String.toByteArray_inj.mp hbytes
  · intro heq
    have hhash : Client.hashAgentRequestEnvelope host envelope =
        Server.hashAgentRequestEnvelope host (transport host.parseInteger envelope.value) := by
      rw [Client.hashAgentRequestEnvelope, Server.hashAgentRequestEnvelope, heq]
    refine ⟨congrArg String.toUTF8 heq, hhash, fun hactor => ?_⟩
    obtain ⟨recovered, hverify, haddress⟩ :=
      host.verify_sign (Client.hashAgentRequestEnvelope host envelope)
    have hproperty : property (units (points "actorAddress"))
        (transport host.parseInteger envelope.value) =
          some (.string (units envelope.actorAddress)) := by
      refine (property_transport (nodup_envelopeKeys envelope)
        (List.mem_cons_of_mem _ List.mem_cons_self)).trans ?_
      rw [transport]
    refine ⟨recovered, ?_⟩
    rw [Server.verifyAgentRequestEnvelope, ← hhash, hproperty]
    simp only [hverify]
    rw [if_pos (haddress.trans hactor.symm)]

/-- **The same text** is written of the envelopes that are canonical. -/
theorem stableSerialize_eq_iff (envelope : AgentRequestEnvelope) :
    Client.stableSerialize envelope.value =
        Server.stableSerialize host.collator (transport host.parseInteger envelope.value) ↔
      Canonical host.collator envelope.value := by
  rw [← written_eq_iff envelope.value envelope.distinct_value]
  exact serialize_eq_iff PyNumber.text_eq JsNumber.text_eq isQuoted_dumps isQuoted_quoteUnits
    PyNumber.good_write JsNumber.good_write _ _

/-- **The two sides agree** exactly on the envelopes that are canonical. -/
theorem agree_iff_canonical (envelope : AgentRequestEnvelope) :
    Agree host envelope ↔ Canonical host.collator envelope.value := by
  rw [agree_iff_bytes, stableSerialize_eq_iff]

/-- A request that is signed for the address of the signer verifies if its envelope is canonical. -/
theorem verifies_of_canonical {input : SignedRequestInput} {now nonce : List CodePoint}
    (hactor : input.actorAddress = none)
    (hcanonical : Canonical host.collator
      (Client.createSignedAgentRequest host input now nonce).1.value) :
    ∃ answer, Server.verifyAgentRequestEnvelope host
      (transport host.parseInteger (Client.createSignedAgentRequest host input now nonce).1.value)
      (Client.createSignedAgentRequest host input now nonce).2 = .ok answer := by
  have hagree := (agree_iff_bytes (Client.createSignedAgentRequest host input now nonce).1).mpr
    ((stableSerialize_eq_iff _).mpr hcanonical)
  obtain ⟨recovered, hverify⟩ := hagree.verifies (by
    rw [Client.createSignedAgentRequest, hactor]
    rfl)
  exact ⟨_, hverify⟩

/-- Texts in ASCII and numbers with decimals are canonical. -/
example : Canonical host.collator (.object [(points "effort",
    .array [.string (points "1.5 h"), .number (.float ⟨false, 15, 1, by decide, by decide⟩)])]) := by
  refine canonical_object.mpr ⟨fun k hk k' hk' hlt => ?_, ?_⟩
  · rw [List.mem_singleton.mp hk, List.mem_singleton.mp hk'] at hlt
    exact absurd hlt (lt_irrefl _)
  · refine List.forall_mem_singleton.mpr ⟨by decide, canonical_array.mpr ?_⟩
    rw [List.forall_mem_cons, List.forall_mem_singleton]
    exact ⟨(by decide : Plain _), (by decide : Decimal.Alike _)⟩

/-! ### An envelope with an integer -/

/-- Texts in the order of their code units. -/
def codeUnitOrder : Collator where
  localeCompare left right := if left ≤ right then if right ≤ left then 0 else -1 else 1
  total left right := by
    rcases le_total left right with hle | hle
    · left
      rw [if_pos hle]
      split <;> decide
    · right
      rw [if_pos hle]
      split <;> decide
  trans left middle right := by
    have hle : ∀ a b : List CodeUnit,
        (if a ≤ b then if b ≤ a then (0 : ℤ) else -1 else 1) ≤ 0 ↔ a ≤ b := by
      intro a b
      split
      next hab =>
        refine iff_of_true ?_ hab
        split <;> decide
      next hab => exact iff_of_false (by decide) hab
    rw [hle, hle, hle]
    exact le_trans

/-- A host whose signatures are all of one address, and that has read the five. -/
def someHost : Host where
  collator := codeUnitOrder
  parseInteger _ := .finite ⟨false, 5, 1, by decide, by decide⟩
  sha256 bytes := toString bytes.size
  toLowerCase := id
  getAddress := points "0xa"
  signMessage := id
  verifyMessage _ _ := some (units (points "0xa"))
  verify_sign _ := ⟨_, rfl, rfl⟩

/-- A request with the payload `{"n": 5}`. -/
def integerEnvelope : AgentRequestEnvelope where
  actionType := points "review_task_claim"
  actorAddress := points "0xa"
  agentId := points "1"
  issuedAt := points "2026-01-01T00:00:00Z"
  payload := [(points "n", .number (.int 5))]
  requestNonce := points "0"
  scopeKey := points "review-task:1"
  distinct := ⟨List.nodup_singleton _, True.intro, True.intro⟩

/-- **The five is a text for the client and a number for the server.** -/
theorem integer_not_agreed :
    ¬∀ (host : Host) (envelope : AgentRequestEnvelope), Agree host envelope := by
  intro h
  have hcanonical := (stableSerialize_eq_iff integerEnvelope).mp
    ((agree_iff_bytes integerEnvelope).mp (h someHost integerEnvelope))
  obtain ⟨-, hmembers⟩ := canonical_object.mp hcanonical
  have hpayload := (hmembers (points "payload", .object integerEnvelope.payload)
    (by simp [integerEnvelope, AgentRequestEnvelope.members])).2
  exact ((canonical_object.mp hpayload).2 _ List.mem_cons_self).2

end

end ScientificProtocol.AgentRequests
