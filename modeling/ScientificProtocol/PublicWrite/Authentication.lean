import ScientificProtocol.PublicWrite.Requests

/-!
# Authentication of public write requests

`authenticateSignedPublicWriteRequestBody` of `src/api/auth.ts`: the body is checked, and
then looked up, recorded, and looked up again if it has been recorded in the meantime.
Each of these is one statement, and anything may happen between two of them, so
authentication is a sequence of steps here
(`ScientificProtocol.PublicWrite.Authentication.next`).

Whatever happens, what it returns is the request that has the hash of the body
(`ScientificProtocol.PublicWrite.Authentication.next_authenticated`).
-/

namespace ScientificProtocol.PublicWrite

/-! ### What is received -/

structure PublicWriteEnvelope where
  actionType : PublicWriteActionType
  actorAddress : String
  chainId : ℕ
  issuedAt : String
  payload : String
  requestNonce : String
  scopeKey : String
  deriving DecidableEq

structure SignedPublicWriteRequestBody where
  envelope : PublicWriteEnvelope
  signature : String
  deriving DecidableEq

/-- What the route that has been called expects. -/
structure PublicWriteExpected where
  actionType : List PublicWriteActionType
  allowRecordedReplay : Bool
  allowRecordedReplayActionTypes : List PublicWriteActionType
  chainId : ℕ
  scopeKey : Option String
  scopeKeyValidator : Option (String → PublicWriteEnvelope → Bool)

/-- What the process is running on: the hash of envelopes, the recovery of the address that
has signed a hash, and the reading of dates. -/
structure Host where
  hashPublicWriteEnvelope : PublicWriteEnvelope → String
  verifyMessage : String → String → Except String String
  /-- `new Date(text).getTime()`, where this is a number. -/
  getTime : String → Option ℤ

section

variable (host : Host)

def verifyPublicWriteEnvelope (signed : SignedPublicWriteRequestBody) : Except String String := do
  let requestHash := host.hashPublicWriteEnvelope signed.envelope
  let recoveredAddress ← host.verifyMessage requestHash signed.signature
  if Js.toLowerCase recoveredAddress ≠ Js.toLowerCase signed.envelope.actorAddress then
    .error ("public write request signature mismatch: expected " ++ signed.envelope.actorAddress ++
      ", recovered " ++ recoveredAddress)
  else .ok requestHash

/-- A body whose envelope is what the route expects, and signed by its actor. -/
structure CheckedRequest where
  signed : SignedPublicWriteRequestBody
  requestHash : String
  allowRecordedReplay : Bool

/-- The checks that come before the first statement. -/
def checkSignedPublicWriteRequest (expected : PublicWriteExpected)
    (signed : SignedPublicWriteRequestBody) : Except String CheckedRequest := do
  let envelope := signed.envelope
  if envelope.actionType ∉ expected.actionType then throw "public_write_action_mismatch"
  if envelope.chainId ≠ expected.chainId then throw "public_write_chain_mismatch"
  if expected.scopeKey.any fun scopeKey => decide (envelope.scopeKey ≠ scopeKey) then
    throw "public_write_scope_mismatch"
  if expected.scopeKeyValidator.any fun valid => !valid envelope.scopeKey envelope then
    throw "public_write_scope_mismatch"
  let requestHash ← verifyPublicWriteEnvelope host signed
  return {
    signed, requestHash
    allowRecordedReplay := expected.allowRecordedReplay ||
      decide (envelope.actionType ∈ expected.allowRecordedReplayActionTypes) }

/-- A request that has not been recorded must be recent. -/
def checkIssuedAt (dateNow : ℤ) (envelope : PublicWriteEnvelope) : Except String Unit :=
  match host.getTime envelope.issuedAt with
  | none => .error "invalid_public_write_issued_at"
  | some issuedAt =>
    if 15 * 60 * 1000 < (dateNow - issuedAt).natAbs then .error "public_write_request_expired"
    else .ok ()

end

/-- What authentication returns. -/
structure AuthenticatedRequest where
  acceptedRequestId : ℕ
  recordedReplay : Bool
  request : CheckedRequest

/-- How far authentication has come. -/
inductive Authentication where
  | idle
  /-- The body has been checked, and is looked up if it may be replayed. -/
  | checked (request : CheckedRequest)
  /-- It has not been found, and is going to be recorded. -/
  | fresh (request : CheckedRequest)
  /-- It has been recorded in the meantime, and is looked up again. -/
  | duplicate (request : CheckedRequest)
  | authenticated (result : AuthenticatedRequest)
  | refused (error : String)

/-- What is recorded of a request. -/
def CheckedRequest.input (request : CheckedRequest) : PublicWriteInput where
  actionType := request.signed.envelope.actionType
  actorAddress := request.signed.envelope.actorAddress
  chainId := request.signed.envelope.chainId
  outcomeDetail := none
  payload := request.signed.envelope.payload
  requestHash := request.requestHash
  requestNonce := request.signed.envelope.requestNonce
  scopeKey := request.signed.envelope.scopeKey
  signature := request.signed.signature
  status := .pending

namespace Authentication

/-- Authentication begins. -/
def start (host : Host) (expected : PublicWriteExpected) (signed : SignedPublicWriteRequestBody) :
    Authentication :=
  match checkSignedPublicWriteRequest host expected signed with
  | .ok request => .checked request
  | .error error => .refused error

/-- The next statement of `authenticateSignedPublicWriteRequestBody`. -/
def next (host : Host) (dateNow : ℤ) (now : Time) (t : PublicWriteRequests) :
    Authentication → Option (PublicWriteRequests × Authentication)
  | .checked request =>
    let recorded :=
      if request.allowRecordedReplay then readPublicWriteRequestByHash t request.requestHash
      else none
    match recorded with
    | some (requestId, _) => some (t, .authenticated ⟨requestId, true, request⟩)
    | none => match checkIssuedAt host dateNow request.signed.envelope with
      | .ok () => some (t, .fresh request)
      | .error error => some (t, .refused error)
  | .fresh request => match insertPublicWriteRequest now t request.input with
    | some (requestId, t') => some (t', .authenticated ⟨requestId, false, request⟩)
    | none =>
      -- The nonce may be the one that is recorded, with another hash.
      if request.allowRecordedReplay then some (t, .duplicate request)
      else some (t, .refused "public_write_request_duplicate")
  | .duplicate request => match readPublicWriteRequestByHash t request.requestHash with
    | some (requestId, _) => some (t, .authenticated ⟨requestId, true, request⟩)
    | none => some (t, .refused "public_write_request_duplicate")
  | .idle | .authenticated _ | .refused _ => none

end Authentication

namespace PublicWriteRequests

variable {t : PublicWriteRequests}

theorem readPublicWriteRequestByHash_eq_some {requestHash : String} {requestId : ℕ}
    {row : PublicWriteRequest}
    (h : readPublicWriteRequestByHash t requestHash = some (requestId, row)) :
    t.rows requestId = some row ∧ row.requestHash = requestHash :=
  Sql.Serial.findBy_eq_some h

end PublicWriteRequests

/-- **What authentication returns is the request with the hash of the body.** -/
theorem Authentication.next_authenticated {host : Host} {dateNow : ℤ} {now : Time}
    {t t' : PublicWriteRequests} {a : Authentication} {result : AuthenticatedRequest}
    (h : a.next host dateNow now t = some (t', .authenticated result)) :
    ∃ row, t'.rows result.acceptedRequestId = some row ∧
      row.requestHash = result.request.requestHash := by
  have hread : ∀ {request : CheckedRequest} {requestId : ℕ} {row : PublicWriteRequest},
      readPublicWriteRequestByHash t request.requestHash = some (requestId, row) →
      ∃ row, t.rows requestId = some row ∧ row.requestHash = request.requestHash :=
    fun hfound => ⟨_, PublicWriteRequests.readPublicWriteRequestByHash_eq_some hfound⟩
  cases a with
  | idle | authenticated _ | refused _ => exact absurd h (by simp [next])
  | checked request =>
    simp only [next] at h
    split at h
    next requestId row hfound =>
      obtain ⟨rfl, hresult⟩ := Prod.mk.inj (Option.some.inj h)
      obtain rfl := Authentication.authenticated.inj hresult
      exact hread (Option.ite_none_right_eq_some.mp hfound).2
    next => split at h <;> exact absurd h (by simp)
  | fresh request =>
    simp only [next] at h
    split at h
    next requestId t₁ hinsert =>
      obtain ⟨rfl, hresult⟩ := Prod.mk.inj (Option.some.inj h)
      obtain rfl := Authentication.authenticated.inj hresult
      obtain ⟨rfl, hrows⟩ := PublicWriteRequests.insertPublicWriteRequest_eq_some hinsert
      exact ⟨_, by rw [hrows, Sql.Serial.insert_self], rfl⟩
    next => split at h <;> exact absurd h (by simp)
  | duplicate request =>
    simp only [next] at h
    split at h
    next requestId row hfound =>
      obtain ⟨rfl, hresult⟩ := Prod.mk.inj (Option.some.inj h)
      obtain rfl := Authentication.authenticated.inj hresult
      exact hread hfound
    next => exact absurd h (by simp)

end ScientificProtocol.PublicWrite
