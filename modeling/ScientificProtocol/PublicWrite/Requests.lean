import ScientificProtocol.Js.Text
import ScientificProtocol.Sql.Table

/-!
# Public write requests

`src/shared/public-write-requests.ts`: the table of the signed requests that have been
received, and the statements that write it. A request is recorded once, by its hash and by
the nonce its actor has given it, and carries the lease of whoever is executing it.

The two unique indexes are part of the table here, so that a table that breaks one cannot
be written down; what an insertion does when it meets one is to fail
(`ScientificProtocol.PublicWrite.insertPublicWriteRequest`).
-/

namespace ScientificProtocol.PublicWrite

/-- A time stamp, in milliseconds. -/
abbrev Time : Type := ℕ

inductive PublicWriteActionType where
  | claimCreate
  | claimPublish
  | claimDraftFromArtifact
  | domainRecompute
  | replicationJobOpen
  | replicationJobProcess
  | replicationJobResolve
  | sourceSubmit
  | sourcePublicationConfirm
  | sourcePublicationReject
  deriving DecidableEq, Repr

inductive PublicWriteRequestStatus where
  | accepted
  | pending
  | rejected
  deriving DecidableEq, Repr

/-- What `insertPublicWriteRequest` is given. The payload is a JSON text. -/
structure PublicWriteInput where
  actionType : PublicWriteActionType
  actorAddress : String
  chainId : ℕ
  outcomeDetail : Option String
  payload : String
  requestHash : String
  requestNonce : String
  scopeKey : String
  signature : String
  status : PublicWriteRequestStatus
  deriving DecidableEq

/-- A row of `public_write_requests`. -/
structure PublicWriteRequest extends PublicWriteInput where
  executionLeaseOwner : Option String
  executionLeaseExpiresAt : Option Time
  createdAt : Time
  updatedAt : Time
  deriving DecidableEq

/-- The columns of `public_write_requests_actor_nonce_idx`. -/
def PublicWriteInput.nonceKey (input : PublicWriteInput) :
    PublicWriteActionType × String × String :=
  (input.actionType, Js.toLowerCase input.actorAddress, input.requestNonce)

/-- The row of a new request. -/
def PublicWriteInput.row (now : Time) (input : PublicWriteInput) : PublicWriteRequest :=
  { input with
    actorAddress := Js.toLowerCase input.actorAddress, executionLeaseOwner := none
    executionLeaseExpiresAt := none, createdAt := now, updatedAt := now }

namespace PublicWriteRequest

variable (now : Time) (row : PublicWriteRequest)

/-! ### What a statement asks of a row, and writes into it -/

/-- Nobody is executing the request, as far as the row says. -/
def leaseFree : Bool := row.executionLeaseExpiresAt.all fun expiresAt => decide (expiresAt ≤ now)

/-- An owner has the lease, and it has not expired. -/
def leasedTo (leaseOwner : String) : Bool :=
  decide (row.executionLeaseOwner = some leaseOwner) &&
    row.executionLeaseExpiresAt.any fun expiresAt => decide (now < expiresAt)

def reserve (leaseMs : ℕ) (leaseOwner : String) : PublicWriteRequest :=
  { row with
    executionLeaseOwner := some leaseOwner, executionLeaseExpiresAt := some (now + leaseMs)
    updatedAt := now }

def renew (leaseMs : ℕ) : PublicWriteRequest :=
  { row with executionLeaseExpiresAt := some (now + leaseMs), updatedAt := now }

def release : PublicWriteRequest :=
  { row with executionLeaseOwner := none, executionLeaseExpiresAt := none, updatedAt := now }

/-- `WHERE status <> 'accepted'` keeps a request that has been accepted. -/
def mark (status : PublicWriteRequestStatus) (outcomeDetail : Option String) :
    PublicWriteRequest :=
  if row.status = .accepted then row else { row with status, outcomeDetail, updatedAt := now }

/-- The columns that are written once. -/
def identity : String × PublicWriteActionType × String × String :=
  (row.requestHash, row.nonceKey)

/-- What a statement may do to a row. -/
structure Kept (row' : PublicWriteRequest) : Prop where
  identity_eq : row'.identity = row.identity
  accepted_kept : row.status = .accepted →
    row'.status = .accepted ∧ row'.outcomeDetail = row.outcomeDetail

variable {now} {row}

theorem Kept.refl : row.Kept row := ⟨rfl, fun h => ⟨h, rfl⟩⟩

theorem kept_reserve {leaseMs : ℕ} {leaseOwner : String} :
    row.Kept (row.reserve now leaseMs leaseOwner) :=
  ⟨rfl, fun h => ⟨h, rfl⟩⟩

theorem kept_renew {leaseMs : ℕ} : row.Kept (row.renew now leaseMs) := ⟨rfl, fun h => ⟨h, rfl⟩⟩

theorem kept_release : row.Kept (row.release now) := ⟨rfl, fun h => ⟨h, rfl⟩⟩

theorem kept_mark {status : PublicWriteRequestStatus} {outcomeDetail : Option String} :
    row.Kept (row.mark now status outcomeDetail) := by
  rw [mark]
  split
  next => exact .refl
  next hpending => exact ⟨rfl, fun h => absurd h hpending⟩

theorem leasedTo_iff {leaseOwner : String} : row.leasedTo now leaseOwner = true ↔
    row.executionLeaseOwner = some leaseOwner ∧
      ∃ expiresAt, row.executionLeaseExpiresAt = some expiresAt ∧ now < expiresAt := by
  simp only [leasedTo, Bool.and_eq_true, decide_eq_true_eq, Option.any_eq_true]

end PublicWriteRequest

/-! ### The table -/

/-- The table `public_write_requests`, with its unique indexes. -/
structure PublicWriteRequests where
  rows : Sql.Serial PublicWriteRequest
  hash_unique : rows.Unique (·.requestHash)
  nonce_unique : rows.Unique (·.nonceKey)

namespace PublicWriteRequests

/-- The table as it is set up. -/
def empty : PublicWriteRequests := ⟨.empty, Sql.Serial.unique_empty, Sql.Serial.unique_empty⟩

variable (t : PublicWriteRequests)

/-- Updating a row, by something a statement may do. -/
def update (requestId : ℕ) (f : PublicWriteRequest → PublicWriteRequest)
    (hf : ∀ row, PublicWriteRequest.Kept row (f row)) : PublicWriteRequests where
  rows := t.rows.update requestId f
  hash_unique := t.hash_unique.update fun row => congrArg Prod.fst (hf row).identity_eq
  nonce_unique := t.nonce_unique.update fun row => congrArg Prod.snd (hf row).identity_eq

/-- Updating a row, if it is as asked. -/
def updateIf (requestId : ℕ) (p : PublicWriteRequest → Bool)
    (f : PublicWriteRequest → PublicWriteRequest)
    (hf : ∀ row, PublicWriteRequest.Kept row (f row)) : Option PublicWriteRequests :=
  if (t.rows requestId).any p then some (t.update requestId f hf) else none

end PublicWriteRequests

section

variable (now : Time) (t : PublicWriteRequests)

/-- Recording a request, with the identifier it gets. It fails where the hash is recorded,
or the nonce. -/
def insertPublicWriteRequest (input : PublicWriteInput) : Option (ℕ × PublicWriteRequests) :=
  if h : t.rows.findBy (·.requestHash) (input.row now).requestHash = none ∧
      t.rows.findBy (·.nonceKey) (input.row now).nonceKey = none then
    some (t.rows.next,
      ⟨t.rows.insert (input.row now), t.hash_unique.insert h.1, t.nonce_unique.insert h.2⟩)
  else none

def readPublicWriteRequestByHash (requestHash : String) : Option (ℕ × PublicWriteRequest) :=
  t.rows.findBy (·.requestHash) requestHash

/-- What the three functions that set a status have in common: the request must be there. -/
def markPublicWriteRequest (status : PublicWriteRequestStatus) (outcomeDetail : Option String)
    (missing : String) (requestId : ℕ) : Except String PublicWriteRequests :=
  if (t.rows requestId).isSome then
    .ok (t.update requestId (·.mark now status outcomeDetail) fun _ => PublicWriteRequest.kept_mark)
  else .error missing

def markPublicWriteRequestAccepted (requestId : ℕ) (outcomeDetail : Option String) :
    Except String PublicWriteRequests :=
  markPublicWriteRequest now t .accepted outcomeDetail
    "public_write_request_not_found_after_accept" requestId

def markPublicWriteRequestPending (requestId : ℕ) (outcomeDetail : String) :
    Except String PublicWriteRequests :=
  markPublicWriteRequest now t .pending (some (Js.slice 2000 outcomeDetail))
    "public_write_request_not_found_after_pending_update" requestId

def markPublicWriteRequestRejected (requestId : ℕ) (outcomeDetail : String) :
    Except String PublicWriteRequests :=
  markPublicWriteRequest now t .rejected (some (Js.slice 2000 outcomeDetail))
    "public_write_request_not_found_after_reject" requestId

/-! ### The lease of whoever executes a request -/

/-- Taking the lease of a request, if nobody has it. -/
def reservePublicWriteRequestExecution (leaseMs : ℕ) (leaseOwner : String) (requestId : ℕ) :
    Option PublicWriteRequests :=
  t.updateIf requestId (·.leaseFree now) (·.reserve now leaseMs leaseOwner) fun _ =>
    PublicWriteRequest.kept_reserve

/-- Extending the lease of a request, by the owner that has it. -/
def renewPublicWriteRequestExecution (leaseMs : ℕ) (leaseOwner : String) (requestId : ℕ) :
    Option PublicWriteRequests :=
  t.updateIf requestId (·.leasedTo now leaseOwner) (·.renew now leaseMs) fun _ =>
    PublicWriteRequest.kept_renew

/-- An owner has the lease of a request. -/
def assertPublicWriteRequestExecution (leaseOwner : String) (requestId : ℕ) : Except String Unit :=
  if (t.rows requestId).any (·.leasedTo now leaseOwner) then .ok ()
  else .error "public_write_request_execution_lease_lost"

/-- Giving the lease of a request back, by its owner, expired or not. -/
def releasePublicWriteRequestExecution (leaseOwner : String) (requestId : ℕ) :
    PublicWriteRequests :=
  (t.updateIf requestId (fun row => decide (row.executionLeaseOwner = some leaseOwner))
    (·.release now) fun _ => PublicWriteRequest.kept_release).getD t

end

/-! ### What a statement does -/

namespace PublicWriteRequests

variable {now : Time} {t t' : PublicWriteRequests} {requestId : ℕ}

/-- **What a statement keeps**: every request that is recorded, with its identity, and what
became of it once it has been accepted. -/
def Kept (t t' : PublicWriteRequests) : Prop :=
  ∀ r row, t.rows r = some row → ∃ row', t'.rows r = some row' ∧ row.Kept row'

theorem Kept.refl (t : PublicWriteRequests) : t.Kept t := fun _ row h => ⟨row, h, .refl⟩

theorem Kept.trans {t'' : PublicWriteRequests} (h : t.Kept t') (h' : t'.Kept t'') :
    t.Kept t'' := by
  intro r row hrow
  obtain ⟨row', hrow', hkept⟩ := h r row hrow
  obtain ⟨row'', hrow'', hkept'⟩ := h' r row' hrow'
  refine ⟨row'', hrow'', hkept'.identity_eq.trans hkept.identity_eq, fun haccepted => ?_⟩
  obtain ⟨haccepted', houtcome⟩ := hkept.accepted_kept haccepted
  obtain ⟨haccepted'', houtcome'⟩ := hkept'.accepted_kept haccepted'
  exact ⟨haccepted'', houtcome'.trans houtcome⟩

theorem kept_update {f : PublicWriteRequest → PublicWriteRequest}
    (hf : ∀ row, PublicWriteRequest.Kept row (f row)) :
    t.Kept (t.update requestId f hf) := by
  intro r row hrow
  refine ⟨_, Sql.Serial.update_eq_some.mpr ⟨row, hrow, rfl⟩, ?_⟩
  split
  · exact hf row
  · exact .refl

/-- An update that is made finds the row as asked. -/
theorem updateIf_eq_some {p : PublicWriteRequest → Bool}
    {f : PublicWriteRequest → PublicWriteRequest} {hf : ∀ row, PublicWriteRequest.Kept row (f row)}
    (h : t.updateIf requestId p f hf = some t') :
    (∃ row, t.rows requestId = some row ∧ p row = true) ∧ t' = t.update requestId f hf := by
  obtain ⟨hp, heq⟩ := Option.ite_none_right_eq_some.mp h
  exact ⟨(Option.any_eq_true _ _).mp hp, (Option.some.inj heq).symm⟩

theorem updateIf_eq_none {p : PublicWriteRequest → Bool}
    {f : PublicWriteRequest → PublicWriteRequest} {hf : ∀ row, PublicWriteRequest.Kept row (f row)}
    (h : ∀ row, t.rows requestId = some row → p row = false) :
    t.updateIf requestId p f hf = none := by
  refine if_neg fun hany => ?_
  obtain ⟨row, hrow, hp⟩ := (Option.any_eq_true _ _).mp hany
  rw [h row hrow] at hp
  exact absurd hp (by decide)

theorem markPublicWriteRequest_eq_ok {status : PublicWriteRequestStatus}
    {outcomeDetail : Option String} {missing : String}
    (h : markPublicWriteRequest now t status outcomeDetail missing requestId = .ok t') :
    t' = t.update requestId (·.mark now status outcomeDetail) fun _ =>
      PublicWriteRequest.kept_mark := by
  unfold markPublicWriteRequest at h
  split at h
  · exact (Except.ok.inj h).symm
  · exact absurd h (by simp)

/-- What recording a request does. -/
theorem insertPublicWriteRequest_eq_some {input : PublicWriteInput}
    (h : insertPublicWriteRequest now t input = some (requestId, t')) :
    requestId = t.rows.next ∧ t'.rows = t.rows.insert (input.row now) := by
  unfold insertPublicWriteRequest at h
  split at h
  · obtain ⟨rfl, rfl⟩ := Prod.mk.inj (Option.some.inj h)
    exact ⟨rfl, rfl⟩
  · exact absurd h (by simp)

end PublicWriteRequests

end ScientificProtocol.PublicWrite
