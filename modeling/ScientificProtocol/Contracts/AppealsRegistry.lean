import ScientificProtocol.Contracts.EpistemicMarket

/-!
# `AppealsRegistry`

`contracts/AppealsRegistry.sol`: bonded appeals, adjudicated once. A lost appeal
pushes its bond to the immutable recipient in the middle of the adjudication; a
won or closed one credits the appellant, who withdraws later.
-/

namespace ScientificProtocol

open Evm

structure AppealRecord where
  appealId : ℕ
  claimId : ℕ
  replicationId : ℕ
  challengeId : ℕ
  appellant : Address
  reason : AppealReason
  filingHash : Bytes32
  uri : String
  status : AppealStatus
  adjudicationHash : Bytes32
  adjudicationURI : String
  bondAmount : ℕ
  createdAt : ℕ
  adjudicatedAt : ℕ
  deriving DecidableEq, Inhabited

namespace AppealsRegistry

inductive Event where
  | appealFiled (appealId claimId : ℕ) (appellant : Address) (reason : AppealReason)
      (replicationId challengeId bondAmount : ℕ)
  | appealAdjudicated (appealId : ℕ) (status : AppealStatus) (adjudicationHash : Bytes32)
      (adjudicationURI : String) (refundedAmount forfeitedAmount : ℕ) (actor : Address)
  | appealBondWithdrawn (account recipient : Address) (amount : ℕ)
  | depositsPauseSet (paused : Bool) (actor : Address)
  deriving DecidableEq

/-- A call that is at its transfer. -/
inductive Pending where
  | adjudicateAppeal (appealId : ℕ) (status : AppealStatus) (adjudicationHash : Bytes32)
      (adjudicationURI : String) (forfeitedAmount : ℕ) (actor : Address)
  | withdrawRefundedBond (account recipient : Address) (amount : ℕ)
  deriving DecidableEq

/-- The entry points of the registry. -/
inductive Call where
  | fileAppeal (claimId replicationId challengeId : ℕ) (reason : AppealReason)
      (filingHash : Bytes32) (uri : String)
  | adjudicateAppeal (appealId : ℕ) (status : AppealStatus) (adjudicationHash : Bytes32)
      (adjudicationURI : String)
  | withdrawRefundedBond (amount : ℕ) (recipient : Address)
  | setDepositsPaused (paused : Bool)
  deriving DecidableEq

/-- The `payable` entry points. -/
def Call.payable : Call → Bool
  | .fileAppeal .. => true
  | _ => false

end AppealsRegistry

/-- The storage of the registry, its ether and its log. -/
structure AppealsRegistry where
  nextAppealId : ℕ
  appeals : Mapping ℕ AppealRecord
  refundableBondBalances : Mapping Address ℕ
  depositsPaused : Bool
  entered : Bool
  balance : ℕ
  logs : List AppealsRegistry.Event
  deriving Inhabited

namespace AppealsRegistry

/-- The registry as it is deployed. -/
def deployed : AppealsRegistry := { (default : AppealsRegistry) with nextAppealId := 1 }

/-- The outcomes that forfeit the bond. -/
def forfeits (status : AppealStatus) : Bool := decide (status = .rejected ∨ status = .upheld)

variable (ctx : Ctx) (self : AppealsRegistry)

def getAppeal (appealId : ℕ) : AppealRecord := self.appeals appealId

/-! ### Entry points -/

def fileAppeal (claimRegistry : ClaimRegistry) (replicationRegistry : ReplicationRegistry)
    (epistemicMarket : EpistemicMarket) (claimId replicationId challengeId : ℕ)
    (reason : AppealReason) (filingHash : Bytes32) (uri : String) :
    Tx Revert (ℕ × AppealsRegistry) := do
  whenDepositsNotPaused self.depositsPaused
  revertIf (¬claimRegistry.claimExists claimId) (.appealsRegistryUnknownClaim claimId)
  revertIf (replicationId ≠ 0 ∧ replicationRegistry.getReplicationClaimId replicationId ≠ claimId)
    (.appealsRegistryUnknownReplication claimId replicationId)
  revertIf (challengeId ≠ 0 ∧ epistemicMarket.getChallengeClaimId challengeId ≠ claimId)
    (.appealsRegistryUnknownChallenge claimId challengeId)
  revertIf (ctx.value = 0) (.appealsRegistryInvalidAmount ctx.value)
  let appealId := self.nextAppealId
  let nextAppealId ← checkedAdd appealId 1
  let appeal : AppealRecord :=
    { appealId, claimId, replicationId, challengeId, appellant := ctx.sender, reason, filingHash,
      uri, status := .filed, adjudicationHash := 0, adjudicationURI := "",
      bondAmount := ctx.value, createdAt := ctx.timestamp, adjudicatedAt := 0 }
  return (appealId, { self with
    nextAppealId
    appeals := self.appeals.set appealId appeal
    logs := self.logs ++
      [.appealFiled appealId claimId ctx.sender reason replicationId challengeId ctx.value] })

/-- `_safeTransferValue`, up to the recipient's code. -/
def safeTransferValue (recipient : Address) (amount : ℕ) (pending : Pending) :
    Tx Revert (Outcome AppealsRegistry Pending) := do
  revertIf (self.balance < amount ∨ ctx.refusesValue recipient)
    (.appealsRegistryTransferFailed recipient amount)
  return .transfer recipient amount pending
    { self with balance := self.balance - amount, entered := true }

def adjudicateAppeal (appealId : ℕ) (status : AppealStatus) (adjudicationHash : Bytes32)
    (adjudicationURI : String) : Tx Revert (Outcome AppealsRegistry Pending) := do
  ctx.onlyRole .court
  nonReentrant self.entered
  let appeal := self.appeals appealId
  revertIf (appeal.appealId = 0) (.appealsRegistryUnknownAppeal appealId)
  revertIf (appeal.adjudicatedAt ≠ 0) (.appealsRegistryAlreadyAdjudicated appealId)
  revertIf (status = .filed) (.appealsRegistryInvalidStatus status)
  let self := { self with
    appeals := self.appeals.set appealId
      { appeal with status, adjudicationHash, adjudicationURI, adjudicatedAt := ctx.timestamp } }
  -- A forfeited bond is pushed at once; any other outcome credits the appellant.
  if forfeits status then
    self.safeTransferValue ctx ctx.deployment.forfeitRecipient appeal.bondAmount
      (.adjudicateAppeal appealId status adjudicationHash adjudicationURI appeal.bondAmount
        ctx.sender)
  else
    let refundable ←
      checkedAdd (self.refundableBondBalances appeal.appellant) appeal.bondAmount
    return .done { self with
      refundableBondBalances := self.refundableBondBalances.set appeal.appellant refundable
      logs := self.logs ++ [.appealAdjudicated appealId status adjudicationHash adjudicationURI
        appeal.bondAmount 0 ctx.sender] }

def withdrawRefundedBond (amount : ℕ) (recipient : Address) :
    Tx Revert (Outcome AppealsRegistry Pending) := do
  nonReentrant self.entered
  revertIf (amount = 0) (.appealsRegistryInvalidAmount amount)
  revertIf (recipient = 0) (.appealsRegistryInvalidRecipient recipient)
  let available := self.refundableBondBalances ctx.sender
  revertIf (available < amount)
    (.appealsRegistryInsufficientRefundBalance ctx.sender amount available)
  let refundable ← checkedSub available amount
  let self := { self with
    refundableBondBalances := self.refundableBondBalances.set ctx.sender refundable }
  self.safeTransferValue ctx recipient amount (.withdrawRefundedBond ctx.sender recipient amount)

def setDepositsPaused (paused : Bool) : Tx Revert AppealsRegistry := do
  ctx.onlyRole .pauser
  return { self with
    depositsPaused := paused
    logs := self.logs ++ [.depositsPauseSet paused ctx.sender] }

/-- What is left of a call after its transfer: the event, and the guard. -/
def resume (pending : Pending) : AppealsRegistry :=
  let event : Event := match pending with
    | .adjudicateAppeal appealId status adjudicationHash adjudicationURI forfeitedAmount actor =>
      .appealAdjudicated appealId status adjudicationHash adjudicationURI 0 forfeitedAmount actor
    | .withdrawRefundedBond account recipient amount =>
      .appealBondWithdrawn account recipient amount
  { self with entered := false, logs := self.logs ++ [event] }

/-- A call from outside: `msg.value` arrives, and the entry point runs. -/
def exec (claimRegistry : ClaimRegistry) (replicationRegistry : ReplicationRegistry)
    (epistemicMarket : EpistemicMarket) (call : Call) :
    Tx Revert (Outcome AppealsRegistry Pending) := do
  let balance ← ctx.receiveValue call.payable self.balance
  let self := { self with balance }
  match call with
  | .fileAppeal claimId replicationId challengeId reason filingHash uri =>
    (fun r => .done r.2) <$> self.fileAppeal ctx claimRegistry replicationRegistry
      epistemicMarket claimId replicationId challengeId reason filingHash uri
  | .adjudicateAppeal appealId status adjudicationHash adjudicationURI =>
    self.adjudicateAppeal ctx appealId status adjudicationHash adjudicationURI
  | .withdrawRefundedBond amount recipient => self.withdrawRefundedBond ctx amount recipient
  | .setDepositsPaused paused => .done <$> self.setDepositsPaused ctx paused

end AppealsRegistry

end ScientificProtocol
