import ScientificProtocol.Contracts.ClaimRegistry

/-!
# `BondEscrow`

`contracts/BondEscrow.sol`: author bonds, the bounties of a claim and the
reservations that bind parts of a bounty to one replication each. Three entry
points push value: a release pays the replicator, a slash pays the immutable
treasury, and a withdrawal pays whom the author names.
-/

namespace ScientificProtocol

open Evm

structure BountyReservation where
  recipient : Address
  amount : ℕ
  released : Bool
  cancelled : Bool
  deriving DecidableEq, Inhabited

namespace BondEscrow

inductive Event where
  | authorBondDeposited (claimId : ℕ) (funder : Address) (amount : ℕ)
  | replicationBountyFunded (claimId : ℕ) (funder : Address) (amount : ℕ)
  | bountyPayoutReserved (claimId replicationId : ℕ) (recipient : Address) (amount : ℕ)
  | bountyPayoutReleased (claimId replicationId : ℕ) (recipient : Address) (amount : ℕ)
  | bountyPayoutCancelled (claimId replicationId : ℕ) (recipient : Address) (amount : ℕ)
      (actor : Address)
  | authorBondSlashed (claimId : ℕ) (recipient : Address) (amount : ℕ)
  | authorBondRefundCredited (claimId : ℕ) (author : Address) (amount : ℕ)
  | authorBondRefundWithdrawn (author recipient : Address) (amount : ℕ)
  | depositsPauseSet (paused : Bool) (actor : Address)
  deriving DecidableEq

/-- A call that is at its transfer. -/
inductive Pending where
  | releaseReservedPayout (claimId replicationId : ℕ) (recipient : Address) (amount : ℕ)
  | slashAuthorBond (claimId : ℕ) (recipient : Address) (amount : ℕ)
  | withdrawAuthorBondRefund (author recipient : Address) (amount : ℕ)
  deriving DecidableEq

/-- The entry points of the escrow. -/
inductive Call where
  | depositAuthorBond (claimId : ℕ)
  | fundReplicationBounty (claimId : ℕ)
  | reserveBountyPayout (claimId replicationId amount : ℕ)
  | releaseReservedPayout (claimId replicationId : ℕ)
  | cancelReservedPayout (claimId replicationId : ℕ)
  | slashAuthorBond (claimId amount : ℕ)
  | refundAuthorBond (claimId amount : ℕ)
  | withdrawAuthorBondRefund (amount : ℕ) (recipient : Address)
  | setDepositsPaused (paused : Bool)
  deriving DecidableEq

/-- The `payable` entry points. -/
def Call.payable : Call → Bool
  | .depositAuthorBond _ => true
  | .fundReplicationBounty _ => true
  | _ => false

end BondEscrow

/-- The storage of the escrow, its ether and its log. -/
structure BondEscrow where
  authorBondBalances : Mapping ℕ ℕ
  authorRefundCredits : Mapping Address ℕ
  bountyBalances : Mapping ℕ ℕ
  reservedBountyBalances : Mapping ℕ ℕ
  reservations : Mapping ℕ (Mapping ℕ BountyReservation)
  depositsPaused : Bool
  entered : Bool
  balance : ℕ
  logs : List BondEscrow.Event
  deriving Inhabited

namespace BondEscrow

/-- The escrow as it is deployed. -/
def deployed : BondEscrow := default

variable (ctx : Ctx) (self : BondEscrow)

/-! ### Reads -/

def getReservation (claimId replicationId : ℕ) : BountyReservation :=
  self.reservations claimId replicationId

def isAuthorBondSatisfied (claimRegistry : ClaimRegistry) (claimId : ℕ) : Tx Revert Bool := do
  let requiredAuthorBond ← claimRegistry.getRequiredAuthorBond claimId
  return decide (self.authorBondBalances claimId ≥ requiredAuthorBond)

/-- The escrow as the claim registry calls it. -/
def toIBondEscrow (claimRegistry : ClaimRegistry) : IBondEscrow where
  isAuthorBondSatisfied := self.isAuthorBondSatisfied claimRegistry

def requireValidRecipient (recipient : Address) : Tx Revert Unit :=
  revertIf (recipient = 0) (.bondEscrowInvalidRecipient recipient)

/-- Overwriting one reservation. -/
def setReservation (claimId replicationId : ℕ) (reservation : BountyReservation) :
    Mapping ℕ (Mapping ℕ BountyReservation) :=
  self.reservations.set claimId ((self.reservations claimId).set replicationId reservation)

/-! ### Entry points -/

def depositAuthorBond (claimRegistry : ClaimRegistry) (claimId : ℕ) : Tx Revert BondEscrow := do
  nonReentrant self.entered
  whenDepositsNotPaused self.depositsPaused
  revertIf (¬claimRegistry.claimExists claimId) (.bondEscrowUnknownClaim claimId)
  let author ← claimRegistry.getClaimAuthor claimId
  revertIf (ctx.sender ≠ author) (.bondEscrowUnauthorizedAuthor claimId ctx.sender)
  revertIf (ctx.value = 0) (.bondEscrowInvalidAmount ctx.value)
  let authorBond ← checkedAdd (self.authorBondBalances claimId) ctx.value
  return { self with
    authorBondBalances := self.authorBondBalances.set claimId authorBond
    logs := self.logs ++ [.authorBondDeposited claimId ctx.sender ctx.value] }

def fundReplicationBounty (claimRegistry : ClaimRegistry) (claimId : ℕ) :
    Tx Revert BondEscrow := do
  nonReentrant self.entered
  whenDepositsNotPaused self.depositsPaused
  revertIf (¬claimRegistry.claimExists claimId) (.bondEscrowUnknownClaim claimId)
  revertIf (ctx.value = 0) (.bondEscrowInvalidAmount ctx.value)
  let bounty ← checkedAdd (self.bountyBalances claimId) ctx.value
  return { self with
    bountyBalances := self.bountyBalances.set claimId bounty
    logs := self.logs ++ [.replicationBountyFunded claimId ctx.sender ctx.value] }

def reserveBountyPayout (claimRegistry : ClaimRegistry)
    (replicationRegistry : ReplicationRegistry) (claimId replicationId amount : ℕ) :
    Tx Revert BondEscrow := do
  ctx.onlyRole .bountySettler
  revertIf (amount = 0) (.bondEscrowInvalidAmount amount)
  revertIf (¬claimRegistry.claimExists claimId) (.bondEscrowUnknownClaim claimId)
  revertIf (¬replicationRegistry.replicationExists replicationId)
    (.bondEscrowUnknownReplication replicationId)
  let replicationClaimId := replicationRegistry.getReplicationClaimId replicationId
  revertIf (replicationClaimId ≠ claimId)
    (.bondEscrowReplicationClaimMismatch claimId replicationId replicationClaimId)
  let recipient := replicationRegistry.getReplicationReplicator replicationId
  requireValidRecipient recipient
  let reservation := self.reservations claimId replicationId
  revertIf (reservation.amount ≠ 0) (.bondEscrowReservationExists claimId replicationId)
  -- No guard against re-entry, here or in `cancelReservedPayout`.
  let availableBounty ←
    checkedSub (self.bountyBalances claimId) (self.reservedBountyBalances claimId)
  revertIf (availableBounty < amount)
    (.bondEscrowInsufficientBountyBalance claimId amount availableBounty)
  let reserved ← checkedAdd (self.reservedBountyBalances claimId) amount
  return { self with
    reservations := self.setReservation claimId replicationId { reservation with recipient, amount }
    reservedBountyBalances := self.reservedBountyBalances.set claimId reserved
    logs := self.logs ++ [.bountyPayoutReserved claimId replicationId recipient amount] }

/-- `_safeTransferValue`, up to the recipient's code. -/
def safeTransferValue (recipient : Address) (amount : ℕ) (pending : Pending) :
    Tx Revert (Outcome BondEscrow Pending) := do
  revertIf (self.balance < amount ∨ ctx.refusesValue recipient)
    (.bondEscrowTransferFailed recipient amount)
  return .transfer recipient amount pending
    { self with balance := self.balance - amount, entered := true }

/-- The checks a release and a cancellation share: the reservation is live. -/
def requireLiveReservation (claimId replicationId : ℕ) : Tx Revert BountyReservation := do
  let reservation := self.reservations claimId replicationId
  revertIf (reservation.amount = 0) (.bondEscrowReservationMissing claimId replicationId)
  revertIf reservation.released (.bondEscrowAlreadyReleased claimId replicationId)
  revertIf reservation.cancelled (.bondEscrowAlreadyCancelled claimId replicationId)
  return reservation

def releaseReservedPayout (replicationRegistry : ReplicationRegistry)
    (claimId replicationId : ℕ) : Tx Revert (Outcome BondEscrow Pending) := do
  ctx.onlyRole .bountySettler
  nonReentrant self.entered
  let reservation ← self.requireLiveReservation claimId replicationId
  revertIf (¬replicationRegistry.isReplicationResolved replicationId)
    (.bondEscrowUnresolvedReplication replicationId)
  let reserved ← checkedSub (self.reservedBountyBalances claimId) reservation.amount
  let bounty ← checkedSub (self.bountyBalances claimId) reservation.amount
  let self := { self with
    reservations :=
      self.setReservation claimId replicationId { reservation with released := true }
    reservedBountyBalances := self.reservedBountyBalances.set claimId reserved
    bountyBalances := self.bountyBalances.set claimId bounty }
  self.safeTransferValue ctx reservation.recipient reservation.amount
    (.releaseReservedPayout claimId replicationId reservation.recipient reservation.amount)

def cancelReservedPayout (claimId replicationId : ℕ) : Tx Revert BondEscrow := do
  ctx.onlyRole .escrowAdmin
  let reservation ← self.requireLiveReservation claimId replicationId
  let reserved ← checkedSub (self.reservedBountyBalances claimId) reservation.amount
  return { self with
    reservations :=
      self.setReservation claimId replicationId { reservation with cancelled := true }
    reservedBountyBalances := self.reservedBountyBalances.set claimId reserved
    logs := self.logs ++ [.bountyPayoutCancelled claimId replicationId reservation.recipient
      reservation.amount ctx.sender] }

def slashAuthorBond (claimId amount : ℕ) : Tx Revert (Outcome BondEscrow Pending) := do
  ctx.onlyRole .escrowAdmin
  nonReentrant self.entered
  let availableBond := self.authorBondBalances claimId
  revertIf (amount = 0) (.bondEscrowInvalidAmount amount)
  revertIf (availableBond < amount)
    (.bondEscrowInsufficientAuthorBond claimId amount availableBond)
  let authorBond ← checkedSub availableBond amount
  let self := { self with authorBondBalances := self.authorBondBalances.set claimId authorBond }
  self.safeTransferValue ctx ctx.deployment.slashRecipient amount
    (.slashAuthorBond claimId ctx.deployment.slashRecipient amount)

def refundAuthorBond (claimRegistry : ClaimRegistry) (claimId amount : ℕ) :
    Tx Revert BondEscrow := do
  ctx.onlyRole .escrowAdmin
  let availableBond := self.authorBondBalances claimId
  revertIf (amount = 0) (.bondEscrowInvalidAmount amount)
  let author ← claimRegistry.getClaimAuthor claimId
  revertIf (availableBond < amount)
    (.bondEscrowInsufficientAuthorBond claimId amount availableBond)
  let authorBond ← checkedSub availableBond amount
  let credit ← checkedAdd (self.authorRefundCredits author) amount
  return { self with
    authorBondBalances := self.authorBondBalances.set claimId authorBond
    authorRefundCredits := self.authorRefundCredits.set author credit
    logs := self.logs ++ [.authorBondRefundCredited claimId author amount] }

def withdrawAuthorBondRefund (amount : ℕ) (recipient : Address) :
    Tx Revert (Outcome BondEscrow Pending) := do
  nonReentrant self.entered
  revertIf (amount = 0) (.bondEscrowInvalidAmount amount)
  requireValidRecipient recipient
  let availableCredit := self.authorRefundCredits ctx.sender
  revertIf (availableCredit < amount)
    (.bondEscrowInsufficientAuthorRefundCredit ctx.sender amount availableCredit)
  let credit ← checkedSub availableCredit amount
  let self := { self with authorRefundCredits := self.authorRefundCredits.set ctx.sender credit }
  self.safeTransferValue ctx recipient amount
    (.withdrawAuthorBondRefund ctx.sender recipient amount)

def setDepositsPaused (paused : Bool) : Tx Revert BondEscrow := do
  ctx.onlyRole .pauser
  return { self with
    depositsPaused := paused
    logs := self.logs ++ [.depositsPauseSet paused ctx.sender] }

/-- What is left of a call after its transfer: the event, and the guard. -/
def resume (pending : Pending) : BondEscrow :=
  let event : Event := match pending with
    | .releaseReservedPayout claimId replicationId recipient amount =>
      .bountyPayoutReleased claimId replicationId recipient amount
    | .slashAuthorBond claimId recipient amount => .authorBondSlashed claimId recipient amount
    | .withdrawAuthorBondRefund author recipient amount =>
      .authorBondRefundWithdrawn author recipient amount
  { self with entered := false, logs := self.logs ++ [event] }

/-- A call from outside: `msg.value` arrives, and the entry point runs. -/
def exec (claimRegistry : ClaimRegistry) (replicationRegistry : ReplicationRegistry)
    (call : Call) : Tx Revert (Outcome BondEscrow Pending) := do
  let balance ← ctx.receiveValue call.payable self.balance
  let self := { self with balance }
  match call with
  | .depositAuthorBond claimId => .done <$> self.depositAuthorBond ctx claimRegistry claimId
  | .fundReplicationBounty claimId =>
    .done <$> self.fundReplicationBounty ctx claimRegistry claimId
  | .reserveBountyPayout claimId replicationId amount =>
    .done <$> self.reserveBountyPayout ctx claimRegistry replicationRegistry claimId
      replicationId amount
  | .releaseReservedPayout claimId replicationId =>
    self.releaseReservedPayout ctx replicationRegistry claimId replicationId
  | .cancelReservedPayout claimId replicationId =>
    .done <$> self.cancelReservedPayout ctx claimId replicationId
  | .slashAuthorBond claimId amount => self.slashAuthorBond ctx claimId amount
  | .refundAuthorBond claimId amount =>
    .done <$> self.refundAuthorBond ctx claimRegistry claimId amount
  | .withdrawAuthorBondRefund amount recipient =>
    self.withdrawAuthorBondRefund ctx amount recipient
  | .setDepositsPaused paused => .done <$> self.setDepositsPaused ctx paused

end BondEscrow

end ScientificProtocol
