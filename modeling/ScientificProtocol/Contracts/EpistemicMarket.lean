import ScientificProtocol.Contracts.ClaimRegistry

/-!
# `EpistemicMarket`

`contracts/EpistemicMarket.sol`: forecasts staked on a claim and challenges
posted against it, settled out of one shared reward pool. Settlement only ever
credits; the credit leaves through `withdrawPayout`, the one function here that
hands control to somebody else.
-/

namespace ScientificProtocol

open Evm

structure ForecastCommitment where
  forecastId : ℕ
  claimId : ℕ
  forecaster : Address
  agentId : ℕ
  commitmentHash : Bytes32
  stakeAmount : ℕ
  committedAt : UInt64
  revealDeadline : UInt64
  revealed : Bool
  settled : Bool
  direction : ForecastDirection
  confidenceBps : UInt16
  effectiveDecisionIdAtCommit : ℕ
  resolutionDecisionId : ℕ
  deriving DecidableEq, Inhabited

structure ChallengeBond where
  challengeId : ℕ
  claimId : ℕ
  replicationId : ℕ
  challenger : Address
  agentId : ℕ
  evidenceHash : Bytes32
  evidenceURI : String
  bondAmount : ℕ
  status : ChallengeStatus
  resolutionHash : Bytes32
  createdAt : ℕ
  resolvedAt : ℕ
  deriving DecidableEq, Inhabited

namespace EpistemicMarket

inductive Event where
  | rewardPoolFunded (funder : Address) (amount : ℕ)
  | forecastCommitted (forecastId claimId : ℕ) (forecaster : Address) (agentId : ℕ)
      (commitmentHash : Bytes32) (stakeAmount : ℕ) (revealDeadline : UInt64)
      (effectiveDecisionIdAtCommit : ℕ)
  | forecastRevealed (forecastId : ℕ) (direction : ForecastDirection) (confidenceBps : UInt16)
      (actor : Address)
  | forecastSettled (forecastId resolutionDecisionId : ℕ) (finalStatus : ResolutionStatus)
      (matched : Bool) (payoutAmount : ℕ) (actor : Address)
  | forecastForfeited (forecastId : ℕ) (forecaster : Address) (forfeitedAmount : ℕ)
      (actor : Address)
  | forecastPayoutCredited (forecastId : ℕ) (forecaster : Address) (amount : ℕ)
  | challengeOpened (challengeId claimId replicationId : ℕ) (challenger : Address)
      (agentId bondAmount : ℕ)
  | challengeResolved (challengeId : ℕ) (status : ChallengeStatus) (resolutionHash : Bytes32)
      (payoutAmount : ℕ) (actor : Address)
  | challengeWithdrawn (challengeId : ℕ) (challenger : Address) (refundedAmount : ℕ)
  | challengePayoutCredited (challengeId : ℕ) (challenger : Address) (amount : ℕ)
  | marketPayoutWithdrawn (beneficiary recipient : Address) (amount : ℕ)
  | depositsPauseSet (paused : Bool) (actor : Address)
  deriving DecidableEq

/-- A withdrawal that is at its transfer. -/
inductive Pending where
  | withdrawPayout (beneficiary recipient : Address) (amount : ℕ)
  deriving DecidableEq

/-- The entry points of the market. -/
inductive Call where
  | fundRewardPool
  | commitForecast (claimId : ℕ) (commitmentHash : Bytes32) (revealDeadline : UInt64)
      (agentId : ℕ)
  | revealForecast (forecastId : ℕ) (direction : ForecastDirection) (confidenceBps : UInt16)
      (salt : Bytes32)
  | settleForecast (forecastId resolutionDecisionId : ℕ)
  | forfeitUnrevealedForecast (forecastId : ℕ)
  | reclaimForecast (forecastId : ℕ)
  | openChallenge (claimId replicationId : ℕ) (evidenceHash : Bytes32) (evidenceURI : String)
      (agentId : ℕ)
  | withdrawChallenge (challengeId : ℕ)
  | resolveChallenge (challengeId : ℕ) (status : ChallengeStatus) (resolutionHash : Bytes32)
  | withdrawPayout (amount : ℕ) (recipient : Address)
  | setDepositsPaused (paused : Bool)
  deriving DecidableEq

/-- The `payable` entry points. -/
def Call.payable : Call → Bool
  | .fundRewardPool => true
  | .commitForecast .. => true
  | .openChallenge .. => true
  | _ => false

end EpistemicMarket

/-- The storage of the market, its ether and its log. -/
structure EpistemicMarket where
  nextForecastId : ℕ
  nextChallengeId : ℕ
  rewardPoolBalance : ℕ
  totalWithdrawablePayouts : ℕ
  withdrawablePayouts : Mapping Address ℕ
  forecasts : Mapping ℕ ForecastCommitment
  challenges : Mapping ℕ ChallengeBond
  depositsPaused : Bool
  entered : Bool
  balance : ℕ
  logs : List EpistemicMarket.Event
  deriving Inhabited

namespace EpistemicMarket

/-- The market as it is deployed. -/
def deployed : EpistemicMarket :=
  { (default : EpistemicMarket) with nextForecastId := 1, nextChallengeId := 1 }

/-- `MIN_CHALLENGE_DURATION`, one day. -/
def minChallengeDuration : ℕ := 86400

/-- `FORECAST_RECLAIM_DELAY`, thirty days. -/
def forecastReclaimDelay : ℕ := 2592000

/-! ### Pure functions -/

/-- `_forecastMatches`. -/
def forecastMatches (direction : ForecastDirection) (finalStatus : ResolutionStatus) : Bool :=
  match direction with
  | .supports => decide (finalStatus = .supported ∨ finalStatus = .qualified)
  | .questions => decide (finalStatus = .inconclusive ∨ finalStatus = .escalated)
  | .refutes => decide (finalStatus = .refuted ∨ finalStatus = .fraudSignal)

/-- The position of a direction in its enumeration, which is how it is encoded. -/
def directionIndex : ForecastDirection → ℕ
  | .supports => 0
  | .questions => 1
  | .refutes => 2

/-- `keccak256(abi.encode(direction, confidenceBps, salt))`. -/
def commitmentOf (D : Deployment) (direction : ForecastDirection) (confidenceBps : UInt16)
    (salt : Bytes32) : Bytes32 :=
  D.keccak256 (abiEncode
    [BitVec.ofNat 256 (directionIndex direction), BitVec.ofNat 256 confidenceBps.toNat, salt])

variable (ctx : Ctx) (self : EpistemicMarket)

/-! ### Reads -/

def getForecast (forecastId : ℕ) : ForecastCommitment := self.forecasts forecastId

def getChallenge (challengeId : ℕ) : ChallengeBond := self.challenges challengeId

def challengeExists (challengeId : ℕ) : Bool :=
  decide ((self.challenges challengeId).challengeId ≠ 0)

def getChallengeClaimId (challengeId : ℕ) : ℕ := (self.challenges challengeId).claimId

/-- `_isAuthorizedForecastActor`. -/
def isAuthorizedForecastActor (agentRegistry : AgentRegistry) (forecast : ForecastCommitment)
    (actor : Address) : Bool :=
  if forecast.agentId = 0 then decide (actor = forecast.forecaster)
  else agentRegistry.isAuthorizedController forecast.agentId actor

/-- `_isAuthorizedChallengeActor`. -/
def isAuthorizedChallengeActor (agentRegistry : AgentRegistry) (challenge : ChallengeBond)
    (actor : Address) : Bool :=
  if challenge.agentId = 0 then decide (actor = challenge.challenger)
  else agentRegistry.isAuthorizedController challenge.agentId actor

/-! ### Credits -/

/-- `_creditPayout`. -/
def creditPayout (beneficiary : Address) (amount : ℕ) : Tx Revert EpistemicMarket := do
  let credit ← checkedAdd (self.withdrawablePayouts beneficiary) amount
  let totalWithdrawablePayouts ← checkedAdd self.totalWithdrawablePayouts amount
  return { self with
    withdrawablePayouts := self.withdrawablePayouts.set beneficiary credit
    totalWithdrawablePayouts }

/-- A bonus matches the stake as far as the pool reaches. -/
def bonusOf (stake : ℕ) : ℕ :=
  if self.rewardPoolBalance ≥ stake then stake else self.rewardPoolBalance

/-- Paying a stake back with its bonus, out of the pool. -/
def payWithBonus (beneficiary : Address) (stake : ℕ) : Tx Revert (ℕ × EpistemicMarket) := do
  let bonus := self.bonusOf stake
  let rewardPoolBalance ← checkedSub self.rewardPoolBalance bonus
  let payoutAmount ← checkedAdd stake bonus
  let self ← { self with rewardPoolBalance }.creditPayout beneficiary payoutAmount
  return (payoutAmount, self)

/-- Moving a lost stake into the pool. -/
def slashIntoPool (stake : ℕ) : Tx Revert EpistemicMarket := do
  let rewardPoolBalance ← checkedAdd self.rewardPoolBalance stake
  return { self with rewardPoolBalance }

/-! ### Entry points -/

def fundRewardPool : Tx Revert EpistemicMarket := do
  whenDepositsNotPaused self.depositsPaused
  revertIf (ctx.value = 0) (.epistemicMarketInvalidAmount ctx.value)
  let rewardPoolBalance ← checkedAdd self.rewardPoolBalance ctx.value
  return { self with
    rewardPoolBalance
    logs := self.logs ++ [.rewardPoolFunded ctx.sender ctx.value] }

/-- The record of a fresh forecast. -/
def committed (forecastId claimId : ℕ) (commitmentHash : Bytes32) (revealDeadline : UInt64)
    (agentId effectiveDecisionIdAtCommit : ℕ) : ForecastCommitment :=
  { forecastId, claimId, forecaster := ctx.sender, agentId, commitmentHash,
    stakeAmount := ctx.value, committedAt := UInt64.ofNat ctx.timestamp, revealDeadline,
    revealed := false, settled := false, direction := .questions, confidenceBps := 0,
    effectiveDecisionIdAtCommit, resolutionDecisionId := 0 }

def commitForecast (claimRegistry : ClaimRegistry) (agentRegistry : AgentRegistry)
    (claimId : ℕ) (commitmentHash : Bytes32) (revealDeadline : UInt64) (agentId : ℕ) :
    Tx Revert (ℕ × EpistemicMarket) := do
  whenDepositsNotPaused self.depositsPaused
  revertIf (¬claimRegistry.claimExists claimId) (.epistemicMarketUnknownClaim claimId)
  let claimRecord ← claimRegistry.getClaim claimId
  let claimStatus := claimRecord.status
  revertIf (claimStatus = .refuted ∨ claimStatus = .fraudulent ∨ claimStatus = .deprecated)
    (.epistemicMarketClaimNotForecastable claimId claimStatus)
  -- The guard against known outcomes: only a newer decision can settle this forecast.
  let effectiveDecisionIdAtCommit := claimRegistry.getEffectiveResolutionDecisionId claimId
  revertIf (ctx.value = 0) (.epistemicMarketInvalidAmount ctx.value)
  revertIf (revealDeadline.toNat ≤ ctx.timestamp)
    (.epistemicMarketInvalidRevealDeadline revealDeadline)
  revertIf (agentId ≠ 0 ∧ ¬agentRegistry.isAuthorizedController agentId ctx.sender)
    (.epistemicMarketUnauthorizedAgent agentId ctx.sender)
  let forecastId := self.nextForecastId
  let nextForecastId ← checkedAdd forecastId 1
  let forecast := committed ctx forecastId claimId commitmentHash revealDeadline agentId
    effectiveDecisionIdAtCommit
  return (forecastId, { self with
    nextForecastId
    forecasts := self.forecasts.set forecastId forecast
    logs := self.logs ++ [.forecastCommitted forecastId claimId ctx.sender agentId
      commitmentHash ctx.value revealDeadline effectiveDecisionIdAtCommit] })

def revealForecast (agentRegistry : AgentRegistry) (forecastId : ℕ)
    (direction : ForecastDirection) (confidenceBps : UInt16) (salt : Bytes32) :
    Tx Revert EpistemicMarket := do
  let forecast := self.forecasts forecastId
  revertIf (forecast.forecastId = 0) (.epistemicMarketUnknownForecast forecastId)
  revertIf (¬isAuthorizedForecastActor agentRegistry forecast ctx.sender)
    (.epistemicMarketUnauthorizedAgent forecast.agentId ctx.sender)
  -- The source does not test `settled` here.
  revertIf forecast.revealed (.epistemicMarketAlreadyRevealed forecastId)
  revertIf (ctx.timestamp > forecast.revealDeadline.toNat)
    (.epistemicMarketRevealWindowClosed forecastId)
  revertIf (confidenceBps > 10000) (.epistemicMarketInvalidConfidence confidenceBps)
  let computedHash := commitmentOf ctx.deployment direction confidenceBps salt
  revertIf (computedHash ≠ forecast.commitmentHash) (.epistemicMarketInvalidCommitment forecastId)
  let forecast := { forecast with revealed := true, direction, confidenceBps }
  return { self with
    forecasts := self.forecasts.set forecastId forecast
    logs := self.logs ++ [.forecastRevealed forecastId direction confidenceBps ctx.sender] }

def settleForecast (claimRegistry : ClaimRegistry) (forecastId resolutionDecisionId : ℕ) :
    Tx Revert EpistemicMarket := do
  ctx.onlyRole .marketSettler
  let forecast := self.forecasts forecastId
  revertIf (forecast.forecastId = 0) (.epistemicMarketUnknownForecast forecastId)
  revertIf forecast.settled (.epistemicMarketAlreadySettled forecastId)
  revertIf (¬forecast.revealed ∧ ctx.timestamp ≤ forecast.revealDeadline.toNat)
    (.epistemicMarketRevealWindowOpen forecastId)
  let effectiveDecisionId := claimRegistry.getEffectiveResolutionDecisionId forecast.claimId
  revertIf (effectiveDecisionId = 0)
    (.epistemicMarketUnknownResolutionDecision resolutionDecisionId)
  revertIf (resolutionDecisionId ≠ effectiveDecisionId)
    (.epistemicMarketStaleResolutionDecision forecast.claimId resolutionDecisionId
      effectiveDecisionId)
  revertIf (resolutionDecisionId ≤ forecast.effectiveDecisionIdAtCommit)
    (.epistemicMarketDecisionNotNewer forecastId forecast.effectiveDecisionIdAtCommit
      resolutionDecisionId)
  let decision ← claimRegistry.getResolutionDecision resolutionDecisionId
  revertIf (decision.claimId ≠ forecast.claimId)
    (.epistemicMarketResolutionDecisionClaimMismatch resolutionDecisionId forecast.claimId
      decision.claimId)
  let finalStatus := decision.status
  let matched := forecast.revealed && forecastMatches forecast.direction finalStatus
  let self := { self with
    forecasts := self.forecasts.set forecastId
      { forecast with settled := true, resolutionDecisionId } }
  if matched then
    let (payoutAmount, self) ← self.payWithBonus forecast.forecaster forecast.stakeAmount
    return { self with
      logs := self.logs ++
        [.forecastPayoutCredited forecastId forecast.forecaster payoutAmount,
          .forecastSettled forecastId resolutionDecisionId finalStatus matched payoutAmount
            ctx.sender] }
  else
    let self ← self.slashIntoPool forecast.stakeAmount
    return { self with
      logs := self.logs ++
        [.forecastSettled forecastId resolutionDecisionId finalStatus matched 0 ctx.sender] }

def forfeitUnrevealedForecast (forecastId : ℕ) : Tx Revert EpistemicMarket := do
  let forecast := self.forecasts forecastId
  revertIf (forecast.forecastId = 0) (.epistemicMarketUnknownForecast forecastId)
  revertIf forecast.settled (.epistemicMarketAlreadySettled forecastId)
  revertIf forecast.revealed (.epistemicMarketAlreadyRevealed forecastId)
  revertIf (ctx.timestamp ≤ forecast.revealDeadline.toNat)
    (.epistemicMarketRevealWindowOpen forecastId)
  let self := { self with
    forecasts := self.forecasts.set forecastId { forecast with settled := true } }
  let self ← self.slashIntoPool forecast.stakeAmount
  return { self with
    logs := self.logs ++
      [.forecastForfeited forecastId forecast.forecaster forecast.stakeAmount ctx.sender,
        .forecastSettled forecastId 0 .pending false 0 ctx.sender] }

def reclaimForecast (agentRegistry : AgentRegistry) (forecastId : ℕ) :
    Tx Revert EpistemicMarket := do
  let forecast := self.forecasts forecastId
  revertIf (forecast.forecastId = 0) (.epistemicMarketUnknownForecast forecastId)
  revertIf (¬isAuthorizedForecastActor agentRegistry forecast ctx.sender)
    (.epistemicMarketUnauthorizedAgent forecast.agentId ctx.sender)
  revertIf forecast.settled (.epistemicMarketAlreadySettled forecastId)
  -- The deadline is widened to `uint256` before the delay is added, so the sum fits.
  revertIf (¬forecast.revealed ∨
      ctx.timestamp ≤ forecast.revealDeadline.toNat + forecastReclaimDelay)
    (.epistemicMarketForecastNotReclaimable forecastId)
  let self := { self with
    forecasts := self.forecasts.set forecastId { forecast with settled := true } }
  let self ← self.creditPayout forecast.forecaster forecast.stakeAmount
  return { self with
    logs := self.logs ++
      [.forecastPayoutCredited forecastId forecast.forecaster forecast.stakeAmount,
        .forecastSettled forecastId 0 .pending false forecast.stakeAmount ctx.sender] }

def openChallenge (claimRegistry : ClaimRegistry) (agentRegistry : AgentRegistry)
    (replicationRegistry : ReplicationRegistry) (claimId replicationId : ℕ)
    (evidenceHash : Bytes32) (evidenceURI : String) (agentId : ℕ) :
    Tx Revert (ℕ × EpistemicMarket) := do
  whenDepositsNotPaused self.depositsPaused
  revertIf (¬claimRegistry.claimExists claimId) (.epistemicMarketUnknownClaim claimId)
  revertIf (replicationId ≠ 0 ∧ replicationRegistry.getReplicationClaimId replicationId ≠ claimId)
    (.epistemicMarketUnknownReplication claimId replicationId)
  revertIf (ctx.value = 0) (.epistemicMarketInvalidAmount ctx.value)
  revertIf (agentId ≠ 0 ∧ ¬agentRegistry.isAuthorizedController agentId ctx.sender)
    (.epistemicMarketUnauthorizedAgent agentId ctx.sender)
  let challengeId := self.nextChallengeId
  let nextChallengeId ← checkedAdd challengeId 1
  let challenge : ChallengeBond :=
    { challengeId, claimId, replicationId, challenger := ctx.sender, agentId, evidenceHash,
      evidenceURI, bondAmount := ctx.value, status := .«open», resolutionHash := 0,
      createdAt := ctx.timestamp, resolvedAt := 0 }
  return (challengeId, { self with
    nextChallengeId
    challenges := self.challenges.set challengeId challenge
    logs := self.logs ++
      [.challengeOpened challengeId claimId replicationId ctx.sender agentId ctx.value] })

def withdrawChallenge (agentRegistry : AgentRegistry) (challengeId : ℕ) :
    Tx Revert EpistemicMarket := do
  let challenge := self.challenges challengeId
  revertIf (challenge.challengeId = 0) (.epistemicMarketUnknownChallenge challengeId)
  revertIf (¬isAuthorizedChallengeActor agentRegistry challenge ctx.sender)
    (.epistemicMarketUnauthorizedAgent challenge.agentId ctx.sender)
  revertIf (challenge.status ≠ .«open») (.epistemicMarketInvalidChallengeStatus challenge.status)
  let withdrawUnlockAt ← checkedAdd challenge.createdAt minChallengeDuration
  revertIf (ctx.timestamp < withdrawUnlockAt)
    (.epistemicMarketChallengeWithdrawLocked challengeId withdrawUnlockAt)
  let self := { self with
    challenges := self.challenges.set challengeId
      { challenge with status := .withdrawn, resolvedAt := ctx.timestamp } }
  let self ← self.creditPayout challenge.challenger challenge.bondAmount
  return { self with
    logs := self.logs ++
      [.challengePayoutCredited challengeId challenge.challenger challenge.bondAmount,
        .challengeWithdrawn challengeId challenge.challenger challenge.bondAmount] }

/-- What the outcome of a challenge does to its bond, with the payout. -/
def settleBond (challengeId : ℕ) (challenge : ChallengeBond) (status : ChallengeStatus) :
    Tx Revert (ℕ × EpistemicMarket) :=
  match status with
  | .sustained => do
    let (payoutAmount, self) ← self.payWithBonus challenge.challenger challenge.bondAmount
    return (payoutAmount, { self with
      logs := self.logs ++
        [.challengePayoutCredited challengeId challenge.challenger payoutAmount] })
  | .dismissed => do
    let self ← self.slashIntoPool challenge.bondAmount
    return (0, self)
  | .escalated => do
    let payoutAmount := challenge.bondAmount
    let self ← self.creditPayout challenge.challenger payoutAmount
    return (payoutAmount, { self with
      logs := self.logs ++
        [.challengePayoutCredited challengeId challenge.challenger payoutAmount] })
  | _ => return (0, self)

def resolveChallenge (challengeId : ℕ) (status : ChallengeStatus) (resolutionHash : Bytes32) :
    Tx Revert EpistemicMarket := do
  ctx.onlyRole .resolver
  let challenge := self.challenges challengeId
  revertIf (challenge.challengeId = 0) (.epistemicMarketUnknownChallenge challengeId)
  revertIf (challenge.status ≠ .«open») (.epistemicMarketInvalidChallengeStatus challenge.status)
  revertIf (status = .«open» ∨ status = .withdrawn)
    (.epistemicMarketInvalidChallengeStatus status)
  let self := { self with
    challenges := self.challenges.set challengeId
      { challenge with status, resolutionHash, resolvedAt := ctx.timestamp } }
  let (payoutAmount, self) ← self.settleBond challengeId challenge status
  return { self with
    logs := self.logs ++
      [.challengeResolved challengeId status resolutionHash payoutAmount ctx.sender] }

/-- `_safeTransferValue`, up to the recipient's code. -/
def safeTransferValue (recipient : Address) (amount : ℕ) (pending : Pending) :
    Tx Revert (Outcome EpistemicMarket Pending) := do
  revertIf (self.balance < amount ∨ ctx.refusesValue recipient)
    (.epistemicMarketTransferFailed recipient amount)
  return .transfer recipient amount pending
    { self with balance := self.balance - amount, entered := true }

def withdrawPayout (amount : ℕ) (recipient : Address) :
    Tx Revert (Outcome EpistemicMarket Pending) := do
  nonReentrant self.entered
  revertIf (amount = 0) (.epistemicMarketInvalidAmount amount)
  revertIf (recipient = 0) (.epistemicMarketInvalidRecipient recipient)
  let available := self.withdrawablePayouts ctx.sender
  revertIf (available < amount)
    (.epistemicMarketInsufficientPayoutCredit ctx.sender amount available)
  let credit ← checkedSub available amount
  let totalWithdrawablePayouts ← checkedSub self.totalWithdrawablePayouts amount
  let self := { self with
    withdrawablePayouts := self.withdrawablePayouts.set ctx.sender credit
    totalWithdrawablePayouts }
  self.safeTransferValue ctx recipient amount (.withdrawPayout ctx.sender recipient amount)

def setDepositsPaused (paused : Bool) : Tx Revert EpistemicMarket := do
  ctx.onlyRole .pauser
  return { self with
    depositsPaused := paused
    logs := self.logs ++ [.depositsPauseSet paused ctx.sender] }

/-- What is left of a withdrawal after its transfer: the event, and the guard. -/
def resume (pending : Pending) : EpistemicMarket :=
  let event : Event := match pending with
    | .withdrawPayout beneficiary recipient amount =>
      .marketPayoutWithdrawn beneficiary recipient amount
  { self with entered := false, logs := self.logs ++ [event] }

/-- A call from outside: `msg.value` arrives, and the entry point runs. -/
def exec (claimRegistry : ClaimRegistry) (agentRegistry : AgentRegistry)
    (replicationRegistry : ReplicationRegistry) (call : Call) :
    Tx Revert (Outcome EpistemicMarket Pending) := do
  let balance ← ctx.receiveValue call.payable self.balance
  let self := { self with balance }
  match call with
  | .fundRewardPool => .done <$> self.fundRewardPool ctx
  | .commitForecast claimId commitmentHash revealDeadline agentId =>
    (fun r => .done r.2) <$> self.commitForecast ctx claimRegistry agentRegistry claimId
      commitmentHash revealDeadline agentId
  | .revealForecast forecastId direction confidenceBps salt =>
    .done <$> self.revealForecast ctx agentRegistry forecastId direction confidenceBps salt
  | .settleForecast forecastId resolutionDecisionId =>
    .done <$> self.settleForecast ctx claimRegistry forecastId resolutionDecisionId
  | .forfeitUnrevealedForecast forecastId =>
    .done <$> self.forfeitUnrevealedForecast ctx forecastId
  | .reclaimForecast forecastId => .done <$> self.reclaimForecast ctx agentRegistry forecastId
  | .openChallenge claimId replicationId evidenceHash evidenceURI agentId =>
    (fun r => .done r.2) <$> self.openChallenge ctx claimRegistry agentRegistry
      replicationRegistry claimId replicationId evidenceHash evidenceURI agentId
  | .withdrawChallenge challengeId =>
    .done <$> self.withdrawChallenge ctx agentRegistry challengeId
  | .resolveChallenge challengeId status resolutionHash =>
    .done <$> self.resolveChallenge ctx challengeId status resolutionHash
  | .withdrawPayout amount recipient => self.withdrawPayout ctx amount recipient
  | .setDepositsPaused paused => .done <$> self.setDepositsPaused ctx paused

end EpistemicMarket

end ScientificProtocol
