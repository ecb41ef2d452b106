import ScientificProtocol.Indexer.Events
import ScientificProtocol.Indexer.Store
import ScientificProtocol.Js.Map

/-!
# Applying a chunk

`applyChunk` of `src/indexer/projector.ts`. The rows of a chunk come from two places: from
the arguments of its events, and from what getters of the contracts answer while the chunk
is applied, which nothing ties to the blocks of the chunk
(`ScientificProtocol.Indexer.Reads`). They are then written table by table, the new rows
before the changes of old ones, whatever order the chain had them in.

**Two chunks are one** (`ScientificProtocol.Indexer.applyChunk_append`): where chunks end
cannot be seen in the rows, provided that the contracts keep the promises of
`ScientificProtocol.Indexer.LogSound`. It does not matter for this what the getters answer.
The single chunk reads what the second one did, except where only the first one asked
(`ScientificProtocol.Indexer.Reads.followed`).
-/

namespace ScientificProtocol.Indexer

open Evm Sql

/-- What the getters have answered. -/
structure Reads where
  getClaim : ℕ → ClaimRecord
  getResolutionDecision : ℕ → ResolutionDecision
  getAgent : ℕ → AgentRecord
  getForecast : ℕ → ForecastCommitment
  getChallenge : ℕ → ChallengeBond
  getAppeal : ℕ → AppealRecord
  deriving Inhabited

/-! ### Rows of events and of snapshots -/

section

variable (r : Reads)

def createdClaim (log : EventLog) : Option ClaimView :=
  match log.event with
  | .claimRegistry (.claimCreated claimId author domainId metadataHash resolutionModule _) =>
    let claimRecord := r.getClaim claimId
    some
      { claimId, author, domainId, metadataHash, resolutionModule
        status := claimRecord.status
        revisionOfClaimId := nullIfZero claimRecord.revisionOfClaimId
        createdAtBlock := log.blockNumber }
  | _ => none

def artifactOf (log : EventLog) : Option ArtifactView :=
  match log.event with
  | .artifactRegistry (.artifactAdded artifactId claimId artifactType contentDigest uri
      submitter) => some { artifactId, claimId, artifactType, contentDigest, uri, submitter }
  | _ => none

def resolutionDecisionOf (log : EventLog) : Option ResolutionDecisionView :=
  match log.event with
  | .claimRegistry (.resolutionDecisionRecorded decisionId claimId replicationId
      resolutionModule status claimStatus confidenceBps resolutionHash evidenceHash resolverType
      actor) =>
    some
      { decisionId, claimId, replicationId, resolutionModule, status, claimStatus,
        confidenceBps, resolutionHash, evidenceHash, resolverType, actor
        createdAt := (r.getResolutionDecision decisionId).createdAt
        effective := false }
  | _ => none

def submittedReplication (log : EventLog) : Option ReplicationView :=
  match log.event with
  | .replicationRegistry (.replicationSubmitted replicationId claimId replicator agentId
      resultHash) =>
    some
      { replicationId, claimId, replicator, agentId, resultHash
        outcome := none
        resolutionStatus := none
        confidenceBps := none
        resolverType := none
        resolutionHash := none
        evidenceHash := none
        evidenceURI := none }
  | _ => none

def checkpointOf (log : EventLog) : Option CheckpointView :=
  match log.event with
  | .reputationCheckpointRegistry (.reputationCheckpointPublished checkpointId domainId subject
      scoreVectorHash payloadHash uri) =>
    some
      { checkpointId, domainId
        subjectType := subject.subjectType
        subjectActor := subject.subjectActor
        subjectClaimId := subject.subjectClaimId
        subjectAgentId := subject.subjectAgentId
        subjectModule := subject.subjectModule
        scoreVectorHash, payloadHash, uri }
  | _ => none

def agentSnapshot (agentId : ℕ) : AgentView :=
  let record := r.getAgent agentId
  { agentId
    operator := record.operator
    metadataHash := record.metadataHash
    uri := record.uri
    budgetBalance := record.budgetBalance
    reservedBudget := record.reservedBudget
    spendLimit := record.spendLimit
    active := record.active }

def agentControllerOf (log : EventLog) : Option AgentControllerView :=
  match log.event with
  | .agentRegistry (.agentControllerAuthorization agentId controller authorized) =>
    some { agentId, controller, authorized }
  | _ => none

def forecastSnapshot (forecastId : ℕ) : ForecastView :=
  let record := r.getForecast forecastId
  { forecastId
    claimId := record.claimId
    forecaster := record.forecaster
    agentId := record.agentId
    commitmentHash := record.commitmentHash
    stakeAmount := record.stakeAmount
    committedAt := record.committedAt
    revealDeadline := record.revealDeadline
    revealed := record.revealed
    settled := record.settled
    direction := record.direction
    confidenceBps := record.confidenceBps
    effectiveDecisionIdAtCommit := nullIfZero record.effectiveDecisionIdAtCommit
    resolutionDecisionId := nullIfZero record.resolutionDecisionId
    finalStatus := none
    matched := none
    payoutAmount := none }

def challengeSnapshot (challengeId : ℕ) : ChallengeView :=
  let record := r.getChallenge challengeId
  { challengeId
    claimId := record.claimId
    replicationId := record.replicationId
    challenger := record.challenger
    agentId := record.agentId
    evidenceHash := record.evidenceHash
    evidenceURI := record.evidenceURI
    bondAmount := record.bondAmount
    status := record.status
    resolutionHash := if record.resolutionHash = 0 then none else some record.resolutionHash
    createdAt := record.createdAt
    resolvedAt := nullIfZero record.resolvedAt
    payoutAmount := none
    refundedAmount := none }

def appealSnapshot (appealId : ℕ) : AppealView :=
  let record := r.getAppeal appealId
  { appealId
    claimId := record.claimId
    replicationId := record.replicationId
    challengeId := record.challengeId
    appellant := record.appellant
    reason := record.reason
    filingHash := record.filingHash
    uri := record.uri
    status := record.status
    adjudicationHash :=
      if record.adjudicationHash = 0 then none else some record.adjudicationHash
    adjudicationURI := if record.adjudicationURI = "" then none else some record.adjudicationURI
    bondAmount := record.bondAmount
    createdAt := record.createdAt
    adjudicatedAt := nullIfZero record.adjudicatedAt
    refundedAmount := none }

end

/-! ### The changes of rows -/

def claimStatus (log : EventLog) : Option (Patch ℕ ClaimView String) :=
  match log.event with
  | .claimRegistry (.claimStatusUpdated claimId _ newStatus _) =>
    some (updateClaimStatus claimId newStatus)
  | _ => none

def replicationResolution (log : EventLog) : Option (Patch ℕ ReplicationView String) :=
  match log.event with
  | .replicationRegistry (.replicationResolved replicationId outcome status resolutionHash _
      confidenceBps resolverType evidenceHash evidenceURI) =>
    some (applyReplicationResolution replicationId
      { outcome := some outcome
        resolutionStatus := some status
        confidenceBps := some confidenceBps
        resolverType := some resolverType
        resolutionHash := some resolutionHash
        evidenceHash := some evidenceHash
        evidenceURI := some evidenceURI })
  | _ => none

def effectiveDecision (log : EventLog) : Option (Patch ℕ ResolutionDecisionView String) :=
  match log.event with
  | .claimRegistry (.effectiveResolutionDecisionUpdated claimId decisionId _ _) =>
    some (markEffectiveResolutionDecision claimId decisionId)
  | _ => none

def forecastSettlement (log : EventLog) : Option (Patch ℕ ForecastView String) :=
  match log.event with
  | .epistemicMarket (.forecastSettled forecastId resolutionDecisionId finalStatus isMatched
      payoutAmount _) =>
    some (applyForecastSettlement forecastId (nullIfZero resolutionDecisionId) finalStatus
      isMatched payoutAmount)
  | _ => none

def challengeResolution (log : EventLog) : Option (Patch ℕ ChallengeView String) :=
  match log.event with
  | .epistemicMarket (.challengeResolved challengeId status resolutionHash payoutAmount _) =>
    some (applyChallengeResolution challengeId status resolutionHash payoutAmount)
  | _ => none

def challengeWithdrawal (log : EventLog) : Option (Patch ℕ ChallengeView String) :=
  match log.event with
  | .epistemicMarket (.challengeWithdrawn challengeId _ refundedAmount) =>
    some (applyChallengeWithdrawal challengeId refundedAmount)
  | _ => none

def appealAdjudication (log : EventLog) : Option (Patch ℕ AppealView String) :=
  match log.event with
  | .appealsRegistry (.appealAdjudicated appealId status adjudicationHash adjudicationURI
      refundedAmount _ _) =>
    some (applyAppealAdjudication appealId status adjudicationHash adjudicationURI
      refundedAmount)
  | _ => none

/-! ### The chunk -/

section

variable (r : Reads) (events : ChunkEvents)

/-- The identifiers a `Set` has, once those of the events of some kinds have been added. -/
def touchedIds (filters : List EventFilter) (idOf : ChainEvent → Option ℕ) : List ℕ :=
  ((filters.flatMap events).filterMap (idOf ·.event)).eraseDups

def touchedAgentIds : List ℕ :=
  touchedIds events [.agentRegistered, .agentControllerAuthorization, .agentBudgetDeposited,
    .agentBudgetReserved, .agentBudgetReleased, .agentBudgetConsumed, .agentBudgetWithdrawn,
    .agentSpendLimitUpdated, .agentStatusUpdated] ChainEvent.agentId?

def touchedForecastIds : List ℕ :=
  touchedIds events [.forecastCommitted, .forecastRevealed, .forecastSettled]
    ChainEvent.forecastId?

def touchedChallengeIds : List ℕ :=
  touchedIds events [.challengeOpened, .challengeResolved, .challengeWithdrawn]
    ChainEvent.challengeId?

def touchedAppealIds : List ℕ :=
  touchedIds events [.appealFiled, .appealAdjudicated] ChainEvent.appealId?

def claimsBatch : Batch ℕ ClaimView String where
  puts := ((events .claimCreated).filterMap (createdClaim r)).map upsertClaim
  patches := (events .claimStatusUpdated).filterMap claimStatus

def artifactsBatch : Batch ℕ ArtifactView String where
  puts := ((events .artifactAdded).filterMap artifactOf).map insertArtifact
  patches := []

def replicationsBatch : Batch ℕ ReplicationView String where
  puts := ((events .replicationSubmitted).filterMap submittedReplication).map
    upsertReplicationSubmission
  patches := (events .replicationResolved).filterMap replicationResolution

def resolutionDecisionsBatch : Batch ℕ ResolutionDecisionView String where
  puts := ((events .resolutionDecisionRecorded).filterMap (resolutionDecisionOf r)).map
    insertResolutionDecision
  patches := (events .effectiveResolutionDecisionUpdated).filterMap effectiveDecision

def checkpointsBatch : Batch ℕ CheckpointView String where
  puts := ((events .reputationCheckpointPublished).filterMap checkpointOf).map insertCheckpoint
  patches := []

def agentsBatch : Batch ℕ AgentView String where
  puts := (touchedAgentIds events).map fun agentId => upsertAgent (agentSnapshot r agentId)
  patches := []

def agentControllersBatch : Batch (ℕ × Address) AgentControllerView String where
  puts := ((events .agentControllerAuthorization).filterMap agentControllerOf).map
    upsertAgentController
  patches := []

def forecastsBatch : Batch ℕ ForecastView String where
  puts := (touchedForecastIds events).map fun forecastId =>
    upsertForecast (forecastSnapshot r forecastId)
  patches := (events .forecastSettled).filterMap forecastSettlement

def challengesBatch : Batch ℕ ChallengeView String where
  puts := (touchedChallengeIds events).map fun challengeId =>
    upsertChallenge (challengeSnapshot r challengeId)
  patches := (events .challengeResolved).filterMap challengeResolution ++
    (events .challengeWithdrawn).filterMap challengeWithdrawal

def appealsBatch : Batch ℕ AppealView String where
  puts := (touchedAppealIds events).map fun appealId => upsertAppeal (appealSnapshot r appealId)
  patches := (events .appealAdjudicated).filterMap appealAdjudication

/-- The transaction of `applyChunk`, up to the cursor. -/
def applyChunk (t : Tables) : Except String Tables := do
  let claims ← (claimsBatch r events).run t.claims
  let artifacts ← (artifactsBatch events).run t.artifacts
  let replications ← (replicationsBatch events).run t.replications
  let resolutionDecisions ← (resolutionDecisionsBatch r events).run t.resolutionDecisions
  let checkpoints ← (checkpointsBatch events).run t.checkpoints
  let agents ← (agentsBatch r events).run t.agents
  let agentControllers ← (agentControllersBatch events).run t.agentControllers
  let forecasts ← (forecastsBatch r events).run t.forecasts
  let challenges ← (challengesBatch r events).run t.challenges
  let appeals ← (appealsBatch r events).run t.appeals
  return ⟨claims, artifacts, replications, resolutionDecisions, checkpoints, agents,
    agentControllers, forecasts, challenges, appeals⟩

end

/-- A chunk succeeds exactly if it does on every table. -/
theorem applyChunk_eq_ok {r : Reads} {events : ChunkEvents} {t t' : Tables} :
    applyChunk r events t = .ok t' ↔
      (claimsBatch r events).run t.claims = .ok t'.claims ∧
      (artifactsBatch events).run t.artifacts = .ok t'.artifacts ∧
      (replicationsBatch events).run t.replications = .ok t'.replications ∧
      (resolutionDecisionsBatch r events).run t.resolutionDecisions =
        .ok t'.resolutionDecisions ∧
      (checkpointsBatch events).run t.checkpoints = .ok t'.checkpoints ∧
      (agentsBatch r events).run t.agents = .ok t'.agents ∧
      (agentControllersBatch events).run t.agentControllers = .ok t'.agentControllers ∧
      (forecastsBatch r events).run t.forecasts = .ok t'.forecasts ∧
      (challengesBatch r events).run t.challenges = .ok t'.challenges ∧
      (appealsBatch r events).run t.appeals = .ok t'.appeals := by
  constructor
  · intro h
    simp only [applyChunk, andThen_eq_ok] at h
    obtain ⟨_, h₁, _, h₂, _, h₃, _, h₄, _, h₅, _, h₆, _, h₇, _, h₈, _, h₉, _, h₁₀, h⟩ := h
    obtain rfl := Except.ok.inj h
    exact ⟨h₁, h₂, h₃, h₄, h₅, h₆, h₇, h₈, h₉, h₁₀⟩
  · rintro ⟨h₁, h₂, h₃, h₄, h₅, h₆, h₇, h₈, h₉, h₁₀⟩
    simp only [applyChunk, h₁, h₂, h₃, h₄, h₅, h₆, h₇, h₈, h₉, h₁₀]
    rfl

end ScientificProtocol.Indexer
