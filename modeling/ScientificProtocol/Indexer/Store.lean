import ScientificProtocol.Sql.Batch
import ScientificProtocol.ProtocolTypes

/-!
# The rows of the read model

The tables the indexer derives from the chain, and the statements of
`src/indexer/store.ts` it writes them with. A statement that has to find its row, and does
not, fails with the text the source has for it. The columns that the source fills with the
number of an enumeration hold the enumeration here, and identifiers, which the columns
keep as decimal texts, are numbers.
-/

namespace ScientificProtocol.Indexer

open Evm Sql

/-! ### Views -/

structure ClaimView where
  claimId : ℕ
  author : Address
  domainId : UInt64
  metadataHash : Bytes32
  resolutionModule : Address
  status : ClaimStatus
  revisionOfClaimId : Option ℕ
  createdAtBlock : ℕ
  deriving DecidableEq

structure ArtifactView where
  artifactId : ℕ
  claimId : ℕ
  artifactType : ArtifactType
  contentDigest : Bytes32
  uri : String
  submitter : Address
  deriving DecidableEq

/-- What a resolution adds to a replication. -/
structure ReplicationResolution where
  outcome : Option ReplicationOutcome
  resolutionStatus : Option ResolutionStatus
  confidenceBps : Option UInt16
  resolverType : Option ResolverType
  resolutionHash : Option Bytes32
  evidenceHash : Option Bytes32
  evidenceURI : Option String
  deriving DecidableEq

structure ReplicationView extends ReplicationResolution where
  replicationId : ℕ
  claimId : ℕ
  replicator : Address
  agentId : ℕ
  resultHash : Bytes32
  deriving DecidableEq

structure CheckpointView where
  checkpointId : ℕ
  domainId : UInt64
  subjectType : CheckpointSubjectType
  subjectActor : Address
  subjectClaimId : ℕ
  subjectAgentId : ℕ
  subjectModule : Address
  scoreVectorHash : Bytes32
  payloadHash : Bytes32
  uri : String
  deriving DecidableEq

structure ResolutionDecisionView where
  decisionId : ℕ
  claimId : ℕ
  replicationId : ℕ
  resolutionModule : Address
  status : ResolutionStatus
  claimStatus : ClaimStatus
  confidenceBps : UInt16
  resolutionHash : Bytes32
  evidenceHash : Bytes32
  resolverType : ResolverType
  createdAt : ℕ
  actor : Address
  effective : Bool
  deriving DecidableEq

structure AgentView where
  agentId : ℕ
  operator : Address
  metadataHash : Bytes32
  uri : String
  budgetBalance : ℕ
  reservedBudget : ℕ
  spendLimit : ℕ
  active : Bool
  deriving DecidableEq

structure AgentControllerView where
  agentId : ℕ
  controller : Address
  authorized : Bool
  deriving DecidableEq

structure ForecastView where
  forecastId : ℕ
  claimId : ℕ
  forecaster : Address
  agentId : ℕ
  commitmentHash : Bytes32
  stakeAmount : ℕ
  committedAt : UInt64
  revealDeadline : UInt64
  revealed : Bool
  settled : Bool
  direction : ForecastDirection
  confidenceBps : UInt16
  effectiveDecisionIdAtCommit : Option ℕ
  resolutionDecisionId : Option ℕ
  finalStatus : Option ResolutionStatus
  matched : Option Bool
  payoutAmount : Option ℕ
  deriving DecidableEq

structure ChallengeView where
  challengeId : ℕ
  claimId : ℕ
  replicationId : ℕ
  challenger : Address
  agentId : ℕ
  evidenceHash : Bytes32
  evidenceURI : String
  bondAmount : ℕ
  status : ChallengeStatus
  resolutionHash : Option Bytes32
  createdAt : ℕ
  resolvedAt : Option ℕ
  payoutAmount : Option ℕ
  refundedAmount : Option ℕ
  deriving DecidableEq

structure AppealView where
  appealId : ℕ
  claimId : ℕ
  replicationId : ℕ
  challengeId : ℕ
  appellant : Address
  reason : AppealReason
  filingHash : Bytes32
  uri : String
  status : AppealStatus
  adjudicationHash : Option Bytes32
  adjudicationURI : Option String
  bondAmount : ℕ
  createdAt : ℕ
  adjudicatedAt : Option ℕ
  refundedAmount : Option ℕ
  deriving DecidableEq

/-- The rows the indexer derives from the chain. -/
structure Tables where
  claims : Table ℕ ClaimView
  artifacts : Table ℕ ArtifactView
  replications : Table ℕ ReplicationView
  resolutionDecisions : Table ℕ ResolutionDecisionView
  checkpoints : Table ℕ CheckpointView
  agents : Table ℕ AgentView
  agentControllers : Table (ℕ × Address) AgentControllerView
  forecasts : Table ℕ ForecastView
  challenges : Table ℕ ChallengeView
  appeals : Table ℕ AppealView

/-- A read model nothing has been written to. -/
def Tables.empty : Tables :=
  ⟨.empty, .empty, .empty, .empty, .empty, .empty, .empty, .empty, .empty, .empty⟩

/-! ### Statements -/

def upsertClaim (claim : ClaimView) : Put ℕ ClaimView :=
  .upsert claim.claimId claim fun _ => claim

def updateClaimStatus (claimId : ℕ) (status : ClaimStatus) : Patch ℕ ClaimView String :=
  .byKey claimId (fun row => { row with status })
    s!"claim {claimId} was not present when applying ClaimStatusUpdated"

def insertArtifact (artifact : ArtifactView) : Put ℕ ArtifactView :=
  .orIgnore artifact.artifactId artifact

/-- What a resolution has written stays. -/
def upsertReplicationSubmission (replication : ReplicationView) : Put ℕ ReplicationView :=
  .upsert replication.replicationId
    { replication with
      outcome := none, resolutionStatus := none, confidenceBps := none, resolverType := none,
      resolutionHash := none, evidenceHash := none, evidenceURI := none }
    fun row =>
      { row with
        claimId := replication.claimId
        replicator := replication.replicator
        agentId := replication.agentId
        resultHash := replication.resultHash }

def applyReplicationResolution (replicationId : ℕ) (resolution : ReplicationResolution) :
    Patch ℕ ReplicationView String :=
  .byKey replicationId (fun row => { row with toReplicationResolution := resolution })
    s!"replication {replicationId} was not present when applying ReplicationResolved"

def insertResolutionDecision (decision : ResolutionDecisionView) :
    Put ℕ ResolutionDecisionView :=
  .orIgnore decision.decisionId { decision with effective := false }

/-- Two updates: the first takes the mark off the decisions of the claim, and need not find
any; the second puts it on the one decision, which has to be one of the claim. -/
def markEffectiveResolutionDecision (claimId decisionId : ℕ) :
    Patch ℕ ResolutionDecisionView String where
  key := decisionId
  finds row := decide (row.claimId = claimId)
  set key row :=
    let row := if row.claimId = claimId then { row with effective := false } else row
    if row.claimId = claimId ∧ key = decisionId then { row with effective := true } else row
  missing := s!"effective resolution decision {decisionId} missing for claim {claimId}"

def insertCheckpoint (checkpoint : CheckpointView) : Put ℕ CheckpointView :=
  .orIgnore checkpoint.checkpointId checkpoint

def upsertAgent (agent : AgentView) : Put ℕ AgentView :=
  .upsert agent.agentId agent fun _ => agent

def upsertAgentController (controller : AgentControllerView) :
    Put (ℕ × Address) AgentControllerView :=
  .upsert (controller.agentId, controller.controller) controller fun row =>
    { row with authorized := controller.authorized }

/-- `COALESCE(row.column, EXCLUDED.column)` keeps what an earlier statement has written. -/
def upsertForecast (forecast : ForecastView) : Put ℕ ForecastView :=
  .upsert forecast.forecastId forecast fun row =>
    { forecast with
      effectiveDecisionIdAtCommit :=
        row.effectiveDecisionIdAtCommit.or forecast.effectiveDecisionIdAtCommit
      resolutionDecisionId := row.resolutionDecisionId.or forecast.resolutionDecisionId
      finalStatus := row.finalStatus.or forecast.finalStatus
      matched := row.matched.or forecast.matched
      payoutAmount := row.payoutAmount.or forecast.payoutAmount }

/-- `NULLIF(value, '0')`. -/
def nullIfZero (value : ℕ) : Option ℕ := if value = 0 then none else some value

def applyForecastSettlement (forecastId : ℕ) (resolutionDecisionId : Option ℕ)
    (finalStatus : ResolutionStatus) (isMatched : Bool) (payoutAmount : ℕ) :
    Patch ℕ ForecastView String :=
  .byKey forecastId
    (fun row =>
      { row with
        resolutionDecisionId := resolutionDecisionId.bind nullIfZero
        finalStatus := some finalStatus
        matched := some isMatched
        payoutAmount := some payoutAmount
        settled := true })
    s!"forecast {forecastId} was not present when applying ForecastSettled"

def upsertChallenge (challenge : ChallengeView) : Put ℕ ChallengeView :=
  .upsert challenge.challengeId challenge fun row =>
    { challenge with
      payoutAmount := row.payoutAmount.or challenge.payoutAmount
      refundedAmount := row.refundedAmount.or challenge.refundedAmount }

def applyChallengeResolution (challengeId : ℕ) (status : ChallengeStatus)
    (resolutionHash : Bytes32) (payoutAmount : ℕ) : Patch ℕ ChallengeView String :=
  .byKey challengeId
    (fun row =>
      { row with
        status
        resolutionHash := some resolutionHash
        payoutAmount := some payoutAmount })
    s!"challenge {challengeId} was not present when applying ChallengeResolved"

def applyChallengeWithdrawal (challengeId refundedAmount : ℕ) :
    Patch ℕ ChallengeView String :=
  .byKey challengeId (fun row => { row with refundedAmount := some refundedAmount })
    s!"challenge {challengeId} was not present when applying ChallengeWithdrawn"

def upsertAppeal (appeal : AppealView) : Put ℕ AppealView :=
  .upsert appeal.appealId appeal fun row =>
    { appeal with refundedAmount := row.refundedAmount.or appeal.refundedAmount }

def applyAppealAdjudication (appealId : ℕ) (status : AppealStatus) (adjudicationHash : Bytes32)
    (adjudicationURI : String) (refundedAmount : ℕ) : Patch ℕ AppealView String :=
  .byKey appealId
    (fun row =>
      { row with
        status
        adjudicationHash := some adjudicationHash
        adjudicationURI := some adjudicationURI
        refundedAmount := some refundedAmount })
    s!"appeal {appealId} was not present when applying AppealAdjudicated"

end ScientificProtocol.Indexer
