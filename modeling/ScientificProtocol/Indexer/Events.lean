import ScientificProtocol.Contracts.AppealsRegistry
import ScientificProtocol.Contracts.RecordRegistries

/-!
# The events the indexer asks for

The logs of the seven contracts `src/indexer/projector.ts` reads, and the 25 queries it
makes for a range of blocks. Each query returns the logs of one kind of event in the order
of the chain (`ScientificProtocol.Indexer.queryFilter`), so that what a chunk of the chain
is turned into is a function of its logs kind by kind, and the order between two kinds is
lost.
-/

namespace ScientificProtocol.Indexer

open Evm

/-- A log of one of the contracts the indexer reads. -/
inductive ChainEvent where
  | claimRegistry (event : ClaimRegistry.Event)
  | artifactRegistry (event : ArtifactRegistry.Event)
  | replicationRegistry (event : ReplicationRegistry.Event)
  | agentRegistry (event : AgentRegistry.Event)
  | reputationCheckpointRegistry (event : ReputationCheckpointRegistry.Event)
  | epistemicMarket (event : EpistemicMarket.Event)
  | appealsRegistry (event : AppealsRegistry.Event)
  deriving DecidableEq

/-- A log and the block it is in. -/
structure EventLog where
  blockNumber : ℕ
  event : ChainEvent
  deriving DecidableEq

/-- The queries of `fetchChunkEvents`, in their order. -/
inductive EventFilter where
  | claimCreated
  | claimStatusUpdated
  | resolutionDecisionRecorded
  | effectiveResolutionDecisionUpdated
  | artifactAdded
  | replicationSubmitted
  | replicationResolved
  | agentRegistered
  | agentControllerAuthorization
  | agentBudgetDeposited
  | agentBudgetReserved
  | agentBudgetReleased
  | agentBudgetConsumed
  | agentBudgetWithdrawn
  | agentSpendLimitUpdated
  | agentStatusUpdated
  | reputationCheckpointPublished
  | forecastCommitted
  | forecastRevealed
  | forecastSettled
  | challengeOpened
  | challengeResolved
  | challengeWithdrawn
  | appealFiled
  | appealAdjudicated
  deriving DecidableEq, Repr

/-- All of them. -/
def EventFilter.all : List EventFilter :=
  [.claimCreated, .claimStatusUpdated, .resolutionDecisionRecorded,
    .effectiveResolutionDecisionUpdated, .artifactAdded, .replicationSubmitted,
    .replicationResolved, .agentRegistered, .agentControllerAuthorization,
    .agentBudgetDeposited, .agentBudgetReserved, .agentBudgetReleased, .agentBudgetConsumed,
    .agentBudgetWithdrawn, .agentSpendLimitUpdated, .agentStatusUpdated,
    .reputationCheckpointPublished, .forecastCommitted, .forecastRevealed, .forecastSettled,
    .challengeOpened, .challengeResolved, .challengeWithdrawn, .appealFiled,
    .appealAdjudicated]

/-- The query that returns an event, if there is one: the indexer does not ask for every
event of the contracts. -/
def ChainEvent.filter? : ChainEvent → Option EventFilter
  | .claimRegistry (.claimCreated ..) => some .claimCreated
  | .claimRegistry (.claimStatusUpdated ..) => some .claimStatusUpdated
  | .claimRegistry (.resolutionDecisionRecorded ..) => some .resolutionDecisionRecorded
  | .claimRegistry (.effectiveResolutionDecisionUpdated ..) =>
    some .effectiveResolutionDecisionUpdated
  | .artifactRegistry (.artifactAdded ..) => some .artifactAdded
  | .replicationRegistry (.replicationSubmitted ..) => some .replicationSubmitted
  | .replicationRegistry (.replicationResolved ..) => some .replicationResolved
  | .agentRegistry (.agentRegistered ..) => some .agentRegistered
  | .agentRegistry (.agentControllerAuthorization ..) => some .agentControllerAuthorization
  | .agentRegistry (.agentBudgetDeposited ..) => some .agentBudgetDeposited
  | .agentRegistry (.agentBudgetReserved ..) => some .agentBudgetReserved
  | .agentRegistry (.agentBudgetReleased ..) => some .agentBudgetReleased
  | .agentRegistry (.agentBudgetConsumed ..) => some .agentBudgetConsumed
  | .agentRegistry (.agentBudgetWithdrawn ..) => some .agentBudgetWithdrawn
  | .agentRegistry (.agentSpendLimitUpdated ..) => some .agentSpendLimitUpdated
  | .agentRegistry (.agentStatusUpdated ..) => some .agentStatusUpdated
  | .reputationCheckpointRegistry (.reputationCheckpointPublished ..) =>
    some .reputationCheckpointPublished
  | .epistemicMarket (.forecastCommitted ..) => some .forecastCommitted
  | .epistemicMarket (.forecastRevealed ..) => some .forecastRevealed
  | .epistemicMarket (.forecastSettled ..) => some .forecastSettled
  | .epistemicMarket (.challengeOpened ..) => some .challengeOpened
  | .epistemicMarket (.challengeResolved ..) => some .challengeResolved
  | .epistemicMarket (.challengeWithdrawn ..) => some .challengeWithdrawn
  | .appealsRegistry (.appealFiled ..) => some .appealFiled
  | .appealsRegistry (.appealAdjudicated ..) => some .appealAdjudicated
  | _ => none

/-- `contract.queryFilter(contract.filters.Kind(), from, to)`, of the logs in the range. -/
def queryFilter (logs : List EventLog) (filter : EventFilter) : List EventLog :=
  logs.filter fun log => log.event.filter? = some filter

/-- What the 25 queries have returned. -/
abbrev ChunkEvents : Type := EventFilter → List EventLog

theorem mem_queryFilter {logs : List EventLog} {filter : EventFilter} {log : EventLog} :
    log ∈ queryFilter logs filter ↔ log ∈ logs ∧ log.event.filter? = some filter := by
  simp [queryFilter]

theorem queryFilter_append (logs logs' : List EventLog) (filter : EventFilter) :
    queryFilter (logs ++ logs') filter = queryFilter logs filter ++ queryFilter logs' filter :=
  List.filter_append _ _

/-! ### What an event is about -/

/-- The claim that is created. -/
def ChainEvent.createdClaimId? : ChainEvent → Option ℕ
  | .claimRegistry (.claimCreated claimId ..) => some claimId
  | _ => none

/-- The claim whose status moves. -/
def ChainEvent.movedClaimId? : ChainEvent → Option ℕ
  | .claimRegistry (.claimStatusUpdated claimId ..) => some claimId
  | _ => none

/-- The decision that is recorded. -/
def ChainEvent.decisionId? : ChainEvent → Option ℕ
  | .claimRegistry (.resolutionDecisionRecorded decisionId ..) => some decisionId
  | _ => none

/-- The agent whose snapshot the event asks for. -/
def ChainEvent.agentId? : ChainEvent → Option ℕ
  | .agentRegistry (.agentRegistered agentId ..) => some agentId
  | .agentRegistry (.agentControllerAuthorization agentId ..) => some agentId
  | .agentRegistry (.agentBudgetDeposited agentId ..) => some agentId
  | .agentRegistry (.agentBudgetReserved agentId ..) => some agentId
  | .agentRegistry (.agentBudgetReleased agentId ..) => some agentId
  | .agentRegistry (.agentBudgetConsumed agentId ..) => some agentId
  | .agentRegistry (.agentBudgetWithdrawn agentId ..) => some agentId
  | .agentRegistry (.agentSpendLimitUpdated agentId ..) => some agentId
  | .agentRegistry (.agentStatusUpdated agentId ..) => some agentId
  | _ => none

/-- The forecast whose snapshot the event asks for. -/
def ChainEvent.forecastId? : ChainEvent → Option ℕ
  | .epistemicMarket (.forecastCommitted forecastId ..) => some forecastId
  | .epistemicMarket (.forecastRevealed forecastId ..) => some forecastId
  | .epistemicMarket (.forecastSettled forecastId ..) => some forecastId
  | _ => none

/-- The challenge whose snapshot the event asks for. -/
def ChainEvent.challengeId? : ChainEvent → Option ℕ
  | .epistemicMarket (.challengeOpened challengeId ..) => some challengeId
  | .epistemicMarket (.challengeResolved challengeId ..) => some challengeId
  | .epistemicMarket (.challengeWithdrawn challengeId ..) => some challengeId
  | _ => none

/-- The appeal whose snapshot the event asks for. -/
def ChainEvent.appealId? : ChainEvent → Option ℕ
  | .appealsRegistry (.appealFiled appealId ..) => some appealId
  | .appealsRegistry (.appealAdjudicated appealId ..) => some appealId
  | _ => none

/-- The forecast the event ends. -/
def ChainEvent.settledForecastId? : ChainEvent → Option ℕ
  | .epistemicMarket (.forecastSettled forecastId ..) => some forecastId
  | _ => none

/-- The challenge the event ends. -/
def ChainEvent.closedChallengeId? : ChainEvent → Option ℕ
  | .epistemicMarket (.challengeResolved challengeId ..) => some challengeId
  | .epistemicMarket (.challengeWithdrawn challengeId ..) => some challengeId
  | _ => none

/-- The appeal the event ends. -/
def ChainEvent.adjudicatedAppealId? : ChainEvent → Option ℕ
  | .appealsRegistry (.appealAdjudicated appealId ..) => some appealId
  | _ => none

/-- **What the contracts promise of their logs**: a claim is created once, a decision is
recorded once, and nothing more is heard of what has ended. -/
structure LogSound (logs : List EventLog) : Prop where
  claims : (logs.filterMap (·.event.createdClaimId?)).Nodup
  decisions : (logs.filterMap (·.event.decisionId?)).Nodup
  forecasts : logs.Pairwise fun log log' => ∀ k, log.event.settledForecastId? = some k →
    log'.event.forecastId? ≠ some k
  challenges : logs.Pairwise fun log log' => ∀ k, log.event.closedChallengeId? = some k →
    log'.event.challengeId? ≠ some k
  appeals : logs.Pairwise fun log log' => ∀ k, log.event.adjudicatedAppealId? = some k →
    log'.event.appealId? ≠ some k

end ScientificProtocol.Indexer
