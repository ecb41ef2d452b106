import ScientificProtocol.Indexer.Events
import ScientificProtocol.Sql.Table

/-!
# The handlers of the subgraph

The second index of the protocol: `src/subgraph` has a handler for each kind of event,
which creates an entity or loads one and changes it, and the events of a chain are handed
to the handlers one after the other (`ScientificProtocol.Subgraph.handleAll`). Nothing is
read of the contracts. What an entity says of its record is kept apart from the blocks it
was created and updated in.

The proposals of the governor are left out with the governor.
-/

namespace ScientificProtocol.Subgraph

open Evm Indexer Sql

/-- What a handler gets besides the parameters of the event. -/
structure EventContext where
  blockNumber : ℕ
  blockTimestamp : ℕ
  transactionFrom : Address
  deriving DecidableEq, Inhabited

/-! ### The entities -/

structure ClaimColumns where
  id : ℕ
  author : Address
  domainId : UInt64
  metadataHash : Bytes32
  resolutionModule : Address
  requiredAuthorBond : ℕ
  status : ClaimStatus
  revisionOf : Option ℕ
  effectiveResolutionDecision : Option ℕ
  deriving DecidableEq

structure Claim extends ClaimColumns where
  createdAtBlock : ℕ
  updatedAtBlock : ℕ
  deriving DecidableEq

structure ArtifactColumns where
  id : ℕ
  claim : ℕ
  artifactType : ArtifactType
  contentDigest : Bytes32
  uri : String
  submitter : Address
  deriving DecidableEq

structure Artifact extends ArtifactColumns where
  createdAtBlock : ℕ
  deriving DecidableEq

structure ReplicationColumns where
  id : ℕ
  claim : ℕ
  replicator : Address
  agentId : ℕ
  resultHash : Bytes32
  outcome : Option ReplicationOutcome
  resolutionStatus : Option ResolutionStatus
  resolutionHash : Option Bytes32
  resolver : Option Address
  confidenceBps : Option UInt16
  resolverType : Option ResolverType
  evidenceHash : Option Bytes32
  evidenceURI : Option String
  deriving DecidableEq

structure Replication extends ReplicationColumns where
  submittedAtBlock : ℕ
  resolvedAtBlock : Option ℕ
  deriving DecidableEq

structure ResolutionDecisionColumns where
  id : ℕ
  claim : ℕ
  replication : ℕ
  resolutionModule : Address
  status : ResolutionStatus
  claimStatus : ClaimStatus
  confidenceBps : UInt16
  resolutionHash : Bytes32
  evidenceHash : Bytes32
  resolverType : ResolverType
  actor : Address
  deriving DecidableEq

structure ResolutionDecision extends ResolutionDecisionColumns where
  createdAtBlock : ℕ
  createdAtTimestamp : ℕ
  deriving DecidableEq

structure ReputationCheckpointColumns where
  id : ℕ
  domainId : UInt64
  subjectType : CheckpointSubjectType
  subjectActor : Address
  subjectClaimId : ℕ
  subjectAgentId : ℕ
  subjectModule : Address
  scoreVectorHash : Bytes32
  payloadHash : Bytes32
  uri : String
  deriving DecidableEq

structure ReputationCheckpoint extends ReputationCheckpointColumns where
  publisher : Address
  createdAtBlock : ℕ
  deriving DecidableEq

/-- The amounts are signed: a handler subtracts without a check. -/
structure AgentColumns where
  id : ℕ
  operator : Address
  metadataHash : Bytes32
  uri : String
  spendLimit : ℕ
  budgetBalance : ℤ
  reservedBudget : ℤ
  spentBudget : ℤ
  active : Bool
  deriving DecidableEq

structure Agent extends AgentColumns where
  createdAtBlock : ℕ
  updatedAtBlock : ℕ
  deriving DecidableEq

/-- The entities of the data source `ClaimRegistry`. -/
structure ClaimEntities where
  claims : Table ℕ Claim
  resolutionDecisions : Table ℕ ResolutionDecision

/-! ### The handlers -/

section

variable (event : EventContext)

/-- `claim-registry.ts`. -/
def handleClaimRegistry (params : ClaimRegistry.Event) (s : ClaimEntities) : ClaimEntities :=
  match params with
  | .claimCreated claimId author domainId metadataHash resolutionModule requiredAuthorBond =>
    { s with
      claims := s.claims.set claimId
        { id := claimId, author, domainId, metadataHash, resolutionModule, requiredAuthorBond
          status := .draft
          revisionOf := none
          effectiveResolutionDecision := none
          createdAtBlock := event.blockNumber
          updatedAtBlock := event.blockNumber } }
  | .claimRevised priorClaimId newClaimId _ =>
    { s with
      claims := s.claims.update newClaimId fun claim =>
        { claim with revisionOf := some priorClaimId, updatedAtBlock := event.blockNumber } }
  | .claimStatusUpdated claimId _ newStatus _ =>
    { s with
      claims := s.claims.update claimId fun claim =>
        { claim with status := newStatus, updatedAtBlock := event.blockNumber } }
  | .resolutionDecisionRecorded decisionId claimId replicationId resolutionModule status
      claimStatus confidenceBps resolutionHash evidenceHash resolverType actor =>
    { s with
      resolutionDecisions := s.resolutionDecisions.set decisionId
        { id := decisionId
          claim := claimId
          replication := replicationId
          resolutionModule, status, claimStatus, confidenceBps, resolutionHash, evidenceHash,
          resolverType, actor
          createdAtBlock := event.blockNumber
          createdAtTimestamp := event.blockTimestamp } }
  -- Nothing happens if either of the two is missing.
  | .effectiveResolutionDecisionUpdated claimId decisionId _ _ =>
    match s.resolutionDecisions decisionId with
    | none => s
    | some decision =>
      { s with
        claims := s.claims.update claimId fun claim =>
          { claim with
            effectiveResolutionDecision := some decision.id
            updatedAtBlock := event.blockNumber } }
  | .claimProtocolDependenciesConfigured .. => s
  | .delegatedClaimRequestRecorded .. => s

/-- `artifact-registry.ts`. -/
def handleArtifactRegistry (params : ArtifactRegistry.Event) (t : Table ℕ Artifact) :
    Table ℕ Artifact :=
  match params with
  | .artifactAdded artifactId claimId artifactType contentDigest uri submitter =>
    t.set artifactId
      { id := artifactId
        claim := claimId
        artifactType, contentDigest, uri, submitter
        createdAtBlock := event.blockNumber }

/-- `replication-registry.ts`. -/
def handleReplicationRegistry (params : ReplicationRegistry.Event) (t : Table ℕ Replication) :
    Table ℕ Replication :=
  match params with
  | .replicationSubmitted replicationId claimId replicator agentId resultHash =>
    t.set replicationId
      { id := replicationId
        claim := claimId
        replicator, agentId, resultHash
        outcome := none
        resolutionStatus := none
        resolutionHash := none
        resolver := none
        confidenceBps := none
        resolverType := none
        evidenceHash := none
        evidenceURI := none
        submittedAtBlock := event.blockNumber
        resolvedAtBlock := none }
  | .replicationResolved replicationId outcome status resolutionHash resolver confidenceBps
      resolverType evidenceHash evidenceURI =>
    t.update replicationId fun replication =>
      { replication with
        outcome := some outcome
        resolutionStatus := some status
        resolutionHash := some resolutionHash
        resolver := some resolver
        confidenceBps := some confidenceBps
        resolverType := some resolverType
        evidenceHash := some evidenceHash
        evidenceURI := some evidenceURI
        resolvedAtBlock := some event.blockNumber }

/-- `checkpoint-registry.ts`. -/
def handleReputationCheckpointRegistry (params : ReputationCheckpointRegistry.Event)
    (t : Table ℕ ReputationCheckpoint) : Table ℕ ReputationCheckpoint :=
  match params with
  | .reputationCheckpointPublished checkpointId domainId subject scoreVectorHash payloadHash
      uri =>
    t.set checkpointId
      { id := checkpointId, domainId
        subjectType := subject.subjectType
        subjectActor := subject.subjectActor
        subjectClaimId := subject.subjectClaimId
        subjectAgentId := subject.subjectAgentId
        subjectModule := subject.subjectModule
        scoreVectorHash, payloadHash, uri
        publisher := event.transactionFrom
        createdAtBlock := event.blockNumber }

/-- What the handlers of `agent-registry.ts` that load an agent have in common. -/
def updateAgent (agentId : ℕ) (f : AgentColumns → AgentColumns) (t : Table ℕ Agent) :
    Table ℕ Agent :=
  t.update agentId fun agent =>
    { agent with toAgentColumns := f agent.toAgentColumns, updatedAtBlock := event.blockNumber }

/-- `agent-registry.ts`. -/
def handleAgentRegistry (params : AgentRegistry.Event) (t : Table ℕ Agent) : Table ℕ Agent :=
  match params with
  | .agentRegistered agentId operator metadataHash uri spendLimit =>
    t.set agentId
      { id := agentId, operator, metadataHash, uri, spendLimit
        budgetBalance := 0
        reservedBudget := 0
        spentBudget := 0
        active := true
        createdAtBlock := event.blockNumber
        updatedAtBlock := event.blockNumber }
  | .agentStatusUpdated agentId active _ =>
    updateAgent event agentId (fun agent => { agent with active }) t
  | .agentSpendLimitUpdated agentId newSpendLimit _ =>
    updateAgent event agentId (fun agent => { agent with spendLimit := newSpendLimit }) t
  | .agentBudgetDeposited agentId _ amount =>
    updateAgent event agentId
      (fun agent => { agent with budgetBalance := agent.budgetBalance + amount }) t
  | .agentBudgetReserved agentId amount _ =>
    updateAgent event agentId
      (fun agent => { agent with reservedBudget := agent.reservedBudget + amount }) t
  | .agentBudgetReleased agentId amount _ =>
    updateAgent event agentId
      (fun agent => { agent with reservedBudget := agent.reservedBudget - amount }) t
  | .agentBudgetConsumed agentId amount _ _ =>
    updateAgent event agentId
      (fun agent =>
        { agent with
          reservedBudget := agent.reservedBudget - amount
          budgetBalance := agent.budgetBalance - amount
          spentBudget := agent.spentBudget + amount }) t
  | .agentBudgetWithdrawn agentId amount _ =>
    updateAgent event agentId
      (fun agent => { agent with budgetBalance := agent.budgetBalance - amount }) t
  | .agentControllerAuthorization .. => t
  | .depositsPauseSet .. => t

end

/-! ### The index -/

/-- The entities of the index, data source by data source. -/
structure Store where
  claimRegistry : ClaimEntities
  artifacts : Table ℕ Artifact
  replications : Table ℕ Replication
  reputationCheckpoints : Table ℕ ReputationCheckpoint
  agents : Table ℕ Agent

/-- The index before the first block. -/
def Store.empty : Store := ⟨⟨.empty, .empty⟩, .empty, .empty, .empty, .empty⟩

/-- An event, as the handlers get it. -/
abbrev SubgraphEvent : Type := EventContext × ChainEvent

/-- `subgraph.yaml`: who handles an event. Nobody listens to the market and to appeals. -/
def handle (s : Store) (e : SubgraphEvent) : Store :=
  match e.2 with
  | .claimRegistry params => { s with
      claimRegistry := handleClaimRegistry e.1 params s.claimRegistry }
  | .artifactRegistry params => { s with
      artifacts := handleArtifactRegistry e.1 params s.artifacts }
  | .replicationRegistry params => { s with
      replications := handleReplicationRegistry e.1 params s.replications }
  | .reputationCheckpointRegistry params => { s with
      reputationCheckpoints :=
        handleReputationCheckpointRegistry e.1 params s.reputationCheckpoints }
  | .agentRegistry params => { s with agents := handleAgentRegistry e.1 params s.agents }
  | .epistemicMarket _ => s
  | .appealsRegistry _ => s

/-- The events of a chain are handled one after the other. -/
def handleAll (es : List SubgraphEvent) (s : Store) : Store := es.foldl handle s

end ScientificProtocol.Subgraph
