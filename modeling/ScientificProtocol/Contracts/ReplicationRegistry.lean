import ScientificProtocol.Contracts.AgentRegistry
import ScientificProtocol.Contracts.ResolutionModules

/-!
# `ReplicationRegistry`

`contracts/ReplicationRegistry.sol`: append-only replication submissions, each
resolved at most once by the module its claim is bound to. The claim registry
and this registry call each other, so here the claim registry is seen through
the two functions of its interface that this contract uses.
-/

namespace ScientificProtocol

open Evm

/-- What the replication registry calls of `contracts/interfaces/IClaimRegistry.sol`. -/
structure IClaimRegistry where
  claimExists : ℕ → Bool
  getClaimResolutionModule : ℕ → Tx Revert Address

namespace ReplicationRegistry

inductive Event where
  | replicationSubmitted (replicationId claimId : ℕ) (replicator : Address) (agentId : ℕ)
      (resultHash : Bytes32)
  | replicationResolved (replicationId : ℕ) (outcome : ReplicationOutcome)
      (status : ResolutionStatus) (resolutionHash : Bytes32) (resolver : Address)
      (confidenceBps : UInt16) (resolverType : ResolverType) (evidenceHash : Bytes32)
      (evidenceURI : String)
  deriving DecidableEq

/-- The entry points of the registry. -/
inductive Call where
  | submitReplication (claimId : ℕ) (environmentHash resultHash evidenceHash : Bytes32)
      (agentId : ℕ)
  | resolveReplicationOutcome (replicationId : ℕ) (result : ResolutionResult)
  deriving DecidableEq

end ReplicationRegistry

/-- The storage of the registry and its log. -/
structure ReplicationRegistry where
  nextReplicationId : ℕ
  replications : Mapping ℕ ReplicationRecord
  claimReplications : Mapping ℕ (List ℕ)
  logs : List ReplicationRegistry.Event
  deriving Inhabited

namespace ReplicationRegistry

/-- The registry as it is deployed. -/
def deployed : ReplicationRegistry :=
  { (default : ReplicationRegistry) with nextReplicationId := 1 }

/-- `_mapResolutionStatus`. -/
def mapResolutionStatus : ResolutionStatus → ReplicationOutcome
  | .supported => .supports
  | .qualified => .partiallySupports
  | .inconclusive => .inconclusive
  | .escalated => .inconclusive
  | .refuted => .failsToSupport
  | .fraudSignal => .fraudSignal
  | .pending => .invalidSubmission

variable (ctx : Ctx) (self : ReplicationRegistry)

/-! ### Reads -/

def replicationExists (replicationId : ℕ) : Bool :=
  decide ((self.replications replicationId).replicationId ≠ 0)

def getReplication (replicationId : ℕ) : Tx Revert ReplicationRecord := do
  let replication := self.replications replicationId
  revertIf (replication.replicationId = 0) (.replicationRegistryUnknownReplication replicationId)
  return replication

def getClaimReplicationIds (claimId : ℕ) : List ℕ := self.claimReplications claimId

def getReplicationClaimId (replicationId : ℕ) : ℕ := (self.replications replicationId).claimId

def getReplicationReplicator (replicationId : ℕ) : Address :=
  (self.replications replicationId).replicator

def isReplicationResolved (replicationId : ℕ) : Bool :=
  decide ((self.replications replicationId).resolvedAt ≠ 0)

/-! ### Entry points -/

/-- The record of a fresh submission. -/
def submitted (replicationId claimId : ℕ) (environmentHash resultHash evidenceHash : Bytes32)
    (agentId : ℕ) : ReplicationRecord :=
  { replicationId, claimId, replicator := ctx.sender, agentId, environmentHash, resultHash,
    evidenceHash, outcome := .pending, resolutionStatus := .pending, resolutionHash := 0,
    resolutionEvidenceHash := 0, resolutionEvidenceURI := "", resolverType := .unknown,
    confidenceBps := 0, submittedAt := ctx.timestamp, resolvedAt := 0, resolver := 0 }

def submitReplication (claimRegistry : IClaimRegistry) (agentRegistry : AgentRegistry)
    (claimId : ℕ) (environmentHash resultHash evidenceHash : Bytes32) (agentId : ℕ) :
    Tx Revert (ℕ × ReplicationRegistry) := do
  revertIf (¬claimRegistry.claimExists claimId) (.replicationRegistryUnknownClaim claimId)
  revertIf (agentId ≠ 0 ∧ ¬agentRegistry.isAuthorizedController agentId ctx.sender)
    (.replicationRegistryUnauthorizedAgent agentId ctx.sender)
  let replicationId := self.nextReplicationId
  let nextReplicationId ← checkedAdd replicationId 1
  let replication :=
    submitted ctx replicationId claimId environmentHash resultHash evidenceHash agentId
  return (replicationId, { self with
    nextReplicationId
    replications := self.replications.set replicationId replication
    claimReplications :=
      self.claimReplications.set claimId (self.claimReplications claimId ++ [replicationId])
    logs := self.logs ++
      [.replicationSubmitted replicationId claimId ctx.sender agentId resultHash] })

/-- The record of a submission with the result its module accepted. -/
def resolved (replication : ReplicationRecord) (result : ResolutionResult) : ReplicationRecord :=
  { replication with
    outcome := mapResolutionStatus result.status
    resolutionStatus := result.status
    resolutionHash := result.resolutionHash
    resolutionEvidenceHash := result.evidenceHash
    resolutionEvidenceURI := result.evidenceURI
    resolverType := result.resolverType
    confidenceBps := result.confidenceBps
    resolvedAt := ctx.timestamp
    resolver := ctx.sender }

def resolveReplicationOutcome (claimRegistry : IClaimRegistry) (replicationId : ℕ)
    (result : ResolutionResult) : Tx Revert ReplicationRegistry := do
  ctx.onlyRole .resolver
  let replication := self.replications replicationId
  revertIf (replication.replicationId = 0) (.replicationRegistryUnknownReplication replicationId)
  revertIf (replication.resolvedAt ≠ 0) (.replicationRegistryAlreadyResolved replicationId)
  -- The module of the claim decides whether the result is one it can have produced.
  let module ← claimRegistry.getClaimResolutionModule replication.claimId
  let accepted ← ctx.validateResolution module result
  revertIf (¬accepted) (.replicationRegistryModuleRejected module replicationId)
  return { self with
    replications := self.replications.set replicationId (resolved ctx replication result)
    logs := self.logs ++
      [.replicationResolved replicationId (mapResolutionStatus result.status) result.status
        result.resolutionHash ctx.sender result.confidenceBps result.resolverType
        result.evidenceHash result.evidenceURI] }

/-- A call from outside. -/
def exec (claimRegistry : IClaimRegistry) (agentRegistry : AgentRegistry) (call : Call) :
    Tx Revert ReplicationRegistry := do
  ctx.nonPayable
  match call with
  | .submitReplication claimId environmentHash resultHash evidenceHash agentId =>
    Prod.snd <$> self.submitReplication ctx claimRegistry agentRegistry claimId environmentHash
      resultHash evidenceHash agentId
  | .resolveReplicationOutcome replicationId result =>
    self.resolveReplicationOutcome ctx claimRegistry replicationId result

end ReplicationRegistry

end ScientificProtocol
