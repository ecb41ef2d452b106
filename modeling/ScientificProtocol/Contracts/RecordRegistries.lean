import ScientificProtocol.Contracts.ClaimRegistry

/-!
# `ArtifactRegistry` and `ReputationCheckpointRegistry`

`contracts/ArtifactRegistry.sol` and `contracts/ReputationCheckpointRegistry.sol`:
two append-only registries that read other contracts and change nothing but
themselves.
-/

namespace ScientificProtocol

open Evm

/-! ### Artifacts -/

namespace ArtifactRegistry

inductive Event where
  | artifactAdded (artifactId claimId : ℕ) (artifactType : ArtifactType)
      (contentDigest : Bytes32) (uri : String) (submitter : Address)
  deriving DecidableEq

inductive Call where
  | addArtifact (claimId : ℕ) (artifactType : ArtifactType) (contentDigest : Bytes32)
      (uri : String) (metadataHash : Bytes32)
  deriving DecidableEq

end ArtifactRegistry

structure ArtifactRegistry where
  nextArtifactId : ℕ
  artifacts : Mapping ℕ ArtifactCommitment
  claimArtifacts : Mapping ℕ (List ℕ)
  logs : List ArtifactRegistry.Event
  deriving Inhabited

namespace ArtifactRegistry

/-- The registry as it is deployed. -/
def deployed : ArtifactRegistry := { (default : ArtifactRegistry) with nextArtifactId := 1 }

variable (ctx : Ctx) (self : ArtifactRegistry)

def getArtifact (artifactId : ℕ) : Tx Revert ArtifactCommitment := do
  let artifact := self.artifacts artifactId
  revertIf (artifact.artifactId = 0) (.artifactRegistryUnknownArtifact artifactId)
  return artifact

def getClaimArtifactIds (claimId : ℕ) : List ℕ := self.claimArtifacts claimId

def addArtifact (claimRegistry : ClaimRegistry) (claimId : ℕ) (artifactType : ArtifactType)
    (contentDigest : Bytes32) (uri : String) (metadataHash : Bytes32) :
    Tx Revert (ℕ × ArtifactRegistry) := do
  revertIf (¬claimRegistry.claimExists claimId) (.artifactRegistryUnknownClaim claimId)
  let artifactId := self.nextArtifactId
  let nextArtifactId ← checkedAdd artifactId 1
  let artifact : ArtifactCommitment :=
    { artifactId, claimId, artifactType, contentDigest, uri, metadataHash,
      submitter := ctx.sender, createdAt := ctx.timestamp }
  return (artifactId, { self with
    nextArtifactId
    artifacts := self.artifacts.set artifactId artifact
    claimArtifacts := self.claimArtifacts.set claimId (self.claimArtifacts claimId ++ [artifactId])
    logs := self.logs ++
      [.artifactAdded artifactId claimId artifactType contentDigest uri ctx.sender] })

/-- A call from outside. -/
def exec (claimRegistry : ClaimRegistry) (call : Call) : Tx Revert ArtifactRegistry := do
  ctx.nonPayable
  match call with
  | .addArtifact claimId artifactType contentDigest uri metadataHash =>
    Prod.snd <$> self.addArtifact ctx claimRegistry claimId artifactType contentDigest uri
      metadataHash

end ArtifactRegistry

/-! ### Reputation checkpoints -/

structure CheckpointRecord where
  checkpointId : ℕ
  domainId : UInt64
  subjectType : CheckpointSubjectType
  subjectActor : Address
  subjectClaimId : ℕ
  subjectAgentId : ℕ
  subjectModule : Address
  scoreVectorHash : Bytes32
  payloadHash : Bytes32
  uri : String
  publishedAt : ℕ
  deriving DecidableEq, Inhabited

namespace ReputationCheckpointRegistry

/-- The subject of a checkpoint, as the caller names it. -/
structure Subject where
  subjectType : CheckpointSubjectType
  subjectActor : Address
  subjectClaimId : ℕ
  subjectAgentId : ℕ
  subjectModule : Address
  deriving DecidableEq

inductive Event where
  | reputationCheckpointPublished (checkpointId : ℕ) (domainId : UInt64) (subject : Subject)
      (scoreVectorHash payloadHash : Bytes32) (uri : String)
  deriving DecidableEq

inductive Call where
  | publishCheckpoint (domainId : UInt64) (subject : Subject)
      (scoreVectorHash payloadHash : Bytes32) (uri : String)
  deriving DecidableEq

end ReputationCheckpointRegistry

structure ReputationCheckpointRegistry where
  nextCheckpointId : ℕ
  checkpoints : Mapping ℕ CheckpointRecord
  logs : List ReputationCheckpointRegistry.Event
  deriving Inhabited

namespace ReputationCheckpointRegistry

/-- The registry as it is deployed. -/
def deployed : ReputationCheckpointRegistry :=
  { (default : ReputationCheckpointRegistry) with nextCheckpointId := 1 }

/-- `_validateSubject`. -/
def validateSubject (claimRegistry : ClaimRegistry) (agentRegistry : AgentRegistry)
    (moduleRegistry : ResolutionModuleRegistry) (subject : Subject) : Tx Revert Unit :=
  let invalid : Revert := .reputationCheckpointRegistryInvalidSubject subject.subjectType
  match subject.subjectType with
  | .actor =>
    revertIf (subject.subjectActor = 0 ∨ subject.subjectClaimId ≠ 0 ∨
      subject.subjectAgentId ≠ 0 ∨ subject.subjectModule ≠ 0) invalid
  | .claim => do
    revertIf (subject.subjectActor ≠ 0 ∨ subject.subjectAgentId ≠ 0 ∨
      subject.subjectModule ≠ 0) invalid
    revertIf (¬claimRegistry.claimExists subject.subjectClaimId)
      (.reputationCheckpointRegistryUnknownClaim subject.subjectClaimId)
  | .actorClaimPair => do
    revertIf (subject.subjectActor = 0 ∨ subject.subjectAgentId ≠ 0 ∨
      subject.subjectModule ≠ 0) invalid
    revertIf (¬claimRegistry.claimExists subject.subjectClaimId)
      (.reputationCheckpointRegistryUnknownClaim subject.subjectClaimId)
  | .agent => do
    revertIf (subject.subjectActor ≠ 0 ∨ subject.subjectClaimId ≠ 0 ∨
      subject.subjectModule ≠ 0) invalid
    revertIf (¬agentRegistry.agentExists subject.subjectAgentId)
      (.reputationCheckpointRegistryUnknownAgent subject.subjectAgentId)
  | .module => do
    revertIf (subject.subjectActor ≠ 0 ∨ subject.subjectClaimId ≠ 0 ∨
      subject.subjectAgentId ≠ 0) invalid
    revertIf (¬moduleRegistry.isRegisteredModule subject.subjectModule)
      (.reputationCheckpointRegistryUnknownModule subject.subjectModule)

variable (ctx : Ctx) (self : ReputationCheckpointRegistry)

def getCheckpoint (checkpointId : ℕ) : Tx Revert CheckpointRecord := do
  let checkpoint := self.checkpoints checkpointId
  revertIf (checkpoint.checkpointId = 0)
    (.reputationCheckpointRegistryUnknownCheckpoint checkpointId)
  return checkpoint

def publishCheckpoint (claimRegistry : ClaimRegistry) (agentRegistry : AgentRegistry)
    (moduleRegistry : ResolutionModuleRegistry) (domainId : UInt64) (subject : Subject)
    (scoreVectorHash payloadHash : Bytes32) (uri : String) :
    Tx Revert (ℕ × ReputationCheckpointRegistry) := do
  ctx.onlyRole .checkpointPublisher
  validateSubject claimRegistry agentRegistry moduleRegistry subject
  let checkpointId := self.nextCheckpointId
  let nextCheckpointId ← checkedAdd checkpointId 1
  let checkpoint : CheckpointRecord :=
    { checkpointId, domainId, subjectType := subject.subjectType,
      subjectActor := subject.subjectActor, subjectClaimId := subject.subjectClaimId,
      subjectAgentId := subject.subjectAgentId, subjectModule := subject.subjectModule,
      scoreVectorHash, payloadHash, uri, publishedAt := ctx.timestamp }
  return (checkpointId, { self with
    nextCheckpointId
    checkpoints := self.checkpoints.set checkpointId checkpoint
    logs := self.logs ++ [.reputationCheckpointPublished checkpointId domainId subject
      scoreVectorHash payloadHash uri] })

/-- A call from outside. -/
def exec (claimRegistry : ClaimRegistry) (agentRegistry : AgentRegistry)
    (moduleRegistry : ResolutionModuleRegistry) (call : Call) :
    Tx Revert ReputationCheckpointRegistry := do
  ctx.nonPayable
  match call with
  | .publishCheckpoint domainId subject scoreVectorHash payloadHash uri =>
    Prod.snd <$> self.publishCheckpoint ctx claimRegistry agentRegistry moduleRegistry domainId
      subject scoreVectorHash payloadHash uri

end ReputationCheckpointRegistry

end ScientificProtocol
