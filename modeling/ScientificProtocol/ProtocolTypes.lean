import ScientificProtocol.Evm.Tx

/-!
# The types every contract of the protocol shares

`contracts/libraries/ProtocolTypes.sol` and `contracts/libraries/ProtocolRoles.sol`.
Identifiers and amounts are natural numbers – the arithmetic on them is checked
where the compiler checks it – and the fixed-width words that the code truncates
or bounds keep their width. The first constructor of every enumeration is its
zero value, so the derived default of a record is what a Solidity mapping
answers where nothing was written.
-/

namespace ScientificProtocol

open Evm

/-! ### Roles -/

/-- The roles the protocol contracts check. -/
inductive Role where
  | defaultAdmin
  | claimSubmitter
  | parameterAdmin
  | resolver
  | checkpointPublisher
  | moduleAdmin
  | escrowAdmin
  | bountySettler
  | agentBudgetManager
  | marketSettler
  | rewardSettler
  | court
  | pauser
  deriving DecidableEq, Repr

/-! ### Enumerations -/

/-- The lifecycle of a claim. -/
inductive ClaimStatus where
  | draft
  | published
  | underReplication
  | provisionallySupported
  | qualified
  | refuted
  | fraudulent
  | deprecated
  deriving DecidableEq, Repr, Inhabited

inductive ArtifactType where
  | dataset
  | codeArchive
  | containerDigest
  | modelWeights
  | notebookBundle
  | manuscript
  | supplement
  | other
  deriving DecidableEq, Repr, Inhabited

inductive ReplicationOutcome where
  | pending
  | supports
  | partiallySupports
  | inconclusive
  | failsToSupport
  | invalidSubmission
  | fraudSignal
  deriving DecidableEq, Repr, Inhabited

/-- The normalized result of a resolution. -/
inductive ResolutionStatus where
  | pending
  | supported
  | qualified
  | inconclusive
  | refuted
  | fraudSignal
  | escalated
  deriving DecidableEq, Repr, Inhabited

inductive ResolutionModuleKind where
  | none
  | computational
  | benchmark
  | wetLab
  deriving DecidableEq, Repr, Inhabited

inductive ResolverType where
  | unknown
  | humanResolver
  | agentWorker
  | computationOracle
  | benchmarkOracle
  | wetLabCouncil
  | appealCourt
  deriving DecidableEq, Repr, Inhabited

/-- Which way a forecast bets. -/
inductive ForecastDirection where
  | supports
  | questions
  | refutes
  deriving DecidableEq, Repr, Inhabited

inductive ChallengeStatus where
  | «open»
  | sustained
  | dismissed
  | escalated
  | withdrawn
  deriving DecidableEq, Repr, Inhabited

inductive AppealReason where
  | disputedClassification
  | fraudAllegation
  | resolverMisconduct
  | moduleBoundary
  deriving DecidableEq, Repr, Inhabited

inductive AppealStatus where
  | filed
  | accepted
  | rejected
  | upheld
  | overturned
  | closed
  deriving DecidableEq, Repr, Inhabited

inductive CheckpointSubjectType where
  | actor
  | claim
  | actorClaimPair
  | agent
  | module
  deriving DecidableEq, Repr, Inhabited

/-! ### Records -/

structure ClaimSummary where
  statementHash : Bytes32
  methodologyHash : Bytes32
  scopeHash : Bytes32
  metadataHash : Bytes32
  predictionHooksHash : Bytes32
  domainId : UInt64
  author : Address
  deriving DecidableEq, Inhabited

structure ClaimRecord where
  claimId : ℕ
  summary : ClaimSummary
  status : ClaimStatus
  revisionOfClaimId : ℕ
  createdAt : ℕ
  requiredAuthorBond : ℕ
  resolutionModule : Address
  deriving DecidableEq, Inhabited

structure ArtifactCommitment where
  artifactId : ℕ
  claimId : ℕ
  artifactType : ArtifactType
  contentDigest : Bytes32
  uri : String
  metadataHash : Bytes32
  submitter : Address
  createdAt : ℕ
  deriving DecidableEq, Inhabited

/-- What a resolver hands to a resolution module. -/
structure ResolutionResult where
  status : ResolutionStatus
  confidenceBps : UInt16
  resolutionHash : Bytes32
  resolverType : ResolverType
  evidenceHash : Bytes32
  evidenceURI : String
  deriving DecidableEq, Inhabited

structure ReplicationRecord where
  replicationId : ℕ
  claimId : ℕ
  replicator : Address
  agentId : ℕ
  environmentHash : Bytes32
  resultHash : Bytes32
  evidenceHash : Bytes32
  outcome : ReplicationOutcome
  resolutionStatus : ResolutionStatus
  resolutionHash : Bytes32
  resolutionEvidenceHash : Bytes32
  resolutionEvidenceURI : String
  resolverType : ResolverType
  confidenceBps : UInt16
  submittedAt : ℕ
  resolvedAt : ℕ
  resolver : Address
  deriving DecidableEq, Inhabited

/-- The claim registry's copy of one resolved replication. -/
structure ResolutionDecision where
  decisionId : ℕ
  claimId : ℕ
  replicationId : ℕ
  resolutionModule : Address
  status : ResolutionStatus
  claimStatus : ClaimStatus
  confidenceBps : UInt16
  resolutionHash : Bytes32
  evidenceHash : Bytes32
  resolverType : ResolverType
  createdAt : ℕ
  actor : Address
  deriving DecidableEq, Inhabited

end ScientificProtocol
