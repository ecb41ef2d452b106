import ScientificProtocol.Contracts.ReplicationRegistry

/-!
# `ClaimRegistry`

`contracts/ClaimRegistry.sol`: append-only claims, and the decisions that copy
resolved replications and move the status of a claim. Two writers share the
status: `setClaimStatus` for the steps a resolver may take by hand, and
`finalizeClaimResolution` for the steps only a resolved replication justifies.
The bond escrow is bound after deployment and seen through its interface.
-/

namespace ScientificProtocol

open Evm

/-- `contracts/interfaces/IBondEscrow.sol`. -/
structure IBondEscrow where
  isAuthorBondSatisfied : ℕ → Tx Revert Bool

namespace ClaimRegistry

inductive Event where
  | claimCreated (claimId : ℕ) (author : Address) (domainId : UInt64) (metadataHash : Bytes32)
      (resolutionModule : Address) (requiredAuthorBond : ℕ)
  | claimRevised (priorClaimId newClaimId : ℕ) (author : Address)
  | claimStatusUpdated (claimId : ℕ) (oldStatus newStatus : ClaimStatus) (actor : Address)
  | claimProtocolDependenciesConfigured (bondEscrow replicationRegistry actor : Address)
  | resolutionDecisionRecorded (decisionId claimId replicationId : ℕ)
      (resolutionModule : Address) (status : ResolutionStatus) (claimStatus : ClaimStatus)
      (confidenceBps : UInt16) (resolutionHash evidenceHash : Bytes32)
      (resolverType : ResolverType) (actor : Address)
  | effectiveResolutionDecisionUpdated (claimId decisionId : ℕ) (claimStatus : ClaimStatus)
      (actor : Address)
  | delegatedClaimRequestRecorded (requestHash : Bytes32) (claimId : ℕ) (author : Address)
  deriving DecidableEq

/-- The entry points of the registry. -/
inductive Call where
  | configureProtocolDependencies (bondEscrow replicationRegistry : Address)
  | createClaim (summary : ClaimSummary) (authorBondAmount : ℕ) (resolutionModule : Address)
  | createClaimOnBehalf (summary : ClaimSummary) (authorBondAmount : ℕ)
      (resolutionModule : Address)
  | createClaimOnBehalfWithRequestHash (summary : ClaimSummary) (authorBondAmount : ℕ)
      (resolutionModule : Address) (requestHash : Bytes32)
  | reviseClaim (priorClaimId : ℕ) (summary : ClaimSummary) (authorBondAmount : ℕ)
      (resolutionModule : Address)
  | setClaimStatus (claimId : ℕ) (newStatus : ClaimStatus)
  | finalizeClaimResolution (claimId replicationId : ℕ)
  deriving DecidableEq

end ClaimRegistry

/-- The storage of the registry and its log. -/
structure ClaimRegistry where
  nextClaimId : ℕ
  nextResolutionDecisionId : ℕ
  claims : Mapping ℕ ClaimRecord
  decisions : Mapping ℕ ResolutionDecision
  claimDecisionIds : Mapping ℕ (List ℕ)
  latestClaimDecisionId : Mapping ℕ ℕ
  effectiveClaimDecisionId : Mapping ℕ ℕ
  replicationDecisionId : Mapping ℕ ℕ
  delegatedClaimRequestIds : Mapping Bytes32 ℕ
  bondEscrow : Address
  replicationRegistry : Address
  logs : List ClaimRegistry.Event
  deriving Inhabited

namespace ClaimRegistry

/-- The registry as it is deployed, with its dependencies still to be bound. -/
def deployed : ClaimRegistry :=
  { (default : ClaimRegistry) with nextClaimId := 1, nextResolutionDecisionId := 1 }

/-! ### Pure functions -/

/-- `MIN_AUTHOR_BOND_PARAMETER_KEY`. -/
def minAuthorBondParameterKey (D : Deployment) : Bytes32 :=
  D.keccak256 "osp.claim.minAuthorBond".toUTF8.data.toList

/-- `_isTerminalStatus`. -/
def isTerminalStatus (status : ClaimStatus) : Bool :=
  decide (status = .fraudulent ∨ status = .deprecated)

/-- `_isResolutionDerivedStatus`. -/
def isResolutionDerivedStatus (status : ClaimStatus) : Bool :=
  decide (status = .provisionallySupported ∨ status = .qualified ∨ status = .refuted ∨
    status = .fraudulent)

def getClaimStatusForResolution : ResolutionStatus → Tx Revert ClaimStatus
  | .supported => .ok .provisionallySupported
  | .qualified => .ok .qualified
  | .refuted => .ok .refuted
  | .fraudSignal => .ok .fraudulent
  | .inconclusive => .ok .underReplication
  | .escalated => .ok .underReplication
  | .pending => .error (.custom (.claimRegistryInvalidResolutionStatus .pending))

/-- `_isAllowedTransition`. -/
def isAllowedTransition (source target : ClaimStatus) : Bool :=
  match source with
  | .draft => decide (target = .published ∨ target = .deprecated)
  | .published =>
    decide (target = .underReplication ∨ target = .qualified ∨ target = .deprecated)
  | .underReplication =>
    decide (target = .provisionallySupported ∨ target = .qualified ∨ target = .refuted ∨
      target = .fraudulent ∨ target = .deprecated)
  | .provisionallySupported =>
    decide (target = .qualified ∨ target = .refuted ∨ target = .fraudulent ∨
      target = .deprecated)
  | .qualified => decide (target = .refuted ∨ target = .fraudulent ∨ target = .deprecated)
  | .refuted => decide (target = .deprecated)
  | .fraudulent => decide (target = .deprecated)
  | .deprecated => false

variable (ctx : Ctx) (self : ClaimRegistry)

/-! ### Reads -/

/-- `_requireExistingClaim`. -/
def requireExistingClaim (claimId : ℕ) : Tx Revert ClaimRecord := do
  let claimRecord := self.claims claimId
  revertIf (claimRecord.claimId = 0) (.claimRegistryUnknownClaim claimId)
  return claimRecord

def claimExists (claimId : ℕ) : Bool := decide ((self.claims claimId).claimId ≠ 0)

def getClaim (claimId : ℕ) : Tx Revert ClaimRecord := self.requireExistingClaim claimId

def getClaimAuthor (claimId : ℕ) : Tx Revert Address := do
  return (← self.requireExistingClaim claimId).summary.author

def getClaimResolutionModule (claimId : ℕ) : Tx Revert Address := do
  return (← self.requireExistingClaim claimId).resolutionModule

def getRequiredAuthorBond (claimId : ℕ) : Tx Revert ℕ := do
  return (← self.requireExistingClaim claimId).requiredAuthorBond

def getResolutionDecision (decisionId : ℕ) : Tx Revert ResolutionDecision := do
  let decision := self.decisions decisionId
  revertIf (decision.decisionId = 0) (.claimRegistryUnknownResolutionDecision decisionId)
  return decision

def getLatestResolutionDecisionId (claimId : ℕ) : ℕ := self.latestClaimDecisionId claimId

def getEffectiveResolutionDecisionId (claimId : ℕ) : ℕ := self.effectiveClaimDecisionId claimId

def getDelegatedClaimIdByRequestHash (requestHash : Bytes32) : ℕ :=
  self.delegatedClaimRequestIds requestHash

def getClaimResolutionDecisionIds (claimId : ℕ) : List ℕ := self.claimDecisionIds claimId

/-- The registry as the replication registry calls it. -/
def toIClaimRegistry : IClaimRegistry where
  claimExists := self.claimExists
  getClaimResolutionModule := self.getClaimResolutionModule

/-- `_requireProtocolDependencies`. -/
def requireProtocolDependencies : Tx Revert Unit :=
  revertIf (self.bondEscrow = 0 ∨ self.replicationRegistry = 0)
    .claimRegistryProtocolDependenciesNotConfigured

/-! ### Creating claims -/

/-- `_requireClaimAuthor`. -/
def requireClaimAuthor (author : Address) : Tx Revert Unit :=
  revertIf (author ≠ ctx.sender) (.claimRegistryInvalidAuthor ctx.sender author)

/-- `_requireNonzeroClaimAuthor`. -/
def requireNonzeroClaimAuthor (author : Address) : Tx Revert Unit :=
  revertIf (author = 0) .claimRegistryZeroAuthor

/-- The module a new claim is bound to: the requested one, or the default of its
domain. -/
def resolvedModule (moduleRegistry : ResolutionModuleRegistry) (domainId : UInt64)
    (requestedResolutionModule : Address) : Address :=
  if requestedResolutionModule = 0 then moduleRegistry.getDomainModule domainId
  else requestedResolutionModule

/-- `_createClaim`. -/
def createClaimRecord (parameters : ProtocolParameters)
    (moduleRegistry : ResolutionModuleRegistry) (summary : ClaimSummary)
    (authorBondAmount revisionOfClaimId : ℕ) (requestedResolutionModule : Address) :
    Tx Revert (ℕ × ClaimRegistry) := do
  let minimumBond := parameters.getUintParameter (minAuthorBondParameterKey ctx.deployment)
  revertIf (authorBondAmount < minimumBond)
    (.claimRegistryAuthorBondBelowMinimum authorBondAmount minimumBond)
  let claimId := self.nextClaimId
  let nextClaimId ← checkedAdd claimId 1
  let resolutionModule := resolvedModule moduleRegistry summary.domainId requestedResolutionModule
  revertIf (resolutionModule = 0) (.claimRegistryMissingResolutionModule summary.domainId)
  revertIf (¬moduleRegistry.isRegisteredModule resolutionModule)
    (.claimRegistryUnregisteredResolutionModule resolutionModule)
  let claimRecord : ClaimRecord :=
    { claimId, summary, status := .draft, revisionOfClaimId, createdAt := ctx.timestamp,
      requiredAuthorBond := authorBondAmount, resolutionModule }
  return (claimId, { self with
    nextClaimId
    claims := self.claims.set claimId claimRecord
    logs := self.logs ++ [.claimCreated claimId summary.author summary.domainId
      summary.metadataHash resolutionModule authorBondAmount] })

def createClaim (parameters : ProtocolParameters) (moduleRegistry : ResolutionModuleRegistry)
    (summary : ClaimSummary) (authorBondAmount : ℕ) (resolutionModule : Address) :
    Tx Revert (ℕ × ClaimRegistry) := do
  requireClaimAuthor ctx summary.author
  self.createClaimRecord ctx parameters moduleRegistry summary authorBondAmount 0 resolutionModule

def createClaimOnBehalf (parameters : ProtocolParameters)
    (moduleRegistry : ResolutionModuleRegistry) (summary : ClaimSummary) (authorBondAmount : ℕ)
    (resolutionModule : Address) : Tx Revert (ℕ × ClaimRegistry) := do
  ctx.onlyRole .claimSubmitter
  requireNonzeroClaimAuthor summary.author
  self.createClaimRecord ctx parameters moduleRegistry summary authorBondAmount 0 resolutionModule

def createClaimOnBehalfWithRequestHash (parameters : ProtocolParameters)
    (moduleRegistry : ResolutionModuleRegistry) (summary : ClaimSummary) (authorBondAmount : ℕ)
    (resolutionModule : Address) (requestHash : Bytes32) : Tx Revert (ℕ × ClaimRegistry) := do
  ctx.onlyRole .claimSubmitter
  requireNonzeroClaimAuthor summary.author
  revertIf (requestHash = 0) .claimRegistryInvalidRequestHash
  -- A request that was served before answers with the claim it made then.
  if self.delegatedClaimRequestIds requestHash ≠ 0 then
    return (self.delegatedClaimRequestIds requestHash, self)
  else
    let (claimId, self) ← self.createClaimRecord ctx parameters moduleRegistry summary
      authorBondAmount 0 resolutionModule
    return (claimId, { self with
      delegatedClaimRequestIds := self.delegatedClaimRequestIds.set requestHash claimId
      logs := self.logs ++ [.delegatedClaimRequestRecorded requestHash claimId summary.author] })

def reviseClaim (parameters : ProtocolParameters) (moduleRegistry : ResolutionModuleRegistry)
    (priorClaimId : ℕ) (summary : ClaimSummary) (authorBondAmount : ℕ)
    (resolutionModule : Address) : Tx Revert (ℕ × ClaimRegistry) := do
  let priorClaim ← self.requireExistingClaim priorClaimId
  requireClaimAuthor ctx summary.author
  revertIf (priorClaim.summary.author ≠ ctx.sender)
    (.claimRegistryUnauthorizedRevision priorClaimId ctx.sender)
  revertIf (isTerminalStatus priorClaim.status) (.claimRegistryTerminalClaim priorClaimId)
  let (newClaimId, self) ← self.createClaimRecord ctx parameters moduleRegistry summary
    authorBondAmount priorClaimId resolutionModule
  return (newClaimId, { self with
    logs := self.logs ++ [.claimRevised priorClaimId newClaimId ctx.sender] })

/-! ### Moving the status -/

def configureProtocolDependencies (bondEscrow replicationRegistry : Address) :
    Tx Revert ClaimRegistry := do
  ctx.onlyRole .defaultAdmin
  revertIf (self.bondEscrow ≠ 0 ∨ self.replicationRegistry ≠ 0)
    .claimRegistryProtocolDependenciesAlreadyConfigured
  revertIf (bondEscrow = 0) (.claimRegistryInvalidProtocolDependency bondEscrow)
  revertIf (replicationRegistry = 0) (.claimRegistryInvalidProtocolDependency replicationRegistry)
  return { self with
    bondEscrow, replicationRegistry
    logs := self.logs ++
      [.claimProtocolDependenciesConfigured bondEscrow replicationRegistry ctx.sender] }

/-- The check `setClaimStatus` makes before a claim is published. -/
def requireAuthorBond (bondEscrow : IBondEscrow) (claimId : ℕ) : Tx Revert Unit := do
  self.requireProtocolDependencies
  let satisfied ← bondEscrow.isAuthorBondSatisfied claimId
  revertIf (¬satisfied)
    (.claimRegistryAuthorBondUnsatisfied claimId (self.claims claimId).requiredAuthorBond)

def setClaimStatus (bondEscrow : IBondEscrow) (claimId : ℕ) (newStatus : ClaimStatus) :
    Tx Revert ClaimRegistry := do
  ctx.onlyRole .resolver
  let claimRecord := self.claims claimId
  revertIf (claimRecord.claimId = 0) (.claimRegistryUnknownClaim claimId)
  revertIf (isResolutionDerivedStatus newStatus)
    (.claimRegistryResolutionDecisionRequired claimId newStatus)
  revertIf (¬isAllowedTransition claimRecord.status newStatus)
    (.claimRegistryInvalidStatusTransition claimRecord.status newStatus)
  -- The bond is asked for at publication only, and may be refunded or slashed later.
  if newStatus = .published then self.requireAuthorBond bondEscrow claimId else pure ()
  return { self with
    claims := self.claims.set claimId { claimRecord with status := newStatus }
    logs := self.logs ++
      [.claimStatusUpdated claimId claimRecord.status newStatus ctx.sender] }

/-- The decision that copies a resolved replication. -/
def decisionOf (decisionId : ℕ) (claimRecord : ClaimRecord) (replication : ReplicationRecord)
    (claimId replicationId : ℕ) (decisionStatus : ClaimStatus) : ResolutionDecision :=
  { decisionId, claimId, replicationId
    resolutionModule := claimRecord.resolutionModule
    status := replication.resolutionStatus
    claimStatus := decisionStatus
    confidenceBps := replication.confidenceBps
    resolutionHash := replication.resolutionHash
    evidenceHash := replication.resolutionEvidenceHash
    resolverType := replication.resolverType
    createdAt := ctx.timestamp
    actor := ctx.sender }

/-- Recording a decision, whether or not it takes effect. -/
def recordDecision (decision : ResolutionDecision) (nextResolutionDecisionId : ℕ) :
    ClaimRegistry :=
  { self with
    nextResolutionDecisionId
    decisions := self.decisions.set decision.decisionId decision
    claimDecisionIds := self.claimDecisionIds.set decision.claimId
      (self.claimDecisionIds decision.claimId ++ [decision.decisionId])
    latestClaimDecisionId := self.latestClaimDecisionId.set decision.claimId decision.decisionId
    replicationDecisionId :=
      self.replicationDecisionId.set decision.replicationId decision.decisionId }

/-- `ResolutionDecisionRecorded` of a decision. -/
def recordedEvent (decision : ResolutionDecision) : Event :=
  .resolutionDecisionRecorded decision.decisionId decision.claimId decision.replicationId
    decision.resolutionModule decision.status decision.claimStatus decision.confidenceBps
    decision.resolutionHash decision.evidenceHash decision.resolverType decision.actor

/-- The last part of `finalizeClaimResolution`: a recorded decision advances the
claim, or confirms a status entered by hand, or is not effective. -/
def applyDecision (decision : ResolutionDecision) : ClaimRegistry :=
  let claimRecord := self.claims decision.claimId
  let effectiveEvent : Event := .effectiveResolutionDecisionUpdated decision.claimId
    decision.decisionId decision.claimStatus decision.actor
  if decision.claimStatus ≠ claimRecord.status ∧
      isAllowedTransition claimRecord.status decision.claimStatus then
    { self with
      claims := self.claims.set decision.claimId
        { claimRecord with status := decision.claimStatus }
      effectiveClaimDecisionId :=
        self.effectiveClaimDecisionId.set decision.claimId decision.decisionId
      logs := self.logs ++
        [.claimStatusUpdated decision.claimId claimRecord.status decision.claimStatus
          decision.actor, recordedEvent decision, effectiveEvent] }
  -- The claim is there already and no decision put it there: this one becomes effective.
  else if decision.claimStatus = claimRecord.status ∧
      self.effectiveClaimDecisionId decision.claimId = 0 then
    { self with
      effectiveClaimDecisionId :=
        self.effectiveClaimDecisionId.set decision.claimId decision.decisionId
      logs := self.logs ++ [recordedEvent decision, effectiveEvent] }
  -- A weaker result is recorded, and never looked at again.
  else
    { self with logs := self.logs ++ [recordedEvent decision] }

def finalizeClaimResolution (replicationRegistry : ReplicationRegistry)
    (claimId replicationId : ℕ) : Tx Revert (ℕ × ClaimRegistry) := do
  ctx.onlyRole .resolver
  self.requireProtocolDependencies
  let claimRecord := self.claims claimId
  revertIf (claimRecord.claimId = 0) (.claimRegistryUnknownClaim claimId)
  revertIf (¬replicationRegistry.replicationExists replicationId)
    (.claimRegistryUnknownReplication replicationId)
  let replication ← replicationRegistry.getReplication replicationId
  revertIf (replication.claimId ≠ claimId)
    (.claimRegistryReplicationClaimMismatch claimId replicationId replication.claimId)
  revertIf (replication.resolvedAt = 0) (.claimRegistryUnresolvedReplication replicationId)
  let existingDecisionId := self.replicationDecisionId replicationId
  revertIf (existingDecisionId ≠ 0)
    (.claimRegistryReplicationDecisionExists replicationId existingDecisionId)
  let decisionStatus ← getClaimStatusForResolution replication.resolutionStatus
  let decisionId := self.nextResolutionDecisionId
  let nextResolutionDecisionId ← checkedAdd decisionId 1
  let decision :=
    decisionOf ctx decisionId claimRecord replication claimId replicationId decisionStatus
  return (decisionId, (self.recordDecision decision nextResolutionDecisionId).applyDecision
    decision)

/-- A call from outside. -/
def exec (parameters : ProtocolParameters) (moduleRegistry : ResolutionModuleRegistry)
    (replicationRegistry : ReplicationRegistry) (bondEscrow : IBondEscrow) (call : Call) :
    Tx Revert ClaimRegistry := do
  ctx.nonPayable
  match call with
  | .configureProtocolDependencies bondEscrow replicationRegistry =>
    self.configureProtocolDependencies ctx bondEscrow replicationRegistry
  | .createClaim summary authorBondAmount resolutionModule =>
    Prod.snd <$> self.createClaim ctx parameters moduleRegistry summary authorBondAmount
      resolutionModule
  | .createClaimOnBehalf summary authorBondAmount resolutionModule =>
    Prod.snd <$> self.createClaimOnBehalf ctx parameters moduleRegistry summary authorBondAmount
      resolutionModule
  | .createClaimOnBehalfWithRequestHash summary authorBondAmount resolutionModule requestHash =>
    Prod.snd <$> self.createClaimOnBehalfWithRequestHash ctx parameters moduleRegistry summary
      authorBondAmount resolutionModule requestHash
  | .reviseClaim priorClaimId summary authorBondAmount resolutionModule =>
    Prod.snd <$> self.reviseClaim ctx parameters moduleRegistry priorClaimId summary
      authorBondAmount resolutionModule
  | .setClaimStatus claimId newStatus => self.setClaimStatus ctx bondEscrow claimId newStatus
  | .finalizeClaimResolution claimId replicationId =>
    Prod.snd <$> self.finalizeClaimResolution ctx replicationRegistry claimId replicationId

end ClaimRegistry

end ScientificProtocol
