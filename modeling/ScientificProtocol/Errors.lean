import ScientificProtocol.ProtocolTypes

/-!
# The errors the protocol contracts declare

One constructor for each `error` of a contract that a modelled function raises,
under the source's name and with the source's arguments. They are one type
because a revert of a called contract is passed on unchanged by its caller.
-/

namespace ScientificProtocol

open Evm

/-- The custom errors of the protocol. -/
inductive Revert where
  -- `AccessManaged`, `DepositPausable`, and the reentrancy guard
  | accessManagedMissingRole (role : Role) (account : Address)
  | depositsPausedError
  | reentrancyGuardReentrantCall
  -- the resolution modules and their registry
  | resolutionModuleInvalidStatus (status : ResolutionStatus)
  | resolutionModuleInvalidResolverType (resolverType : ResolverType)
  | resolutionModuleInvalidConfidence (confidenceBps : UInt16)
  | resolutionModuleMissingEvidence
  | resolutionModuleCallFailed (module : Address)
  | resolutionModuleRegistryUnregisteredModule (module : Address)
  | resolutionModuleRegistryZeroAddress
  -- `ClaimRegistry`
  | claimRegistryInvalidAuthor (expected received : Address)
  | claimRegistryZeroAuthor
  | claimRegistryAuthorBondBelowMinimum (authorBondAmount minimumBond : ℕ)
  | claimRegistryUnknownClaim (claimId : ℕ)
  | claimRegistryUnauthorizedRevision (claimId : ℕ) (actor : Address)
  | claimRegistryInvalidStatusTransition (source target : ClaimStatus)
  | claimRegistryTerminalClaim (claimId : ℕ)
  | claimRegistryMissingResolutionModule (domainId : UInt64)
  | claimRegistryUnregisteredResolutionModule (module : Address)
  | claimRegistryProtocolDependenciesAlreadyConfigured
  | claimRegistryProtocolDependenciesNotConfigured
  | claimRegistryInvalidProtocolDependency (dependency : Address)
  | claimRegistryAuthorBondUnsatisfied (claimId requiredAuthorBond : ℕ)
  | claimRegistryResolutionDecisionRequired (claimId : ℕ) (status : ClaimStatus)
  | claimRegistryUnknownReplication (replicationId : ℕ)
  | claimRegistryReplicationClaimMismatch (claimId replicationId actualClaimId : ℕ)
  | claimRegistryUnresolvedReplication (replicationId : ℕ)
  | claimRegistryReplicationDecisionExists (replicationId decisionId : ℕ)
  | claimRegistryUnknownResolutionDecision (decisionId : ℕ)
  | claimRegistryInvalidResolutionStatus (status : ResolutionStatus)
  | claimRegistryInvalidRequestHash
  -- `ReplicationRegistry`
  | replicationRegistryUnknownClaim (claimId : ℕ)
  | replicationRegistryUnknownReplication (replicationId : ℕ)
  | replicationRegistryUnauthorizedAgent (agentId : ℕ) (actor : Address)
  | replicationRegistryAlreadyResolved (replicationId : ℕ)
  | replicationRegistryModuleRejected (module : Address) (replicationId : ℕ)
  -- `AgentRegistry`
  | agentRegistryUnknownAgent (agentId : ℕ)
  | agentRegistryUnauthorizedAgent (agentId : ℕ) (actor : Address)
  | agentRegistryInvalidAmount (amount : ℕ)
  | agentRegistrySpendLimitExceeded (agentId requested limit : ℕ)
  | agentRegistryInsufficientBudget (agentId requested available : ℕ)
  | agentRegistryTransferFailed (recipient : Address) (amount : ℕ)
  | agentRegistryInvalidRecipient (recipient : Address)
  | agentRegistryInactiveAgent (agentId : ℕ)
  | agentRegistrySpendLimitBelowCommitted (agentId requestedLimit committed : ℕ)
  -- `BondEscrow`
  | bondEscrowUnknownClaim (claimId : ℕ)
  | bondEscrowUnauthorizedAuthor (claimId : ℕ) (actor : Address)
  | bondEscrowInvalidAmount (amount : ℕ)
  | bondEscrowInsufficientBountyBalance (claimId requested available : ℕ)
  | bondEscrowReservationExists (claimId replicationId : ℕ)
  | bondEscrowReservationMissing (claimId replicationId : ℕ)
  | bondEscrowAlreadyReleased (claimId replicationId : ℕ)
  | bondEscrowAlreadyCancelled (claimId replicationId : ℕ)
  | bondEscrowUnknownReplication (replicationId : ℕ)
  | bondEscrowReplicationClaimMismatch (claimId replicationId actualClaimId : ℕ)
  | bondEscrowUnresolvedReplication (replicationId : ℕ)
  | bondEscrowTransferFailed (recipient : Address) (amount : ℕ)
  | bondEscrowInvalidRecipient (recipient : Address)
  | bondEscrowInsufficientAuthorBond (claimId requested available : ℕ)
  | bondEscrowInsufficientAuthorRefundCredit (author : Address) (requested available : ℕ)
  -- `EpistemicMarket`
  | epistemicMarketUnknownClaim (claimId : ℕ)
  | epistemicMarketUnknownForecast (forecastId : ℕ)
  | epistemicMarketUnknownChallenge (challengeId : ℕ)
  | epistemicMarketUnknownReplication (claimId replicationId : ℕ)
  | epistemicMarketUnauthorizedAgent (agentId : ℕ) (actor : Address)
  | epistemicMarketInvalidAmount (amount : ℕ)
  | epistemicMarketInvalidRevealDeadline (revealDeadline : UInt64)
  | epistemicMarketAlreadyRevealed (forecastId : ℕ)
  | epistemicMarketAlreadySettled (forecastId : ℕ)
  | epistemicMarketRevealWindowClosed (forecastId : ℕ)
  | epistemicMarketRevealWindowOpen (forecastId : ℕ)
  | epistemicMarketForecastNotReclaimable (forecastId : ℕ)
  | epistemicMarketInvalidCommitment (forecastId : ℕ)
  | epistemicMarketInvalidChallengeStatus (status : ChallengeStatus)
  | epistemicMarketChallengeWithdrawLocked (challengeId unlockAt : ℕ)
  | epistemicMarketTransferFailed (recipient : Address) (amount : ℕ)
  | epistemicMarketInvalidRecipient (recipient : Address)
  | epistemicMarketInsufficientPayoutCredit (beneficiary : Address) (requested available : ℕ)
  | epistemicMarketInvalidConfidence (confidenceBps : UInt16)
  | epistemicMarketUnknownResolutionDecision (decisionId : ℕ)
  | epistemicMarketClaimNotForecastable (claimId : ℕ) (status : ClaimStatus)
  | epistemicMarketDecisionNotNewer (forecastId committedDecisionId settlementDecisionId : ℕ)
  | epistemicMarketResolutionDecisionClaimMismatch
      (decisionId expectedClaimId actualClaimId : ℕ)
  | epistemicMarketStaleResolutionDecision (claimId requestedDecisionId latestDecisionId : ℕ)
  -- `ClaimRewardVault`
  | claimRewardVaultUnknownClaim (claimId : ℕ)
  | claimRewardVaultUnknownAgent (agentId : ℕ)
  | claimRewardVaultInactiveAgent (agentId : ℕ)
  | claimRewardVaultInvalidAmount (amount : ℕ)
  | claimRewardVaultInvalidRecipient (recipient : Address)
  | claimRewardVaultInvalidBudgetTopUpBps (budgetTopUpBps : UInt16)
  | claimRewardVaultInvalidWorkKind (workKind : UInt8)
  | claimRewardVaultDuplicateSettlement (settlementId : Bytes32)
  | claimRewardVaultInsufficientPoolBalance (claimId : ℕ) (workKind : UInt8)
      (requested available : ℕ)
  | claimRewardVaultTransferFailed (recipient : Address) (amount : ℕ)
  | claimRewardVaultCallValueFailed (amount : ℕ)
  -- `AppealsRegistry`
  | appealsRegistryUnknownClaim (claimId : ℕ)
  | appealsRegistryUnknownReplication (claimId replicationId : ℕ)
  | appealsRegistryUnknownChallenge (claimId challengeId : ℕ)
  | appealsRegistryUnknownAppeal (appealId : ℕ)
  | appealsRegistryInvalidAmount (amount : ℕ)
  | appealsRegistryInvalidStatus (status : AppealStatus)
  | appealsRegistryAlreadyAdjudicated (appealId : ℕ)
  | appealsRegistryInvalidRecipient (recipient : Address)
  | appealsRegistryInsufficientRefundBalance (account : Address) (requested available : ℕ)
  | appealsRegistryTransferFailed (recipient : Address) (amount : ℕ)
  -- `ArtifactRegistry` and `ReputationCheckpointRegistry`
  | artifactRegistryUnknownClaim (claimId : ℕ)
  | artifactRegistryUnknownArtifact (artifactId : ℕ)
  | reputationCheckpointRegistryInvalidSubject (subjectType : CheckpointSubjectType)
  | reputationCheckpointRegistryUnknownClaim (claimId : ℕ)
  | reputationCheckpointRegistryUnknownAgent (agentId : ℕ)
  | reputationCheckpointRegistryUnknownModule (module : Address)
  | reputationCheckpointRegistryUnknownCheckpoint (checkpointId : ℕ)

end ScientificProtocol
