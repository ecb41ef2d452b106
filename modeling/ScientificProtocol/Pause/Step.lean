import ScientificProtocol.System.World

/-!
# The deposit switch, contract by contract

Five contracts have a deposit switch, and nine entry points stand behind one
(`ScientificProtocol.Target.isDeposit`). This file compares a call of one contract with
the same call where the switch is off: an entry point that is not a deposit never looks
at its own switch, so the two runs agree on everything else
(`ScientificProtocol.EpistemicMarket.exec_unpaused` and its siblings).

An accrual of the reward vault is not a deposit either, but it calls one in the agent
registry. It agrees with itself whatever the switch of the *vault*
(`ScientificProtocol.ClaimRewardVault.exec_unpaused`), and whatever the switch of the
registry if it tops nothing up (`ScientificProtocol.ClaimRewardVault.exec_unpaused_right`).
-/

namespace ScientificProtocol

open Evm

namespace AgentRegistry

/-- The registry with its switch off. -/
def unpaused (self : AgentRegistry) : AgentRegistry := { self with depositsPaused := false }

/-- The entry points behind the switch. -/
def Call.isDeposit : Call → Bool
  | .registerAgent .. => true
  | .fundAgentBudget _ => true
  | _ => false

variable {ctx : Ctx} {self : AgentRegistry} {call : Call}

/-- **What is not a deposit does not look at the switch.** -/
theorem exec_unpaused (h : call.isDeposit = false) :
    Outcome.map unpaused id <$> self.unpaused.exec ctx call =
      Outcome.map unpaused id <$> self.exec ctx call := by
  unfold exec
  rw [map_bind, map_bind]
  refine bind_congr fun balance => ?_
  cases call with
  | registerAgent | fundAgentBudget => exact absurd h (by simp [Call.isDeposit])
  | authorizeController | setSpendLimit | setAgentActive =>
    simp only [authorizeController, setSpendLimit, setAgentActive, requireOperator,
      requireExistingAgent, map_bind, bind_assoc, pure_eq_ok, ok_bind, map_ok]
    rfl
  | reserveBudget | releaseBudget | setDepositsPaused =>
    simp only [reserveBudget, releaseBudget, setDepositsPaused, requireExistingAgent,
      map_bind, bind_assoc, pure_eq_ok, ok_bind, map_ok]
    rfl
  | consumeBudget | withdrawBudget =>
    simp only [consumeBudget, withdrawBudget, safeTransferValue, requireOperator,
      requireExistingAgent, map_bind, bind_assoc, pure_eq_ok, ok_bind, map_ok]
    rfl

end AgentRegistry

namespace BondEscrow

/-- The escrow with its switch off. -/
def unpaused (self : BondEscrow) : BondEscrow := { self with depositsPaused := false }

/-- The entry points behind the switch. -/
def Call.isDeposit : Call → Bool
  | .depositAuthorBond _ => true
  | .fundReplicationBounty _ => true
  | _ => false

variable {ctx : Ctx} {self : BondEscrow} {claimRegistry : ClaimRegistry}
  {replicationRegistry : ReplicationRegistry} {call : Call}

/-- **What is not a deposit does not look at the switch.** -/
theorem exec_unpaused (h : call.isDeposit = false) :
    Outcome.map unpaused id <$> self.unpaused.exec ctx claimRegistry replicationRegistry call =
      Outcome.map unpaused id <$> self.exec ctx claimRegistry replicationRegistry call := by
  unfold exec
  rw [map_bind, map_bind]
  refine bind_congr fun balance => ?_
  cases call with
  | depositAuthorBond | fundReplicationBounty => exact absurd h (by simp [Call.isDeposit])
  | reserveBountyPayout | refundAuthorBond | setDepositsPaused =>
    simp only [reserveBountyPayout, refundAuthorBond, setDepositsPaused, map_bind, pure_eq_ok,
      map_ok]
    rfl
  | cancelReservedPayout =>
    simp only [cancelReservedPayout, requireLiveReservation, map_bind, bind_assoc, pure_eq_ok,
      ok_bind, map_ok]
    rfl
  | releaseReservedPayout | slashAuthorBond | withdrawAuthorBondRefund =>
    simp only [releaseReservedPayout, slashAuthorBond, withdrawAuthorBondRefund,
      requireLiveReservation, safeTransferValue, map_bind, bind_assoc, pure_eq_ok, ok_bind, map_ok]
    rfl

end BondEscrow

namespace EpistemicMarket

/-- The market with its switch off. -/
def unpaused (self : EpistemicMarket) : EpistemicMarket := { self with depositsPaused := false }

/-- The entry points behind the switch. -/
def Call.isDeposit : Call → Bool
  | .fundRewardPool => true
  | .commitForecast .. => true
  | .openChallenge .. => true
  | _ => false

variable {ctx : Ctx} {self : EpistemicMarket} {claimRegistry : ClaimRegistry}
  {agentRegistry : AgentRegistry} {replicationRegistry : ReplicationRegistry} {call : Call}

/-- **What is not a deposit does not look at the switch.** -/
theorem exec_unpaused (h : call.isDeposit = false) :
    Outcome.map unpaused id <$>
        self.unpaused.exec ctx claimRegistry agentRegistry replicationRegistry call =
      Outcome.map unpaused id <$>
        self.exec ctx claimRegistry agentRegistry replicationRegistry call := by
  unfold exec
  rw [map_bind, map_bind]
  refine bind_congr fun balance => ?_
  cases call with
  | fundRewardPool | commitForecast | openChallenge => exact absurd h (by simp [Call.isDeposit])
  | revealForecast | setDepositsPaused =>
    simp only [revealForecast, setDepositsPaused, map_bind, pure_eq_ok, map_ok]
    rfl
  | forfeitUnrevealedForecast | reclaimForecast | withdrawChallenge =>
    simp only [forfeitUnrevealedForecast, reclaimForecast, withdrawChallenge, slashIntoPool,
      creditPayout, map_bind, bind_assoc, pure_eq_ok, ok_bind, map_ok]
    rfl
  | settleForecast =>
    simp only [settleForecast, payWithBonus, slashIntoPool, creditPayout, map_bind, bind_assoc,
      pure_eq_ok, ok_bind, map_ok, apply_ite (Functor.map _)]
    rfl
  | resolveChallenge challengeId status resolutionHash =>
    -- The outcome decides what becomes of the bond.
    cases status <;>
      simp only [resolveChallenge, settleBond, payWithBonus, slashIntoPool, creditPayout,
        map_bind, bind_assoc, pure_eq_ok, ok_bind, map_ok] <;>
      rfl
  | withdrawPayout =>
    simp only [withdrawPayout, safeTransferValue, map_bind, pure_eq_ok, map_ok]
    rfl

end EpistemicMarket

namespace AppealsRegistry

/-- The registry with its switch off. -/
def unpaused (self : AppealsRegistry) : AppealsRegistry := { self with depositsPaused := false }

/-- The entry point behind the switch. -/
def Call.isDeposit : Call → Bool
  | .fileAppeal .. => true
  | _ => false

variable {ctx : Ctx} {self : AppealsRegistry} {claimRegistry : ClaimRegistry}
  {replicationRegistry : ReplicationRegistry} {epistemicMarket : EpistemicMarket} {call : Call}

/-- **What is not a deposit does not look at the switch.** -/
theorem exec_unpaused (h : call.isDeposit = false) :
    Outcome.map unpaused id <$>
        self.unpaused.exec ctx claimRegistry replicationRegistry epistemicMarket call =
      Outcome.map unpaused id <$>
        self.exec ctx claimRegistry replicationRegistry epistemicMarket call := by
  unfold exec
  rw [map_bind, map_bind]
  refine bind_congr fun balance => ?_
  cases call with
  | fileAppeal => exact absurd h (by simp [Call.isDeposit])
  | adjudicateAppeal =>
    simp only [adjudicateAppeal, safeTransferValue, map_bind, pure_eq_ok, map_ok,
      apply_ite (Functor.map _)]
    rfl
  | withdrawRefundedBond | setDepositsPaused =>
    simp only [withdrawRefundedBond, safeTransferValue, setDepositsPaused, map_bind, pure_eq_ok,
      map_ok]
    rfl

end AppealsRegistry

namespace ClaimRewardVault

/-- The vault with its switch off. -/
def unpaused (self : ClaimRewardVault) : ClaimRewardVault := { self with depositsPaused := false }

/-- The entry point behind the switch. -/
def Call.isDeposit : Call → Bool
  | .fundClaimRewards .. => true
  | _ => false

/-- The call sends value to an agent budget, if it goes through. -/
def Call.topsUp : Call → Prop
  | .accrueWorkReward accrual => accrual.agentBudgetAmount ≠ 0
  | _ => False

variable {ctx : Ctx} {self : ClaimRewardVault} {claimRegistry : ClaimRegistry}
  {agentRegistry : AgentRegistry} {call : Call}

/-- **What is not a deposit does not look at the switch** of the vault. -/
theorem exec_unpaused (h : call.isDeposit = false) :
    Outcome.map (Prod.map unpaused AgentRegistry.unpaused) id <$>
        self.unpaused.exec ctx claimRegistry agentRegistry call =
      Outcome.map (Prod.map unpaused AgentRegistry.unpaused) id <$>
        self.exec ctx claimRegistry agentRegistry call := by
  unfold exec
  rw [map_bind, map_bind]
  refine bind_congr fun balance => ?_
  cases call with
  | fundClaimRewards => exact absurd h (by simp [Call.isDeposit])
  | accrueWorkReward accrual =>
    -- With a top-up or without, and with a credit or without, only the registry looks at a switch.
    by_cases hbudget : accrual.agentBudgetAmount = 0 <;>
      by_cases hrecipient : accrual.recipientAmount = 0 <;>
      simp only [accrueWorkReward, requireAccrual, chargePool, topUpBudget, hbudget, hrecipient,
        ne_eq, not_true_eq_false, not_false_eq_true, if_true, if_false, map_bind, bind_assoc,
        pure_eq_ok, ok_bind, map_ok] <;>
      rfl
  | withdrawAccruedRewards | setDepositsPaused =>
    simp only [withdrawAccruedRewards, safeTransferValue, setDepositsPaused, map_bind, pure_eq_ok,
      map_ok]
    rfl

/-- **What tops nothing up does not look at the switch of the agent registry.** -/
theorem exec_unpaused_right (h : ¬call.topsUp) :
    Outcome.map (Prod.map unpaused AgentRegistry.unpaused) id <$>
        self.exec ctx claimRegistry agentRegistry.unpaused call =
      Outcome.map (Prod.map unpaused AgentRegistry.unpaused) id <$>
        self.exec ctx claimRegistry agentRegistry call := by
  unfold exec
  rw [map_bind, map_bind]
  refine bind_congr fun balance => ?_
  cases call with
  | accrueWorkReward accrual =>
    have hbudget : accrual.agentBudgetAmount = 0 := not_not.mp h
    simp only [accrueWorkReward, requireAccrual, hbudget, ne_eq, not_true_eq_false, if_false,
      map_bind, bind_assoc, pure_eq_ok, ok_bind, map_ok]
    rfl
  | fundClaimRewards | withdrawAccruedRewards | setDepositsPaused =>
    simp only [fundClaimRewards, withdrawAccruedRewards, safeTransferValue, setDepositsPaused,
      map_bind, pure_eq_ok, map_ok]
    rfl

end ClaimRewardVault

end ScientificProtocol
