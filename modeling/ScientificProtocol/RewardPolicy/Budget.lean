import ScientificProtocol.RewardPolicy.Group
import ScientificProtocol.RewardPolicy.Fence

/-!
# A run stays within the pool

The targets of a group come to no more than the part of the pool that is distributed, and that is no
more than the pool. What a run charges is at most the targets, once for each item. So the accruals
of one run can be asked of the vault in any order: whatever becomes of the others, the pool has
enough for the next one (`ScientificProtocol.RewardPolicy.targets_budgetSafe`).
-/

namespace ScientificProtocol

open Evm

/-- **Only an accrual that exceeds its pool is rejected for that.** -/
theorem ClaimRewardVault.avoids_insufficient {ctx : Ctx} {claimRegistry : ClaimRegistry}
    {agentRegistry : AgentRegistry} {self : ClaimRewardVault} {accrual : Accrual}
    (h : accrual.amount ≤ self.claimRewardPools accrual.claimId accrual.workKind)
    (claimId : ℕ) (workKind : UInt8) (requested available : ℕ) :
    Avoids (.claimRewardVaultInsufficientPoolBalance claimId workKind requested available)
      (self.accrueWorkReward ctx claimRegistry agentRegistry accrual) := by
  have hchecks : Avoids
      (.claimRewardVaultInsufficientPoolBalance claimId workKind requested available)
      (self.requireAccrual claimRegistry agentRegistry accrual) := by
    simp [requireAccrual, avoids_bind, requireValidWorkKind, Nat.not_lt.mpr h]
  have hcharge : Avoids
      (.claimRewardVaultInsufficientPoolBalance claimId workKind requested available)
      (self.chargePool accrual) := by
    rw [chargePool, avoids_bind]
    refine ⟨avoids_checkedSub, fun _ _ => ?_⟩
    split
    · exact avoids_bind.mpr ⟨avoids_checkedAdd, fun _ _ => avoids_ok _⟩
    · exact avoids_ok _
  have htop : ∀ s : ClaimRewardVault, Avoids
      (.claimRewardVaultInsufficientPoolBalance claimId workKind requested available)
      (s.topUpBudget ctx agentRegistry accrual) := by
    intro s
    simp [topUpBudget, avoids_bind, AgentRegistry.fundAgentBudget, nonReentrant,
      whenDepositsNotPaused, Ctx.avoids_receiveValue]
  simp only [accrueWorkReward, avoids_bind, Ctx.onlyRole, nonReentrant, avoids_revertIf]
  refine ⟨by simp, fun _ _ => ⟨by simp, fun _ _ => ⟨hchecks, fun _ _ => ⟨hcharge, fun s _ => ?_⟩⟩⟩⟩
  split
  · simp [avoids_bind, htop]
  · simp

namespace RewardPolicy

/-! ### Accruals in a row -/

section

variable (D : Deployment) (policyVersion : String)

/-- Asking the chain for some accruals, one after the other. One that is rejected changes nothing,
and the next one is asked for all the same. -/
def payAll : World → List PolicyTx → World
  | w, [] => w
  | w, tx :: txs => match World.exec D (tx.message D policyVersion) w with
    | .ok (.done w') => payAll w' txs
    | _ => payAll w txs

/-- **The pool is never too small**: no accrual of these is rejected because of it. -/
def NeverShort (w : World) (txs : List PolicyTx) : Prop :=
  ∀ before tx after, txs = before ++ tx :: after → ∀ claimId workKind requested available,
    Avoids (.claimRewardVaultInsufficientPoolBalance claimId workKind requested available)
      (World.exec D (tx.message D policyVersion) (payAll D policyVersion w before))

variable {D policyVersion}

theorem avoids_insufficient_of_exec {w : World} {tx : PolicyTx}
    (h : tx.charge.deltaWei ≤ w.claimRewardVault.claimRewardPools
      (tx.accrual D policyVersion).claimId (tx.accrual D policyVersion).workKind)
    (claimId : ℕ) (workKind : UInt8) (requested available : ℕ) :
    Avoids (.claimRewardVaultInsufficientPoolBalance claimId workKind requested available)
      (World.exec D (tx.message D policyVersion) w) := by
  rw [World.exec, PolicyTx.message]
  refine Avoids.map ?_ _
  rw [ClaimRewardVault.exec, avoids_bind]
  refine ⟨Ctx.avoids_receiveValue _, fun balance _ => Avoids.map ?_ _⟩
  have hpool : (tx.accrual D policyVersion).amount ≤
      ({ w.claimRewardVault with balance } : ClaimRewardVault).claimRewardPools
        (tx.accrual D policyVersion).claimId (tx.accrual D policyVersion).workKind := h
  exact ClaimRewardVault.avoids_insufficient hpool claimId workKind requested available

/-- **A pool loses at most what is asked of it.** -/
theorem pool_le_payAll (D : Deployment) (policyVersion : String) (claimId : ℕ) (workKind : UInt8)
    (w : World) (txs : List PolicyTx) :
    w.claimRewardVault.claimRewardPools claimId workKind ≤
      (payAll D policyVersion w txs).claimRewardVault.claimRewardPools claimId workKind +
        (txs.map fun tx => tx.charge.deltaWei).sum := by
  induction txs generalizing w with
  | nil => exact Nat.le_refl _
  | cons tx txs ih =>
    rw [List.map_cons, List.sum_cons]
    unfold payAll
    split
    next w' hexec =>
      have heffect : AccrualEffect (tx.accrual D policyVersion) w w' :=
        (World.step_of_exec hexec).accrualEffect vaultCall_message
      have hpool : w.claimRewardVault.claimRewardPools claimId workKind ≤
          w'.claimRewardVault.claimRewardPools claimId workKind + tx.charge.deltaWei := by
        rw [heffect.pools, amount_accrual]
        split <;> omega
      have hrest := ih w'
      omega
    next =>
      have hrest := ih w
      omega

/-- **Accruals that come to no more than the pool** are never too large for it. -/
theorem neverShort_of_sum_le {w : World} {claimId : ℕ} {workKind : UInt8} {txs : List PolicyTx}
    (htarget : ∀ tx ∈ txs, (tx.accrual D policyVersion).claimId = claimId ∧
      (tx.accrual D policyVersion).workKind = workKind)
    (hsum : (txs.map fun tx => tx.charge.deltaWei).sum ≤
      w.claimRewardVault.claimRewardPools claimId workKind) :
    NeverShort D policyVersion w txs := by
  rintro before tx after rfl claimId' workKind' requested available
  have hpool := pool_le_payAll D policyVersion claimId workKind w before
  have htx := htarget tx (by simp)
  refine avoids_insufficient_of_exec ?_ _ _ _ _
  rw [List.map_append, List.map_cons, List.sum_append, List.sum_cons] at hsum
  rw [htx.1, htx.2]
  omega

end

/-! ### Targets within the budget -/

/-- **Targets that keep within a budget, and in order**: the distributable part of the pool is
shared by those who meet the quality floor, less than one wei each is left of it, and a higher
quality never gets less. -/
structure BudgetSafe (candidates : List PolicyCandidate) (poolBalanceWei : ℕ)
    (workKind : ClaimRewardWorkKind) (targets : RewardTargets) : Prop where
  nonneg : ∀ allocation ∈ targets.allocations, 0 ≤ allocation.2
  sum_le : (targets.allocations.map (·.2)).sum ≤ targets.distributablePoolWei
  distributable_le : targets.distributablePoolWei ≤ poolBalanceWei
  remainder_lt : (∃ candidate ∈ candidates,
      (policyConfig workKind).minimumQualityBps ≤ candidate.qualityBps) →
    targets.distributablePoolWei - (targets.allocations.map (·.2)).sum <
      candidates.countP fun candidate =>
        (policyConfig workKind).minimumQualityBps ≤ candidate.qualityBps
  by_quality : ∃ target : PolicyCandidate → ℤ,
    targets.allocations = candidates.map (fun candidate => (candidate.itemId, target candidate)) ∧
      (∀ candidate, candidate.qualityBps < (policyConfig workKind).minimumQualityBps →
        target candidate = 0) ∧
      ∀ candidate candidate', candidate.qualityBps ≤ candidate'.qualityBps →
        target candidate ≤ target candidate'

section

variable {candidates : List PolicyCandidate} {poolBalanceWei : ℕ} {workKind : ClaimRewardWorkKind}
  {attentionPressureBps : Option ℤ}

theorem budgetSafe_deriveRewardTargets : BudgetSafe candidates poolBalanceWei workKind
    (deriveRewardTargets attentionPressureBps candidates poolBalanceWei workKind) := by
  rw [deriveRewardTargets_eq]
  generalize (attentionPressureBps.getD 10000).toNat = pressure
  have hsum : (candidates.map fun candidate =>
      (targetTotal pressure candidates poolBalanceWei workKind candidate : ℤ)).sum =
        ((candidates.map (targetTotal pressure candidates poolBalanceWei workKind)).sum : ℕ) :=
    sum_map_natCast (fun _ => rfl) candidates
  have hmap : (candidates.map fun candidate => (candidate.itemId,
      (targetTotal pressure candidates poolBalanceWei workKind candidate : ℤ))).map (·.2) =
        candidates.map fun candidate =>
          (targetTotal pressure candidates poolBalanceWei workKind candidate : ℤ) := by
    rw [List.map_map]
    rfl
  have hle := sum_targetTotal_le pressure candidates poolBalanceWei workKind
  refine ⟨fun allocation hmem => ?_, ?_, ?_, fun hfloor => ?_, _, rfl, fun candidate hlt => ?_,
    fun candidate candidate' hquality => ?_⟩
  · obtain ⟨candidate, -, rfl⟩ := List.mem_map.mp hmem
    exact Int.natCast_nonneg _
  · dsimp only
    rw [hmap, hsum]
    exact Int.ofNat_le.mpr hle
  · exact Int.ofNat_le.mpr distributablePool_le
  · have hlt := distributablePool_sub_lt pressure poolBalanceWei hfloor
    dsimp only
    rw [hmap, hsum]
    omega
  · exact congrArg Int.ofNat (targetTotal_of_lt hlt)
  · exact Int.ofNat_le.mpr (targetTotal_le_of_quality hquality)

/-- **The targets of a group are safe for its budget, and in the order of the qualities**; and the
accruals of a run, asked for in any order, never find the pool too small. -/
theorem targets_budgetSafe (workKind : ClaimRewardWorkKind) (s : GroupState)
    (attentionPressureBps : Option ℤ) (candidates : List PolicyCandidate) :
    BudgetSafe candidates s.poolBalanceWei workKind
        (deriveRewardTargets attentionPressureBps candidates s.poolBalanceWei workKind) ∧
      ∀ (D : Deployment) (policyVersion : String) (maxSettlements claimId : ℕ) (w : World)
        (txs : List PolicyTx),
        w.claimRewardVault.claimRewardPools claimId workKind.code = s.poolBalanceWei →
        (txs.map (·.charge)).Perm (groupRun (attentionPressureBps.getD 10000).toNat candidates
          workKind maxSettlements s).2 →
        (∀ tx ∈ txs, (tx.accrual D policyVersion).claimId = claimId ∧
          (tx.accrual D policyVersion).workKind = workKind.code) →
        NeverShort D policyVersion w txs := by
  refine ⟨budgetSafe_deriveRewardTargets, ?_⟩
  intro D policyVersion maxSettlements claimId w txs hpool hperm htarget
  refine neverShort_of_sum_le htarget ?_
  have hsettled : GroupSettled (attentionPressureBps.getD 10000).toNat candidates workKind
      maxSettlements s (groupRun (attentionPressureBps.getD 10000).toNat candidates workKind
        maxSettlements s) := groupSettled_groupRun
  have hsum : (txs.map fun tx => tx.charge.deltaWei).sum = ((groupRun
      (attentionPressureBps.getD 10000).toNat candidates workKind maxSettlements s).2.map
        Charge.deltaWei).sum := by
    rw [← (hperm.map Charge.deltaWei).sum_eq, List.map_map]
    rfl
  rw [hsum, hpool]
  exact hsettled.sum_deltaWei_le.trans distributablePool_le

end

/-- The pool for the forecasts of claim 1, with nothing recorded. -/
def fundedGroup : GroupState where
  poolBalanceWei :=
    fundedState.chain.world.claimRewardVault.claimRewardPools 1 ClaimRewardWorkKind.forecast.code
  accruedByItem _ := ⟨0, 0⟩

/-- What a run charges for the two forecasts, asked for from the last one on. -/
def backwards : List PolicyTx :=
  (groupRun 10000 twoForecasts .forecast 0 fundedGroup).2.reverse.map fun charge =>
    ⟨charge, forecastTarget, 0x0A, default⟩

theorem targets_budgetSafe_backwards :
    backwards.map (fun tx => (tx.charge.itemId, decide (0 < tx.charge.deltaWei))) =
        [("forecast:2", true), ("forecast:1", true)] ∧
      NeverShort rewardNet "auto-v1" fundedState.chain.world backwards := by
  refine ⟨by decide +kernel, (targets_budgetSafe .forecast fundedGroup (some 10000)
    twoForecasts).2 rewardNet "auto-v1" 0 1 fundedState.chain.world backwards rfl ?_
    (by decide +kernel)⟩
  rw [backwards, List.map_map]
  exact (List.map_id _).symm ▸ List.reverse_perm _

end RewardPolicy

end ScientificProtocol
