import ScientificProtocol.System.World

/-!
# What a call of the market does

`ScientificProtocol.EpistemicMarket.Step` lists, entry point by entry point, the
guards a successful call passed and the market it leaves, and
`ScientificProtocol.EpistemicMarket.step_of_exec` is the only place where the
functions of the market are taken apart. The log is left arbitrary: nothing the
market does depends on it.

The five ways a stake or a bond leaves the market share one shape. The pool ends
at some level, the owner is credited some payout, and the two add up to what was
in the pool and what was at stake (`ScientificProtocol.EpistemicMarket.closed`).
-/

namespace ScientificProtocol

open Evm

namespace EpistemicMarket

/-! ### Closing a stake -/

/-- The market once a stake of `owner` is closed: the pool stands at `pool` and
`owner` has been credited `payout`. -/
def closed (self : EpistemicMarket) (pool payout : ℕ) (owner : Address) : EpistemicMarket :=
  { self with
    rewardPoolBalance := pool
    withdrawablePayouts :=
      self.withdrawablePayouts.set owner (self.withdrawablePayouts owner + payout)
    totalWithdrawablePayouts := self.totalWithdrawablePayouts + payout }

theorem bonusOf_le_pool (self : EpistemicMarket) (stake : ℕ) :
    self.bonusOf stake ≤ self.rewardPoolBalance := by
  unfold bonusOf
  split <;> omega

theorem bonusOf_le_stake (self : EpistemicMarket) (stake : ℕ) : self.bonusOf stake ≤ stake := by
  unfold bonusOf
  split <;> omega

section

variable {self s : EpistemicMarket} {owner : Address} {stake payout : ℕ}

/-- A refund leaves the pool alone. -/
theorem eq_closed_of_creditPayout (h : self.creditPayout owner stake = .ok s) :
    s = self.closed self.rewardPoolBalance stake owner := by
  simp only [creditPayout, bind_eq_ok, checkedAdd_eq_ok, pure_eq_ok, Except.ok.injEq] at h
  obtain ⟨credit, ⟨-, rfl⟩, total, ⟨-, rfl⟩, rfl⟩ := h
  rfl

/-- A reward takes its bonus out of the pool. -/
theorem eq_closed_of_payWithBonus (h : self.payWithBonus owner stake = .ok (payout, s)) :
    payout = stake + self.bonusOf stake ∧
      s = self.closed (self.rewardPoolBalance - self.bonusOf stake) payout owner := by
  simp only [payWithBonus, bind_eq_ok, checkedAdd_eq_ok, checkedSub_eq_ok, pure_eq_ok,
    Except.ok.injEq, Prod.mk.injEq] at h
  obtain ⟨pool, ⟨-, rfl⟩, amount, ⟨-, rfl⟩, s', hcredit, rfl, rfl⟩ := h
  exact ⟨rfl, eq_closed_of_creditPayout hcredit⟩

/-- A slash credits nobody. -/
theorem eq_closed_of_slashIntoPool (owner : Address) (h : self.slashIntoPool stake = .ok s) :
    s = self.closed (self.rewardPoolBalance + stake) 0 owner := by
  simp only [slashIntoPool, bind_eq_ok, checkedAdd_eq_ok, pure_eq_ok, Except.ok.injEq] at h
  obtain ⟨pool, ⟨-, rfl⟩, rfl⟩ := h
  simp [closed]

end

/-- What a settled forecast is credited: its stake and a bonus if it was revealed
and matches, and nothing otherwise. -/
def settlementOf (self : EpistemicMarket) (forecast : ForecastCommitment)
    (finalStatus : ResolutionStatus) : ℕ :=
  if forecast.revealed && forecastMatches forecast.direction finalStatus then
    forecast.stakeAmount + self.bonusOf forecast.stakeAmount
  else 0

/-- What a challenge is credited when it is resolved. -/
def resolutionOf (self : EpistemicMarket) (bondAmount : ℕ) : ChallengeStatus → ℕ
  | .sustained => bondAmount + self.bonusOf bondAmount
  | .escalated => bondAmount
  | _ => 0

theorem settlementOf_le (self : EpistemicMarket) (forecast : ForecastCommitment)
    (finalStatus : ResolutionStatus) :
    self.settlementOf forecast finalStatus ≤ 2 * forecast.stakeAmount := by
  have hbonus := self.bonusOf_le_stake forecast.stakeAmount
  unfold settlementOf
  split <;> omega

theorem resolutionOf_le (self : EpistemicMarket) (bondAmount : ℕ) (status : ChallengeStatus) :
    self.resolutionOf bondAmount status ≤ 2 * bondAmount := by
  have hbonus := self.bonusOf_le_stake bondAmount
  cases status <;> simp only [resolutionOf] <;> omega

/-! ### Steps -/

section

variable (ctx : Ctx) (claimRegistry : ClaimRegistry) (agentRegistry : AgentRegistry)
  (replicationRegistry : ReplicationRegistry) (self : EpistemicMarket)

/-- **What a successful call of the market did**, with the guards it passed. -/
inductive Step : Call → EpistemicMarket → Prop
  | fundRewardPool {logs : List Event} :
      self.depositsPaused = false → ctx.value ≠ 0 →
      Step .fundRewardPool { self with
        balance := self.balance + ctx.value
        rewardPoolBalance := self.rewardPoolBalance + ctx.value
        logs }
  | commitForecast {claimId : ℕ} {commitmentHash : Bytes32} {revealDeadline : UInt64}
      {agentId : ℕ} {logs : List Event} :
      self.depositsPaused = false → (claimRegistry.claims claimId).claimId ≠ 0 →
      ¬((claimRegistry.claims claimId).status = .refuted ∨
        (claimRegistry.claims claimId).status = .fraudulent ∨
        (claimRegistry.claims claimId).status = .deprecated) →
      ctx.value ≠ 0 → ctx.timestamp < revealDeadline.toNat →
      ¬(agentId ≠ 0 ∧ ¬agentRegistry.isAuthorizedController agentId ctx.sender) →
      self.nextForecastId + 1 < uint256Size →
      Step (.commitForecast claimId commitmentHash revealDeadline agentId) { self with
        balance := self.balance + ctx.value
        nextForecastId := self.nextForecastId + 1
        forecasts := self.forecasts.set self.nextForecastId
          (committed ctx self.nextForecastId claimId commitmentHash revealDeadline agentId
            (claimRegistry.effectiveClaimDecisionId claimId))
        logs }
  | revealForecast {forecastId : ℕ} {direction : ForecastDirection} {confidenceBps : UInt16}
      {salt : Bytes32} {logs : List Event} :
      ctx.value = 0 → (self.forecasts forecastId).forecastId ≠ 0 →
      isAuthorizedForecastActor agentRegistry (self.forecasts forecastId) ctx.sender = true →
      (self.forecasts forecastId).revealed = false →
      ctx.timestamp ≤ (self.forecasts forecastId).revealDeadline.toNat →
      ¬confidenceBps > 10000 →
      commitmentOf ctx.deployment direction confidenceBps salt =
        (self.forecasts forecastId).commitmentHash →
      Step (.revealForecast forecastId direction confidenceBps salt) { self with
        forecasts := self.forecasts.set forecastId
          { self.forecasts forecastId with revealed := true, direction, confidenceBps }
        logs }
  | settleForecast {forecastId resolutionDecisionId pool payout : ℕ} {logs : List Event} :
      ctx.value = 0 → ctx.hasRole .marketSettler ctx.sender = true →
      (self.forecasts forecastId).forecastId ≠ 0 →
      (self.forecasts forecastId).settled = false →
      ((self.forecasts forecastId).revealed = true ∨
        (self.forecasts forecastId).revealDeadline.toNat < ctx.timestamp) →
      resolutionDecisionId =
        claimRegistry.effectiveClaimDecisionId (self.forecasts forecastId).claimId →
      (self.forecasts forecastId).effectiveDecisionIdAtCommit < resolutionDecisionId →
      (claimRegistry.decisions resolutionDecisionId).decisionId ≠ 0 →
      (claimRegistry.decisions resolutionDecisionId).claimId =
        (self.forecasts forecastId).claimId →
      payout = self.settlementOf (self.forecasts forecastId)
        (claimRegistry.decisions resolutionDecisionId).status →
      pool + payout = self.rewardPoolBalance + (self.forecasts forecastId).stakeAmount →
      Step (.settleForecast forecastId resolutionDecisionId)
        { self.closed pool payout (self.forecasts forecastId).forecaster with
          forecasts := self.forecasts.set forecastId
            { self.forecasts forecastId with settled := true, resolutionDecisionId }
          logs }
  | forfeitUnrevealedForecast {forecastId pool : ℕ} {logs : List Event} :
      ctx.value = 0 → (self.forecasts forecastId).forecastId ≠ 0 →
      (self.forecasts forecastId).settled = false →
      (self.forecasts forecastId).revealed = false →
      (self.forecasts forecastId).revealDeadline.toNat < ctx.timestamp →
      pool = self.rewardPoolBalance + (self.forecasts forecastId).stakeAmount →
      Step (.forfeitUnrevealedForecast forecastId)
        { self.closed pool 0 (self.forecasts forecastId).forecaster with
          forecasts := self.forecasts.set forecastId
            { self.forecasts forecastId with settled := true }
          logs }
  | reclaimForecast {forecastId : ℕ} {logs : List Event} :
      ctx.value = 0 → (self.forecasts forecastId).forecastId ≠ 0 →
      isAuthorizedForecastActor agentRegistry (self.forecasts forecastId) ctx.sender = true →
      (self.forecasts forecastId).settled = false →
      (self.forecasts forecastId).revealed = true →
      (self.forecasts forecastId).revealDeadline.toNat + forecastReclaimDelay < ctx.timestamp →
      Step (.reclaimForecast forecastId)
        { self.closed self.rewardPoolBalance (self.forecasts forecastId).stakeAmount
            (self.forecasts forecastId).forecaster with
          forecasts := self.forecasts.set forecastId
            { self.forecasts forecastId with settled := true }
          logs }
  | openChallenge {claimId replicationId : ℕ} {evidenceHash : Bytes32} {evidenceURI : String}
      {agentId : ℕ} {logs : List Event} :
      self.depositsPaused = false → (claimRegistry.claims claimId).claimId ≠ 0 →
      ¬(replicationId ≠ 0 ∧ replicationRegistry.getReplicationClaimId replicationId ≠ claimId) →
      ctx.value ≠ 0 →
      ¬(agentId ≠ 0 ∧ ¬agentRegistry.isAuthorizedController agentId ctx.sender) →
      self.nextChallengeId + 1 < uint256Size →
      Step (.openChallenge claimId replicationId evidenceHash evidenceURI agentId) { self with
        balance := self.balance + ctx.value
        nextChallengeId := self.nextChallengeId + 1
        challenges := self.challenges.set self.nextChallengeId
          { challengeId := self.nextChallengeId, claimId, replicationId,
            challenger := ctx.sender, agentId, evidenceHash, evidenceURI,
            bondAmount := ctx.value, status := .«open», resolutionHash := 0,
            createdAt := ctx.timestamp, resolvedAt := 0 }
        logs }
  | withdrawChallenge {challengeId : ℕ} {logs : List Event} :
      ctx.value = 0 → (self.challenges challengeId).challengeId ≠ 0 →
      isAuthorizedChallengeActor agentRegistry (self.challenges challengeId) ctx.sender = true →
      (self.challenges challengeId).status = .«open» →
      (self.challenges challengeId).createdAt + minChallengeDuration ≤ ctx.timestamp →
      Step (.withdrawChallenge challengeId)
        { self.closed self.rewardPoolBalance (self.challenges challengeId).bondAmount
            (self.challenges challengeId).challenger with
          challenges := self.challenges.set challengeId
            { self.challenges challengeId with
              status := .withdrawn, resolvedAt := ctx.timestamp }
          logs }
  | resolveChallenge {challengeId : ℕ} {status : ChallengeStatus} {resolutionHash : Bytes32}
      {pool payout : ℕ} {logs : List Event} :
      ctx.value = 0 → ctx.hasRole .resolver ctx.sender = true →
      (self.challenges challengeId).challengeId ≠ 0 →
      (self.challenges challengeId).status = .«open» →
      status ≠ .«open» → status ≠ .withdrawn →
      payout = self.resolutionOf (self.challenges challengeId).bondAmount status →
      pool + payout = self.rewardPoolBalance + (self.challenges challengeId).bondAmount →
      Step (.resolveChallenge challengeId status resolutionHash)
        { self.closed pool payout (self.challenges challengeId).challenger with
          challenges := self.challenges.set challengeId
            { self.challenges challengeId with
              status, resolutionHash, resolvedAt := ctx.timestamp }
          logs }
  | withdrawPayout {amount : ℕ} {recipient : Address} {logs : List Event} :
      ctx.value = 0 → self.entered = false → amount ≠ 0 → recipient ≠ 0 →
      amount ≤ self.withdrawablePayouts ctx.sender → amount ≤ self.totalWithdrawablePayouts →
      amount ≤ self.balance → ctx.refusesValue recipient = false →
      Step (.withdrawPayout amount recipient) { self with
        balance := self.balance - amount
        withdrawablePayouts := self.withdrawablePayouts.set ctx.sender
          (self.withdrawablePayouts ctx.sender - amount)
        totalWithdrawablePayouts := self.totalWithdrawablePayouts - amount
        entered := true
        logs }
  | setDepositsPaused {paused : Bool} {logs : List Event} :
      ctx.value = 0 → ctx.hasRole .pauser ctx.sender = true →
      Step (.setDepositsPaused paused) { self with depositsPaused := paused, logs }

end

section

variable {ctx : Ctx} {claimRegistry : ClaimRegistry} {agentRegistry : AgentRegistry}
  {replicationRegistry : ReplicationRegistry} {self s : EpistemicMarket}

theorem step_of_fundRewardPool
    (h : { self with balance := self.balance + ctx.value }.fundRewardPool ctx = .ok s) :
    Step ctx claimRegistry agentRegistry replicationRegistry self .fundRewardPool s := by
  simp only [fundRewardPool, bind_eq_ok, whenDepositsNotPaused_eq_ok, revertIf_eq_ok,
    checkedAdd_eq_ok, pure_eq_ok, Except.ok.injEq] at h
  obtain ⟨-, hpaused, -, hvalue, pool, ⟨-, rfl⟩, rfl⟩ := h
  exact .fundRewardPool hpaused hvalue

theorem step_of_commitForecast {claimId : ℕ} {commitmentHash : Bytes32} {revealDeadline : UInt64}
    {agentId id : ℕ}
    (h : { self with balance := self.balance + ctx.value }.commitForecast ctx claimRegistry
      agentRegistry claimId commitmentHash revealDeadline agentId = .ok (id, s)) :
    Step ctx claimRegistry agentRegistry replicationRegistry self
      (.commitForecast claimId commitmentHash revealDeadline agentId) s := by
  simp only [commitForecast, ClaimRegistry.getClaim, ClaimRegistry.requireExistingClaim,
    bind_eq_ok, whenDepositsNotPaused_eq_ok, revertIf_eq_ok, checkedAdd_eq_ok, pure_eq_ok,
    Except.ok.injEq, Prod.mk.injEq] at h
  obtain ⟨-, hpaused, -, -, claimRecord, ⟨-, hclaim, rfl⟩, -, hstatus, -, hvalue, -, hdeadline,
    -, hagent, next, ⟨hnext, rfl⟩, rfl, rfl⟩ := h
  exact .commitForecast hpaused hclaim hstatus hvalue (Nat.not_le.mp hdeadline) hagent hnext

theorem step_of_revealForecast {forecastId : ℕ} {direction : ForecastDirection}
    {confidenceBps : UInt16} {salt : Bytes32} (hvalue : ctx.value = 0)
    (h : self.revealForecast ctx agentRegistry forecastId direction confidenceBps salt = .ok s) :
    Step ctx claimRegistry agentRegistry replicationRegistry self
      (.revealForecast forecastId direction confidenceBps salt) s := by
  simp only [revealForecast, bind_eq_ok, revertIf_eq_ok, pure_eq_ok, Except.ok.injEq,
    Bool.not_eq_true, Bool.not_eq_false, not_not] at h
  obtain ⟨-, hid, -, hactor, -, hrevealed, -, htime, -, hconfidence, -, hhash, rfl⟩ := h
  exact .revealForecast hvalue hid hactor hrevealed (Nat.not_lt.mp htime) hconfidence hhash

theorem step_of_settleForecast {forecastId resolutionDecisionId : ℕ} (hvalue : ctx.value = 0)
    (h : self.settleForecast ctx claimRegistry forecastId resolutionDecisionId = .ok s) :
    Step ctx claimRegistry agentRegistry replicationRegistry self
      (.settleForecast forecastId resolutionDecisionId) s := by
  simp only [settleForecast, ClaimRegistry.getResolutionDecision, bind_eq_ok, revertIf_eq_ok,
    Ctx.onlyRole_eq_ok, pure_eq_ok, Except.ok.injEq, Bool.not_eq_true, not_not] at h
  obtain ⟨-, hrole, -, hid, -, hsettled, -, hopen, -, -, -, hcurrent, -, hnewer,
    decision, ⟨-, hdecision, rfl⟩, -, hclaim, h⟩ := h
  have hopen : (self.forecasts forecastId).revealed = true ∨
      (self.forecasts forecastId).revealDeadline.toNat < ctx.timestamp := by
    rcases hrevealed : (self.forecasts forecastId).revealed with _ | _
    · exact .inr (Nat.not_le.mp fun hle => hopen ⟨hrevealed, hle⟩)
    · exact .inl rfl
  -- A miss is slashed into the pool; a match is paid out of it, as far as it reaches.
  rcases hmatched : (self.forecasts forecastId).revealed &&
      forecastMatches (self.forecasts forecastId).direction
        (claimRegistry.decisions resolutionDecisionId).status with _ | _
  · simp only [hmatched, Bool.false_eq_true, if_false, bind_eq_ok, Except.ok.injEq] at h
    obtain ⟨s', hslash, rfl⟩ := h
    rw [eq_closed_of_slashIntoPool (self.forecasts forecastId).forecaster hslash]
    exact .settleForecast hvalue hrole hid hsettled hopen hcurrent
      (Nat.not_le.mp hnewer) hdecision hclaim (by simp [settlementOf, hmatched]) rfl
  · simp only [hmatched, if_true, bind_eq_ok, Except.ok.injEq] at h
    obtain ⟨⟨payout, s'⟩, hpay, rfl⟩ := h
    obtain ⟨rfl, rfl⟩ := eq_closed_of_payWithBonus hpay
    have hbonus := self.bonusOf_le_pool (self.forecasts forecastId).stakeAmount
    refine .settleForecast hvalue hrole hid hsettled hopen hcurrent
      (Nat.not_le.mp hnewer) hdecision hclaim ?_ ?_
    · simp only [settlementOf, hmatched, if_true]
      rfl
    · change self.rewardPoolBalance - self.bonusOf _ + (_ + self.bonusOf _) = _
      omega

theorem step_of_forfeitUnrevealedForecast {forecastId : ℕ} (hvalue : ctx.value = 0)
    (h : self.forfeitUnrevealedForecast ctx forecastId = .ok s) :
    Step ctx claimRegistry agentRegistry replicationRegistry self
      (.forfeitUnrevealedForecast forecastId) s := by
  simp only [forfeitUnrevealedForecast, bind_eq_ok, revertIf_eq_ok, pure_eq_ok, Except.ok.injEq,
    Bool.not_eq_true] at h
  obtain ⟨-, hid, -, hsettled, -, hrevealed, -, htime, s', hslash, rfl⟩ := h
  rw [eq_closed_of_slashIntoPool (self.forecasts forecastId).forecaster hslash]
  exact .forfeitUnrevealedForecast hvalue hid hsettled hrevealed (Nat.not_le.mp htime) rfl

theorem step_of_reclaimForecast {forecastId : ℕ} (hvalue : ctx.value = 0)
    (h : self.reclaimForecast ctx agentRegistry forecastId = .ok s) :
    Step ctx claimRegistry agentRegistry replicationRegistry self
      (.reclaimForecast forecastId) s := by
  simp only [reclaimForecast, bind_eq_ok, revertIf_eq_ok, pure_eq_ok, Except.ok.injEq,
    Bool.not_eq_true, Bool.not_eq_false, not_or] at h
  obtain ⟨-, hid, -, hactor, -, hsettled, -, ⟨hrevealed, htime⟩, s', hcredit, rfl⟩ := h
  rw [eq_closed_of_creditPayout hcredit]
  exact .reclaimForecast hvalue hid hactor hsettled hrevealed (Nat.not_le.mp htime)

theorem step_of_openChallenge {claimId replicationId : ℕ} {evidenceHash : Bytes32}
    {evidenceURI : String} {agentId id : ℕ}
    (h : { self with balance := self.balance + ctx.value }.openChallenge ctx claimRegistry
      agentRegistry replicationRegistry claimId replicationId evidenceHash evidenceURI agentId =
        .ok (id, s)) :
    Step ctx claimRegistry agentRegistry replicationRegistry self
      (.openChallenge claimId replicationId evidenceHash evidenceURI agentId) s := by
  simp only [openChallenge, ClaimRegistry.claimExists, bind_eq_ok, whenDepositsNotPaused_eq_ok,
    revertIf_eq_ok, checkedAdd_eq_ok, pure_eq_ok, Except.ok.injEq, Prod.mk.injEq,
    decide_eq_true_eq, not_not] at h
  obtain ⟨-, hpaused, -, hclaim, -, hreplication, -, hvalue, -, hagent, next, ⟨hnext, rfl⟩, rfl,
    rfl⟩ := h
  exact .openChallenge hpaused hclaim hreplication hvalue hagent hnext

theorem step_of_withdrawChallenge {challengeId : ℕ} (hvalue : ctx.value = 0)
    (h : self.withdrawChallenge ctx agentRegistry challengeId = .ok s) :
    Step ctx claimRegistry agentRegistry replicationRegistry self
      (.withdrawChallenge challengeId) s := by
  simp only [withdrawChallenge, bind_eq_ok, revertIf_eq_ok, checkedAdd_eq_ok, pure_eq_ok,
    Except.ok.injEq, Bool.not_eq_true, Bool.not_eq_false, not_not] at h
  obtain ⟨-, hid, -, hactor, -, hstatus, unlockAt, ⟨-, rfl⟩, -, htime, s', hcredit, rfl⟩ := h
  rw [eq_closed_of_creditPayout hcredit]
  exact .withdrawChallenge hvalue hid hactor hstatus (Nat.not_lt.mp htime)

theorem step_of_resolveChallenge {challengeId : ℕ} {status : ChallengeStatus}
    {resolutionHash : Bytes32} (hvalue : ctx.value = 0)
    (h : self.resolveChallenge ctx challengeId status resolutionHash = .ok s) :
    Step ctx claimRegistry agentRegistry replicationRegistry self
      (.resolveChallenge challengeId status resolutionHash) s := by
  simp only [resolveChallenge, bind_eq_ok, revertIf_eq_ok, Ctx.onlyRole_eq_ok, pure_eq_ok,
    Except.ok.injEq, not_not, not_or] at h
  obtain ⟨-, hrole, -, hid, -, hopen, -, ⟨hnotOpen, hnotWithdrawn⟩, ⟨payout, s'⟩, hsettle, rfl⟩ := h
  have hbonus := self.bonusOf_le_pool (self.challenges challengeId).bondAmount
  cases status with
  | «open» => exact absurd rfl hnotOpen
  | withdrawn => exact absurd rfl hnotWithdrawn
  | sustained =>
    simp only [settleBond, bind_eq_ok, pure_eq_ok, Except.ok.injEq, Prod.mk.injEq] at hsettle
    obtain ⟨⟨payout, s'⟩, hpay, rfl, rfl⟩ := hsettle
    obtain ⟨rfl, rfl⟩ := eq_closed_of_payWithBonus hpay
    refine .resolveChallenge hvalue hrole hid hopen hnotOpen hnotWithdrawn rfl ?_
    change self.rewardPoolBalance - self.bonusOf _ + (_ + self.bonusOf _) = _
    omega
  | dismissed =>
    simp only [settleBond, bind_eq_ok, pure_eq_ok, Except.ok.injEq, Prod.mk.injEq] at hsettle
    obtain ⟨s', hslash, rfl, rfl⟩ := hsettle
    rw [eq_closed_of_slashIntoPool (self.challenges challengeId).challenger hslash]
    exact .resolveChallenge hvalue hrole hid hopen hnotOpen hnotWithdrawn rfl rfl
  | escalated =>
    simp only [settleBond, bind_eq_ok, pure_eq_ok, Except.ok.injEq, Prod.mk.injEq] at hsettle
    obtain ⟨s', hcredit, rfl, rfl⟩ := hsettle
    rw [eq_closed_of_creditPayout hcredit]
    exact .resolveChallenge hvalue hrole hid hopen hnotOpen hnotWithdrawn rfl rfl

theorem step_of_withdrawPayout {amount : ℕ} {recipient : Address}
    {o : Outcome EpistemicMarket Pending} (hvalue : ctx.value = 0)
    (h : self.withdrawPayout ctx amount recipient = .ok o) :
    Step ctx claimRegistry agentRegistry replicationRegistry self
      (.withdrawPayout amount recipient) o.state := by
  simp only [withdrawPayout, safeTransferValue, bind_eq_ok, nonReentrant_eq_ok, revertIf_eq_ok,
    checkedSub_eq_ok, pure_eq_ok, Except.ok.injEq, Bool.not_eq_true, not_or] at h
  obtain ⟨-, hentered, -, hamount, -, hrecipient, -, -, credit, ⟨hcredit, rfl⟩, total,
    ⟨htotal, rfl⟩, -, ⟨hbalance, hrefuses⟩, rfl⟩ := h
  exact .withdrawPayout hvalue hentered hamount hrecipient hcredit htotal
    (Nat.not_lt.mp hbalance) hrefuses

theorem step_of_setDepositsPaused {paused : Bool} (hvalue : ctx.value = 0)
    (h : self.setDepositsPaused ctx paused = .ok s) :
    Step ctx claimRegistry agentRegistry replicationRegistry self (.setDepositsPaused paused)
      s := by
  simp only [setDepositsPaused, bind_eq_ok, Ctx.onlyRole_eq_ok, pure_eq_ok, Except.ok.injEq] at h
  obtain ⟨-, hrole, rfl⟩ := h
  exact .setDepositsPaused hvalue hrole

/-- **Every successful call of the market is one of the steps above.** -/
theorem step_of_exec {call : Call} {o : Outcome EpistemicMarket Pending}
    (h : self.exec ctx claimRegistry agentRegistry replicationRegistry call = .ok o) :
    Step ctx claimRegistry agentRegistry replicationRegistry self call o.state := by
  simp only [exec, bind_eq_ok, Ctx.receiveValue_eq_ok] at h
  obtain ⟨-, ⟨hpayable, -, rfl⟩, h⟩ := h
  -- A call that is not payable carries no value, and runs on the market as it was.
  have hplain : call.payable = false → ctx.value = 0 ∧
      { self with balance := self.balance + ctx.value } = self := by
    intro hcall
    have hvalue : ctx.value = 0 := by simpa [hcall] using hpayable
    exact ⟨hvalue, by rw [hvalue, Nat.add_zero]⟩
  cases call with
  | fundRewardPool =>
    obtain ⟨s, hrun, rfl⟩ := map_eq_ok.mp h
    exact step_of_fundRewardPool hrun
  | commitForecast claimId commitmentHash revealDeadline agentId =>
    obtain ⟨⟨id, s⟩, hrun, rfl⟩ := map_eq_ok.mp h
    exact step_of_commitForecast hrun
  | openChallenge claimId replicationId evidenceHash evidenceURI agentId =>
    obtain ⟨⟨id, s⟩, hrun, rfl⟩ := map_eq_ok.mp h
    exact step_of_openChallenge hrun
  | withdrawPayout amount recipient =>
    obtain ⟨hvalue, hself⟩ := hplain rfl
    exact step_of_withdrawPayout hvalue (hself ▸ h)
  | revealForecast forecastId direction confidenceBps salt =>
    obtain ⟨hvalue, hself⟩ := hplain rfl
    obtain ⟨s, hrun, rfl⟩ := map_eq_ok.mp h
    exact step_of_revealForecast hvalue (hself ▸ hrun)
  | settleForecast forecastId resolutionDecisionId =>
    obtain ⟨hvalue, hself⟩ := hplain rfl
    obtain ⟨s, hrun, rfl⟩ := map_eq_ok.mp h
    exact step_of_settleForecast hvalue (hself ▸ hrun)
  | forfeitUnrevealedForecast forecastId =>
    obtain ⟨hvalue, hself⟩ := hplain rfl
    obtain ⟨s, hrun, rfl⟩ := map_eq_ok.mp h
    exact step_of_forfeitUnrevealedForecast hvalue (hself ▸ hrun)
  | reclaimForecast forecastId =>
    obtain ⟨hvalue, hself⟩ := hplain rfl
    obtain ⟨s, hrun, rfl⟩ := map_eq_ok.mp h
    exact step_of_reclaimForecast hvalue (hself ▸ hrun)
  | withdrawChallenge challengeId =>
    obtain ⟨hvalue, hself⟩ := hplain rfl
    obtain ⟨s, hrun, rfl⟩ := map_eq_ok.mp h
    exact step_of_withdrawChallenge hvalue (hself ▸ hrun)
  | resolveChallenge challengeId status resolutionHash =>
    obtain ⟨hvalue, hself⟩ := hplain rfl
    obtain ⟨s, hrun, rfl⟩ := map_eq_ok.mp h
    exact step_of_resolveChallenge hvalue (hself ▸ hrun)
  | setDepositsPaused paused =>
    obtain ⟨hvalue, hself⟩ := hplain rfl
    obtain ⟨s, hrun, rfl⟩ := map_eq_ok.mp h
    exact step_of_setDepositsPaused hvalue (hself ▸ hrun)

end

end EpistemicMarket

/-! ### The market in a step of the protocol -/

/-- The call of the market a step runs, if it runs one. -/
def marketCall : Action Message Suspended → Option EpistemicMarket.Call
  | .exec m => match m.target with
    | .epistemicMarket call => some call
    | _ => none
  | _ => none

/-- **How the market moves in a step of the protocol**: it stands still, it runs
one of its calls, or it finishes a withdrawal. -/
theorem World.Step.epistemicMarket_cases {D : Deployment} {a : Action Message Suspended}
    {w w' : World} (h : World.Step D a w w') :
    (marketCall a = none ∧ w'.epistemicMarket = w.epistemicMarket) ∨
      (∃ m call, a = .exec m ∧ marketCall a = some call ∧
        EpistemicMarket.Step (w.context D m) w.claimRegistry w.agentRegistry
          w.replicationRegistry w.epistemicMarket call w'.epistemicMarket ∧
        w' = { w with epistemicMarket := w'.epistemicMarket }) ∨
      ∃ p, a = .resume (.epistemicMarket p) ∧
        w' = { w with epistemicMarket := w.epistemicMarket.resume p } := by
  cases h with
  | epistemicMarket htarget hexec =>
    exact .inr (.inl ⟨_, _, rfl, by simp [marketCall, htarget],
      EpistemicMarket.step_of_exec hexec, rfl⟩)
  | resume p w =>
    cases p with
    | epistemicMarket p => exact .inr (.inr ⟨p, rfl, rfl⟩)
    | _ => exact .inl ⟨rfl, rfl⟩
  | foreign | tick => exact .inl ⟨rfl, rfl⟩
  | accessController htarget => exact .inl ⟨by simp [marketCall, htarget], rfl⟩
  | protocolParameters htarget | resolutionModuleRegistry htarget | claimRegistry htarget
  | replicationRegistry htarget | agentRegistry htarget | bondEscrow htarget
  | claimRewardVault htarget | appealsRegistry htarget | artifactRegistry htarget
  | reputationCheckpointRegistry htarget => exact .inl ⟨by simp [marketCall, htarget], rfl⟩

end ScientificProtocol
