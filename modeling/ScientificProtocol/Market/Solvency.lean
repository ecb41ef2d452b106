import ScientificProtocol.Evm.Numbered
import ScientificProtocol.Market.Step

/-!
# The market is solvent

The ether of the market is in four pots: the reward pool, the credits nobody has
withdrawn yet, the stakes of the forecasts not yet settled and the bonds of the
challenges still open. Every call moves value between the pots, or across the
boundary of the contract by exactly what the balance moves, so the balance is
their sum at every moment somebody else's code can look.

A withdrawal is the one call that stops in the middle. It has lowered the credit
and the balance together before the recipient's code runs, which is why the
equality holds there too, whatever that code calls.
-/

namespace ScientificProtocol

open Evm

namespace EpistemicMarket

/-! ### The records of the market -/

/-- The forecasts and the challenges are numbered from one. -/
structure Indexed (s : EpistemicMarket) : Prop where
  forecasts : Numbered ForecastCommitment.forecastId s.nextForecastId s.forecasts
  challenges : Numbered ChallengeBond.challengeId s.nextChallengeId s.challenges

section

variable {ctx : Ctx} {claimRegistry : ClaimRegistry} {agentRegistry : AgentRegistry}
  {replicationRegistry : ReplicationRegistry} {self s : EpistemicMarket} {call : Call}

theorem indexed_deployed : deployed.Indexed := ⟨.empty, .empty⟩

theorem Step.indexed (h : Step ctx claimRegistry agentRegistry replicationRegistry self call s)
    (hself : self.Indexed) : s.Indexed := by
  obtain ⟨hforecasts, hchallenges⟩ := hself
  cases h with
  | fundRewardPool | withdrawPayout | setDepositsPaused => exact ⟨hforecasts, hchallenges⟩
  | commitForecast => exact ⟨hforecasts.push rfl, hchallenges⟩
  | openChallenge => exact ⟨hforecasts, hchallenges.push rfl⟩
  | revealForecast _ hid | settleForecast _ _ hid | forfeitUnrevealedForecast _ hid
  | reclaimForecast _ hid => exact ⟨hforecasts.update rfl hid rfl, hchallenges⟩
  | withdrawChallenge _ hid | resolveChallenge _ _ hid =>
    exact ⟨hforecasts, hchallenges.update rfl hid rfl⟩

/-! ### The four pots -/

/-- What a forecast still has at stake. -/
def openStake (forecast : ForecastCommitment) : ℕ :=
  if forecast.settled then 0 else forecast.stakeAmount

/-- What a challenge still has posted. -/
def openBond (challenge : ChallengeBond) : ℕ :=
  if challenge.status = .«open» then challenge.bondAmount else 0

/-- **Solvency**: the balance is the sum of the four pots, and the counter of
credits is the sum of the credits. -/
structure Solvent (s : EpistemicMarket) : Prop where
  balance_eq : s.balance = s.rewardPoolBalance + s.totalWithdrawablePayouts +
    s.forecasts.total openStake + s.challenges.total openBond
  credits_eq : s.totalWithdrawablePayouts = s.withdrawablePayouts.total id

theorem solvent_deployed : deployed.Solvent where
  balance_eq := by
    change 0 = 0 + 0 + (default : Mapping ℕ ForecastCommitment).total openStake +
      (default : Mapping ℕ ChallengeBond).total openBond
    rw [Mapping.total_default rfl, Mapping.total_default rfl]
  credits_eq := (Mapping.total_default rfl).symm

/-- A settled forecast has nothing at stake any more. -/
theorem total_settle {id : ℕ} (hsettled : (self.forecasts id).settled = false)
    {forecast : ForecastCommitment} (hforecast : forecast.settled = true) :
    (self.forecasts.set id forecast).total openStake + (self.forecasts id).stakeAmount =
      self.forecasts.total openStake := by
  have htotal := self.forecasts.total_set_weightless (w := openStake) rfl id (v := forecast)
    (by simp [openStake, hforecast])
  simpa [openStake, hsettled] using htotal

/-- A challenge that is not open any more has nothing posted. -/
theorem total_closeChallenge {id : ℕ} (hopen : (self.challenges id).status = .«open»)
    {challenge : ChallengeBond} (hchallenge : challenge.status ≠ .«open») :
    (self.challenges.set id challenge).total openBond + (self.challenges id).bondAmount =
      self.challenges.total openBond := by
  have htotal := self.challenges.total_set_weightless (w := openBond) rfl id (v := challenge)
    (by simp [openBond, hchallenge])
  simpa [openBond, hopen] using htotal

/-- Settling a forecast out of the pool keeps the market solvent. -/
theorem Solvent.settle (hself : self.Solvent) {id pool payout : ℕ} {owner : Address}
    {forecast : ForecastCommitment} (logs : List Event)
    (hsettled : (self.forecasts id).settled = false) (hforecast : forecast.settled = true)
    (hpool : pool + payout = self.rewardPoolBalance + (self.forecasts id).stakeAmount) :
    Solvent { self.closed pool payout owner with
      forecasts := self.forecasts.set id forecast, logs } := by
  have hstakes := total_settle hsettled hforecast
  have hbalance := hself.balance_eq
  have hcredits := hself.credits_eq
  have hledger := self.withdrawablePayouts.total_set_add owner payout
  constructor <;> simp only [closed] <;> omega

/-- Closing a challenge out of the pool keeps the market solvent. -/
theorem Solvent.closeChallenge (hself : self.Solvent) {id pool payout : ℕ} {owner : Address}
    {challenge : ChallengeBond} (logs : List Event)
    (hopen : (self.challenges id).status = .«open») (hchallenge : challenge.status ≠ .«open»)
    (hpool : pool + payout = self.rewardPoolBalance + (self.challenges id).bondAmount) :
    Solvent { self.closed pool payout owner with
      challenges := self.challenges.set id challenge, logs } := by
  have hbonds := total_closeChallenge hopen hchallenge
  have hbalance := hself.balance_eq
  have hcredits := hself.credits_eq
  have hledger := self.withdrawablePayouts.total_set_add owner payout
  constructor <;> simp only [closed] <;> omega

/-- **Every call keeps the market solvent.** -/
theorem Step.solvent (h : Step ctx claimRegistry agentRegistry replicationRegistry self call s)
    (hindexed : self.Indexed) (hself : self.Solvent) : s.Solvent := by
  have hbalance := hself.balance_eq
  have hcredits := hself.credits_eq
  cases h with
  | fundRewardPool => exact ⟨by simp only; omega, hcredits⟩
  | setDepositsPaused => exact ⟨hbalance, hcredits⟩
  | @commitForecast claimId commitmentHash revealDeadline agentId =>
    -- The slot was blank, so the stake is all that the table gains.
    have hstakes := Mapping.total_set_blank (w := openStake) rfl hindexed.forecasts.blank_next
      (committed ctx self.nextForecastId claimId commitmentHash revealDeadline agentId
        (claimRegistry.effectiveClaimDecisionId claimId))
    have hstake : openStake (committed ctx self.nextForecastId claimId commitmentHash
        revealDeadline agentId (claimRegistry.effectiveClaimDecisionId claimId)) = ctx.value := rfl
    exact ⟨by simp only; omega, hcredits⟩
  | @openChallenge claimId replicationId evidenceHash evidenceURI agentId =>
    have hbonds := Mapping.total_set_blank (w := openBond) rfl hindexed.challenges.blank_next
      { challengeId := self.nextChallengeId, claimId, replicationId, challenger := ctx.sender,
        agentId, evidenceHash, evidenceURI, bondAmount := ctx.value, status := .«open»,
        resolutionHash := 0, createdAt := ctx.timestamp, resolvedAt := 0 }
    simp only [openBond, if_true] at hbonds
    exact ⟨by simp only; omega, hcredits⟩
  | @revealForecast forecastId direction confidenceBps salt =>
    -- A reveal leaves `settled` and the stake alone, settled or not.
    have hstakes := self.forecasts.total_set_same (w := openStake) rfl (k := forecastId)
      (v := { self.forecasts forecastId with revealed := true, direction, confidenceBps }) rfl
    simp only at hstakes
    exact ⟨by simp only; omega, hcredits⟩
  | settleForecast _ _ _ hsettled _ _ _ _ _ _ hpool =>
    exact hself.settle _ hsettled rfl hpool
  | forfeitUnrevealedForecast _ _ hsettled _ _ hpool =>
    exact hself.settle _ hsettled rfl hpool
  | reclaimForecast _ _ _ hsettled =>
    exact hself.settle _ hsettled rfl rfl
  | withdrawChallenge _ _ _ hopen =>
    exact hself.closeChallenge _ hopen (by simp) rfl
  | resolveChallenge _ _ _ hopen hnotOpen _ _ hpool =>
    exact hself.closeChallenge _ hopen hnotOpen hpool
  | withdrawPayout _ _ _ _ hcredit htotal hether =>
    -- At the transfer the credit and the ether are both gone already.
    have hledger := self.withdrawablePayouts.total_set_sub hcredit
    constructor <;> simp only <;> omega

end

end EpistemicMarket

/-! ### Every observable moment -/

section

variable {D : Deployment} {c : Config World Suspended}

/-- A property of the market alone that deployment establishes, that every call keeps and that
does not look at the guard or the log, holds at every observable moment. -/
theorem EpistemicMarket.invariant {I : EpistemicMarket → Prop}
    (hdeployed : I EpistemicMarket.deployed)
    (hstep : ∀ {ctx claimRegistry agentRegistry replicationRegistry self call s},
      EpistemicMarket.Step ctx claimRegistry agentRegistry replicationRegistry self call s →
      I self → I s)
    (hresume : ∀ {self : EpistemicMarket} (p), I self → I (self.resume p))
    (h : (protocol D).Reachable c) : I c.world.epistemicMarket := by
  refine h.invariant (I := fun w => I w.epistemicMarket) ?_ fun {c a w'} _ hc heffect => ?_
  · rintro _ ⟨now, hasRole, -, -, rfl⟩
    exact hdeployed
  · rcases (World.step_of_effect heffect).epistemicMarket_cases with
      ⟨-, heq⟩ | ⟨m, call, -, -, hcall, -⟩ | ⟨p, -, rfl⟩
    · rw [heq]
      exact hc
    · exact hstep hcall hc
    · exact hresume p hc

theorem EpistemicMarket.indexed_of_reachable (h : (protocol D).Reachable c) :
    c.world.epistemicMarket.Indexed :=
  EpistemicMarket.invariant indexed_deployed (fun hstep hself => hstep.indexed hself)
    (fun _ hself => ⟨hself.forecasts, hself.challenges⟩) h

/-- **The market is solvent at every observable moment**, in the middle of a
withdrawal as well as after it. -/
theorem EpistemicMarket.solvent_of_reachable (h : (protocol D).Reachable c) :
    c.world.epistemicMarket.Solvent :=
  (EpistemicMarket.invariant (I := fun s => s.Indexed ∧ s.Solvent)
    ⟨indexed_deployed, solvent_deployed⟩
    (fun hstep hself => ⟨hstep.indexed hself.1, hstep.solvent hself.1 hself.2⟩)
    (fun _ hself =>
      ⟨⟨hself.1.forecasts, hself.1.challenges⟩, ⟨hself.2.balance_eq, hself.2.credits_eq⟩⟩)
    h).2

/-- A history that stops inside a withdrawal: the recipient of a settled stake has
been paid, and funds the pool before it returns. -/
def reentrantWithdrawal : List (Move Message) :=
  opening ++
  [send 0xCC 10 (.epistemicMarket (.commitForecast 1
      0x470a3d52539f2460d48f07329f3d4f704cc54d801e5367b98185fcd305c38765 200 0)),
    send 0xCC 7 (.epistemicMarket (.openChallenge 1 0 0 "" 0)),
    send 0xDD 25 (.epistemicMarket .fundRewardPool),
    send 0xBB 0 (.replicationRegistry (.submitReplication 1 1 2 3 0)),
    send 0x0A 0 (.replicationRegistry (.resolveReplicationOutcome 1 (devnetResult .supported))),
    send 0x0A 0 (.claimRegistry (.finalizeClaimResolution 1 1)),
    send 0xCC 0 (.epistemicMarket (.revealForecast 1 .supports 7000 1)),
    send 0x0A 0 (.epistemicMarket (.settleForecast 1 1)),
    send 0xCC 0 (.epistemicMarket (.withdrawPayout 15 0xCC)),
    send 0xCC 3 (.epistemicMarket .fundRewardPool)]

theorem playDevnet_reentrantWithdrawal : (playDevnet reentrantWithdrawal).isSome := by
  decide

/-- Solvency, while that recipient runs. -/
theorem EpistemicMarket.solvent_of_reachable_reentrantWithdrawal :
    ((playDevnet reentrantWithdrawal).get
      playDevnet_reentrantWithdrawal).2.world.epistemicMarket.Solvent :=
  EpistemicMarket.solvent_of_reachable (run_playDevnet playDevnet_reentrantWithdrawal).reachable

end

end ScientificProtocol
