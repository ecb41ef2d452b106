import ScientificProtocol.Evm.Reports
import ScientificProtocol.Indexer.Records
import ScientificProtocol.Market.Provenance

/-!
# What the market reports

The logs of the market say of a forecast by which decision it was settled, whether it
matched and what was paid, and of a challenge how it was resolved or that it was withdrawn.
Of this the record keeps a part. **The reports fit the records**
(`ScientificProtocol.Indexer.Emits.forecastReports` and
`ScientificProtocol.Indexer.Emits.challengeReports`), and the status a forecast is said to
have been judged by is the one its decision has
(`ScientificProtocol.Indexer.Emits.decided`).
-/

namespace ScientificProtocol

open Evm Indexer

namespace EpistemicMarket

/-! ### What is said of an end -/

/-- What is said of a forecast when it is settled. -/
structure Verdict where
  resolutionDecisionId : ℕ
  finalStatus : ResolutionStatus
  matched : Bool
  payoutAmount : ℕ
  deriving DecidableEq

/-- What a stake may come to: a match is paid with a bonus, and a miss with nothing, unless
the forecast was revealed and nobody decided. -/
def StakePaid (stakeAmount : ℕ) (decided revealed matched : Bool) (payoutAmount : ℕ) : Prop :=
  if matched then stakeAmount ≤ payoutAmount ∧ payoutAmount ≤ 2 * stakeAmount
  else payoutAmount = if revealed && !decided then stakeAmount else 0

/-- The verdict is the one the forecast has. -/
structure Verdict.Fits (v : Verdict) (f : ForecastCommitment) : Prop where
  settled : f.settled = true
  named : f.resolutionDecisionId = v.resolutionDecisionId
  undecided : v.resolutionDecisionId = 0 → v.finalStatus = .pending
  matched : v.matched = (f.revealed && forecastMatches f.direction v.finalStatus)
  paid : StakePaid f.stakeAmount (v.resolutionDecisionId ≠ 0) f.revealed v.matched v.payoutAmount

/-- What is said of a challenge when it is closed. -/
inductive Closure where
  | resolved (status : ChallengeStatus) (resolutionHash : Bytes32) (payoutAmount : ℕ)
  | withdrawn (refundedAmount : ℕ)
  deriving DecidableEq

/-- What a bond may come to. -/
def BondPaid (bondAmount : ℕ) (status : ChallengeStatus) (payoutAmount : ℕ) : Prop :=
  match status with
  | .sustained => bondAmount ≤ payoutAmount ∧ payoutAmount ≤ 2 * bondAmount
  | .escalated => payoutAmount = bondAmount
  | _ => payoutAmount = 0

/-- The closure is the one the challenge has. -/
def Closure.Fits : Closure → ChallengeBond → Prop
  | .resolved status resolutionHash payoutAmount, c =>
    c.status = status ∧ status ≠ .«open» ∧ status ≠ .withdrawn ∧
      c.resolutionHash = resolutionHash ∧ BondPaid c.bondAmount status payoutAmount
  | .withdrawn refundedAmount, c => c.status = .withdrawn ∧ refundedAmount = c.bondAmount

/-- The life of a forecast. -/
def forecastLife : Life ForecastCommitment Verdict where
  begun f := f.forecastId ≠ 0
  ended f := f.settled = true
  fits f v := v.Fits f
  ended_of_fits h := h.settled

/-- The life of a challenge. -/
def challengeLife : Life ChallengeBond Closure where
  begun c := c.challengeId ≠ 0
  ended c := c.status ≠ .«open»
  fits c closure := closure.Fits c
  ended_of_fits {c closure} h := by
    cases closure with
    | resolved => exact h.1 ▸ h.2.1
    | withdrawn => rw [h.1]; decide

/-! ### The logs of a call -/

def Event.forecastReport? : Event → Option (ℕ × Option Verdict)
  | .forecastCommitted forecastId .. => some (forecastId, none)
  | .forecastRevealed forecastId .. => some (forecastId, none)
  | .forecastSettled forecastId resolutionDecisionId finalStatus isMatched payoutAmount _ =>
    some (forecastId, some ⟨resolutionDecisionId, finalStatus, isMatched, payoutAmount⟩)
  | _ => none

def Event.challengeReport? : Event → Option (ℕ × Option Closure)
  | .challengeOpened challengeId .. => some (challengeId, none)
  | .challengeResolved challengeId status resolutionHash payoutAmount _ =>
    some (challengeId, some (.resolved status resolutionHash payoutAmount))
  | .challengeWithdrawn challengeId _ refundedAmount =>
    some (challengeId, some (.withdrawn refundedAmount))
  | _ => none

/-- What a call reports of forecasts. -/
def Call.forecastReports (claimRegistry : ClaimRegistry) (self : EpistemicMarket) :
    Call → List (ℕ × Option Verdict)
  | .commitForecast .. => [(self.nextForecastId, none)]
  | .revealForecast forecastId .. => [(forecastId, none)]
  | .settleForecast forecastId resolutionDecisionId =>
    let forecast := self.forecasts forecastId
    let finalStatus := (claimRegistry.decisions resolutionDecisionId).status
    [(forecastId, some
      { resolutionDecisionId, finalStatus
        matched := forecast.revealed && forecastMatches forecast.direction finalStatus
        payoutAmount := self.settlementOf forecast finalStatus })]
  | .forfeitUnrevealedForecast forecastId => [(forecastId, some ⟨0, .pending, false, 0⟩)]
  | .reclaimForecast forecastId =>
    [(forecastId, some ⟨0, .pending, false, (self.forecasts forecastId).stakeAmount⟩)]
  | _ => []

/-- What a call reports of challenges. -/
def Call.challengeReports (self : EpistemicMarket) : Call → List (ℕ × Option Closure)
  | .openChallenge .. => [(self.nextChallengeId, none)]
  | .withdrawChallenge challengeId =>
    [(challengeId, some (.withdrawn (self.challenges challengeId).bondAmount))]
  | .resolveChallenge challengeId status resolutionHash =>
    [(challengeId, some (.resolved status resolutionHash
      (self.resolutionOf (self.challenges challengeId).bondAmount status)))]
  | _ => []

/-- The logs a call adds are these reports. -/
def Logs (claimRegistry : ClaimRegistry) (self : EpistemicMarket) (call : Call)
    (s : EpistemicMarket) : Prop :=
  ∃ new, s.logs = self.logs ++ new ∧
    new.filterMap Event.forecastReport? = call.forecastReports claimRegistry self ∧
    new.filterMap Event.challengeReport? = call.challengeReports self

variable {ctx : Ctx} {claimRegistry : ClaimRegistry} {agentRegistry : AgentRegistry}
  {replicationRegistry : ReplicationRegistry} {self s : EpistemicMarket}

theorem logs_settleForecast {forecastId resolutionDecisionId : ℕ}
    (h : self.settleForecast ctx claimRegistry forecastId resolutionDecisionId = .ok s) :
    self.Logs claimRegistry (.settleForecast forecastId resolutionDecisionId) s := by
  simp only [settleForecast, ClaimRegistry.getResolutionDecision, bind_eq_ok, revertIf_eq_ok,
    Ctx.onlyRole_eq_ok, pure_eq_ok, Except.ok.injEq] at h
  obtain ⟨-, -, -, -, -, -, -, -, -, -, -, -, -, -, decision, ⟨-, -, rfl⟩, -, -, h⟩ := h
  split at h
  next hmatched =>
    obtain ⟨⟨payout, s'⟩, hpay, h⟩ := bind_eq_ok.mp h
    obtain rfl := Except.ok.inj h
    obtain ⟨rfl, rfl⟩ := eq_closed_of_payWithBonus hpay
    refine ⟨_, rfl, ?_, rfl⟩
    simp only [Call.forecastReports, settlementOf, hmatched, reduceIte]
    rfl
  next hmatched =>
    obtain ⟨s', hslash, h⟩ := bind_eq_ok.mp h
    obtain rfl := Except.ok.inj h
    obtain rfl := eq_closed_of_slashIntoPool 0 hslash
    have hmissed := Bool.eq_false_of_not_eq_true hmatched
    refine ⟨_, rfl, ?_, rfl⟩
    simp only [Call.forecastReports, settlementOf, hmissed, Bool.false_eq_true, reduceIte]
    rfl

theorem logs_resolveChallenge {challengeId : ℕ} {status : ChallengeStatus}
    {resolutionHash : Bytes32}
    (h : self.resolveChallenge ctx challengeId status resolutionHash = .ok s) :
    self.Logs claimRegistry (.resolveChallenge challengeId status resolutionHash) s := by
  simp only [resolveChallenge, bind_eq_ok, revertIf_eq_ok, Ctx.onlyRole_eq_ok, pure_eq_ok,
    Except.ok.injEq] at h
  obtain ⟨-, -, -, -, -, -, -, -, ⟨payout, s'⟩, hsettle, rfl⟩ := h
  cases status with
  | sustained =>
    simp only [settleBond, bind_eq_ok, pure_eq_ok, Except.ok.injEq, Prod.mk.injEq] at hsettle
    obtain ⟨⟨payout, s''⟩, hpay, rfl, rfl⟩ := hsettle
    obtain ⟨rfl, rfl⟩ := eq_closed_of_payWithBonus hpay
    exact ⟨_, List.append_assoc _ _ _, rfl, rfl⟩
  | dismissed =>
    simp only [settleBond, bind_eq_ok, pure_eq_ok, Except.ok.injEq, Prod.mk.injEq] at hsettle
    obtain ⟨s'', hslash, rfl, rfl⟩ := hsettle
    obtain rfl := eq_closed_of_slashIntoPool 0 hslash
    exact ⟨_, rfl, rfl, rfl⟩
  | escalated =>
    simp only [settleBond, bind_eq_ok, pure_eq_ok, Except.ok.injEq, Prod.mk.injEq] at hsettle
    obtain ⟨s'', hcredit, rfl, rfl⟩ := hsettle
    obtain rfl := eq_closed_of_creditPayout hcredit
    exact ⟨_, List.append_assoc _ _ _, rfl, rfl⟩
  | «open» | withdrawn =>
    simp only [settleBond, pure_eq_ok, Except.ok.injEq, Prod.mk.injEq] at hsettle
    obtain ⟨rfl, rfl⟩ := hsettle
    exact ⟨_, rfl, rfl, rfl⟩

/-- **What any call reports.** -/
theorem logs_of_exec {call : Call} {o : Outcome EpistemicMarket Pending}
    (h : self.exec ctx claimRegistry agentRegistry replicationRegistry call = .ok o) :
    self.Logs claimRegistry call o.state := by
  simp only [exec, bind_eq_ok] at h
  obtain ⟨balance, -, h⟩ := h
  cases call with
  | fundRewardPool =>
    obtain ⟨s, hrun, rfl⟩ := map_eq_ok.mp h
    simp only [fundRewardPool, bind_eq_ok, pure_eq_ok, Except.ok.injEq] at hrun
    obtain ⟨-, -, -, -, pool, -, rfl⟩ := hrun
    exact ⟨_, rfl, rfl, rfl⟩
  | commitForecast claimId commitmentHash revealDeadline agentId =>
    obtain ⟨⟨forecastId, s⟩, hrun, rfl⟩ := map_eq_ok.mp h
    simp only [commitForecast, bind_eq_ok, revertIf_eq_ok, checkedAdd_eq_ok, pure_eq_ok,
      Except.ok.injEq, Prod.mk.injEq] at hrun
    obtain ⟨-, -, -, -, claimRecord, -, -, -, -, -, -, -, -, -, next, -, rfl, rfl⟩ := hrun
    exact ⟨_, rfl, rfl, rfl⟩
  | revealForecast forecastId direction confidenceBps salt =>
    obtain ⟨s, hrun, rfl⟩ := map_eq_ok.mp h
    simp only [revealForecast, bind_eq_ok, revertIf_eq_ok, pure_eq_ok, Except.ok.injEq] at hrun
    obtain ⟨-, -, -, -, -, -, -, -, -, -, -, -, rfl⟩ := hrun
    exact ⟨_, rfl, rfl, rfl⟩
  | settleForecast forecastId resolutionDecisionId =>
    obtain ⟨s, hrun, rfl⟩ := map_eq_ok.mp h
    have hlogs := logs_settleForecast hrun
    exact hlogs
  | forfeitUnrevealedForecast forecastId =>
    obtain ⟨s, hrun, rfl⟩ := map_eq_ok.mp h
    simp only [forfeitUnrevealedForecast, bind_eq_ok, revertIf_eq_ok, pure_eq_ok,
      Except.ok.injEq] at hrun
    obtain ⟨-, -, -, -, -, -, -, -, s', hslash, rfl⟩ := hrun
    obtain rfl := eq_closed_of_slashIntoPool 0 hslash
    exact ⟨_, rfl, rfl, rfl⟩
  | reclaimForecast forecastId =>
    obtain ⟨s, hrun, rfl⟩ := map_eq_ok.mp h
    simp only [reclaimForecast, bind_eq_ok, revertIf_eq_ok, pure_eq_ok, Except.ok.injEq] at hrun
    obtain ⟨-, -, -, -, -, -, -, -, s', hcredit, rfl⟩ := hrun
    obtain rfl := eq_closed_of_creditPayout hcredit
    exact ⟨_, rfl, rfl, rfl⟩
  | openChallenge claimId replicationId evidenceHash evidenceURI agentId =>
    obtain ⟨⟨challengeId, s⟩, hrun, rfl⟩ := map_eq_ok.mp h
    simp only [openChallenge, bind_eq_ok, revertIf_eq_ok, checkedAdd_eq_ok, pure_eq_ok,
      Except.ok.injEq, Prod.mk.injEq] at hrun
    obtain ⟨-, -, -, -, -, -, -, -, -, -, next, -, rfl, rfl⟩ := hrun
    exact ⟨_, rfl, rfl, rfl⟩
  | withdrawChallenge challengeId =>
    obtain ⟨s, hrun, rfl⟩ := map_eq_ok.mp h
    simp only [withdrawChallenge, bind_eq_ok, revertIf_eq_ok, checkedAdd_eq_ok, pure_eq_ok,
      Except.ok.injEq] at hrun
    obtain ⟨-, -, -, -, -, -, unlockAt, -, -, -, s', hcredit, rfl⟩ := hrun
    obtain rfl := eq_closed_of_creditPayout hcredit
    exact ⟨_, rfl, rfl, rfl⟩
  | resolveChallenge challengeId status resolutionHash =>
    obtain ⟨s, hrun, rfl⟩ := map_eq_ok.mp h
    have hlogs : Logs claimRegistry { self with balance }
      (.resolveChallenge challengeId status resolutionHash) s := logs_resolveChallenge hrun
    exact hlogs
  | withdrawPayout amount recipient =>
    simp only [withdrawPayout, safeTransferValue, bind_eq_ok, revertIf_eq_ok, pure_eq_ok,
      Except.ok.injEq] at h
    obtain ⟨-, -, -, -, -, -, -, -, credit, -, total, -, -, -, rfl⟩ := h
    exact ⟨[], (List.append_nil _).symm, rfl, rfl⟩
  | setDepositsPaused paused =>
    obtain ⟨s, hrun, rfl⟩ := map_eq_ok.mp h
    simp only [setDepositsPaused, bind_eq_ok, pure_eq_ok, Except.ok.injEq] at hrun
    obtain ⟨-, -, rfl⟩ := hrun
    exact ⟨_, rfl, rfl, rfl⟩

/-! ### Reports are true -/

/-- A forecast that matches is paid its stake and a bonus. -/
theorem stakePaid_settlementOf (self : EpistemicMarket) (f : ForecastCommitment)
    (finalStatus : ResolutionStatus) :
    StakePaid f.stakeAmount true f.revealed
      (f.revealed && forecastMatches f.direction finalStatus)
      (self.settlementOf f finalStatus) := by
  have hbonus := self.bonusOf_le_stake f.stakeAmount
  unfold StakePaid settlementOf
  split
  next => omega
  next => simp

theorem bondPaid_resolutionOf (self : EpistemicMarket) (bondAmount : ℕ)
    (status : ChallengeStatus) :
    BondPaid bondAmount status (self.resolutionOf bondAmount status) := by
  have hbonus := self.bonusOf_le_stake bondAmount
  cases status <;> simp only [BondPaid, resolutionOf]
  omega

/-- Nothing matches a forecast that nobody has judged. -/
theorem forecastMatches_pending (direction : ForecastDirection) :
    forecastMatches direction .pending = false := by
  cases direction <;> rfl

/-- **A call reports what it does.** -/
theorem Step.reports {call : Call}
    (h : Step ctx claimRegistry agentRegistry replicationRegistry self call s)
    (hindexed : self.Indexed) (hstaked : ∀ id, Staked (self.forecasts id))
    (hlate : self.Late ctx.timestamp) :
    Reports forecastLife self.forecasts (call.forecastReports claimRegistry self) s.forecasts ∧
      Reports challengeLife self.challenges (call.challengeReports self) s.challenges := by
  have hforecasts := Reports.refl forecastLife self.forecasts
  have hchallenges := Reports.refl challengeLife self.challenges
  cases h with
  | fundRewardPool | withdrawPayout | setDepositsPaused => exact ⟨hforecasts, hchallenges⟩
  | commitForecast =>
    refine ⟨.set ?_ hindexed.forecasts.next_pos.ne' (by simp [forecastLife, committed]) nofun,
      hchallenges⟩
    rw [hindexed.forecasts.blank_next]
    exact Bool.false_ne_true
  | @revealForecast forecastId _ _ _ _ _ hexists _ hrevealed htime =>
    have hopen : (self.forecasts forecastId).settled ≠ true := fun hsettled =>
      absurd (hlate forecastId hsettled hrevealed) (Nat.not_lt.mpr htime)
    exact ⟨.set hopen hexists (fun h => absurd h hopen) nofun, hchallenges⟩
  | @settleForecast forecastId resolutionDecisionId _ _ _ _ _ hexists hsettled _ _ hnewer =>
    refine ⟨.set (Bool.eq_false_iff.mp hsettled) hexists nofun fun v hv => ?_, hchallenges⟩
    obtain rfl := Option.some.inj hv
    have hpos : resolutionDecisionId ≠ 0 := by omega
    refine ⟨rfl, rfl, fun hzero => absurd hzero hpos, rfl, ?_⟩
    have hpaid := self.stakePaid_settlementOf (self.forecasts forecastId)
      (claimRegistry.decisions resolutionDecisionId).status
    simpa [hpos] using hpaid
  | @forfeitUnrevealedForecast forecastId _ _ _ hexists hsettled hrevealed =>
    refine ⟨.set (Bool.eq_false_iff.mp hsettled) hexists nofun fun v hv => ?_, hchallenges⟩
    obtain rfl := Option.some.inj hv
    refine ⟨rfl, (hstaked forecastId).unnamed hsettled, fun _ => rfl, ?_, ?_⟩
    · simp [forecastMatches_pending]
    · simp [StakePaid, hrevealed]
  | @reclaimForecast forecastId _ _ hexists _ hsettled hrevealed =>
    refine ⟨.set (Bool.eq_false_iff.mp hsettled) hexists nofun fun v hv => ?_, hchallenges⟩
    obtain rfl := Option.some.inj hv
    refine ⟨rfl, (hstaked forecastId).unnamed hsettled, fun _ => rfl, ?_, ?_⟩
    · simp [forecastMatches_pending]
    · simp [StakePaid, hrevealed]
  | openChallenge =>
    refine ⟨hforecasts, .set ?_ hindexed.challenges.next_pos.ne' (by simp [challengeLife]) nofun⟩
    rw [hindexed.challenges.blank_next]
    exact fun h => h rfl
  | withdrawChallenge _ hexists _ hopen =>
    refine ⟨hforecasts, .set (fun h => h hopen) hexists nofun fun c hc => ?_⟩
    obtain rfl := Option.some.inj hc
    exact ⟨rfl, rfl⟩
  | @resolveChallenge challengeId status _ _ _ _ _ _ hexists hopen hstatus hstatus' =>
    refine ⟨hforecasts, .set (fun h => h hopen) hexists nofun fun c hc => ?_⟩
    obtain rfl := Option.some.inj hc
    exact ⟨rfl, hstatus, hstatus', rfl, self.bondPaid_resolutionOf _ status⟩

/-- A decision that is reported is there, with the status that is reported. -/
theorem Step.decided {call : Call} {k : ℕ} {v : Verdict}
    (h : Step ctx claimRegistry agentRegistry replicationRegistry self call s)
    (hv : (k, some v) ∈ call.forecastReports claimRegistry self)
    (hd : v.resolutionDecisionId ≠ 0) :
    (claimRegistry.decisions v.resolutionDecisionId).decisionId ≠ 0 ∧
      (claimRegistry.decisions v.resolutionDecisionId).status = v.finalStatus := by
  cases h with
  | settleForecast _ _ _ _ _ _ _ hdecision =>
    obtain ⟨rfl, heq⟩ := Prod.mk.inj (List.mem_singleton.mp hv)
    obtain rfl := Option.some.inj heq
    exact ⟨hdecision, rfl⟩
  | forfeitUnrevealedForecast | reclaimForecast =>
    obtain ⟨rfl, heq⟩ := Prod.mk.inj (List.mem_singleton.mp hv)
    obtain rfl := Option.some.inj heq
    exact absurd rfl hd
  | _ => simp [Call.forecastReports] at hv

end EpistemicMarket

namespace Indexer

open EpistemicMarket

/-! ### Stretches -/

def ChainEvent.forecastReport? : ChainEvent → Option (ℕ × Option Verdict)
  | .epistemicMarket event => event.forecastReport?
  | _ => none

def ChainEvent.challengeReport? : ChainEvent → Option (ℕ × Option Closure)
  | .epistemicMarket event => event.challengeReport?
  | _ => none

theorem said_of_forecastReport? (e : ChainEvent) (h : e.forecastReport? ≠ none) :
    ∃ event, e = .epistemicMarket event := by
  cases e with
  | epistemicMarket event => exact ⟨event, rfl⟩
  | _ => exact absurd rfl h

theorem said_of_challengeReport? (e : ChainEvent) (h : e.challengeReport? ≠ none) :
    ∃ event, e = .epistemicMarket event := by
  cases e with
  | epistemicMarket event => exact ⟨event, rfl⟩
  | _ => exact absurd rfl h

section

variable {D : Deployment} {c c' : Config World Suspended} {events : List ChainEvent}

/-- What a step of the protocol reports of forecasts and challenges. -/
theorem reports_epistemicMarket {a : Action Message Suspended} {w w' : World}
    (h : World.Step D a w w') (hindexed : w.epistemicMarket.Indexed)
    (hstaked : ∀ id, Staked (w.epistemicMarket.forecasts id))
    (hlate : w.epistemicMarket.Late w.now) :
    Reports forecastLife w.epistemicMarket.forecasts
        ((emitted w w').filterMap ChainEvent.forecastReport?) w'.epistemicMarket.forecasts ∧
      Reports challengeLife w.epistemicMarket.challenges
        ((emitted w w').filterMap ChainEvent.challengeReport?) w'.epistemicMarket.challenges := by
  have hnew : ∀ {new : List EpistemicMarket.Event} {forecastReports challengeReports},
      w'.epistemicMarket.logs = w.epistemicMarket.logs ++ new →
      new.filterMap Event.forecastReport? = forecastReports →
      new.filterMap Event.challengeReport? = challengeReports →
      (emitted w w').filterMap ChainEvent.forecastReport? = forecastReports ∧
        (emitted w w').filterMap ChainEvent.challengeReport? = challengeReports :=
    fun hlogs h h' => ⟨(filterMap_emitted_epistemicMarket hlogs said_of_forecastReport?).trans h,
      (filterMap_emitted_epistemicMarket hlogs said_of_challengeReport?).trans h'⟩
  have hsame : ∀ {new : List EpistemicMarket.Event},
      w'.epistemicMarket.logs = w.epistemicMarket.logs ++ new →
      new.filterMap Event.forecastReport? = [] → new.filterMap Event.challengeReport? = [] →
      w'.epistemicMarket.forecasts = w.epistemicMarket.forecasts →
      w'.epistemicMarket.challenges = w.epistemicMarket.challenges →
      Reports forecastLife w.epistemicMarket.forecasts
          ((emitted w w').filterMap ChainEvent.forecastReport?) w'.epistemicMarket.forecasts ∧
        Reports challengeLife w.epistemicMarket.challenges
          ((emitted w w').filterMap ChainEvent.challengeReport?)
          w'.epistemicMarket.challenges := by
    intro new hlogs hnone hnone' hforecasts hchallenges
    obtain ⟨h, h'⟩ := hnew hlogs hnone hnone'
    rw [h, h', hforecasts, hchallenges]
    exact ⟨.refl _ _, .refl _ _⟩
  cases h with
  | @epistemicMarket w m call o _ hexec =>
    obtain ⟨new, hlogs, hreports, hreports'⟩ := logs_of_exec hexec
    obtain ⟨h, h'⟩ := hnew hlogs hreports hreports'
    rw [h, h']
    exact (step_of_exec hexec).reports hindexed hstaked hlate
  | resume p w =>
    cases p with
    | epistemicMarket p => cases p with
      | withdrawPayout => exact hsame rfl rfl rfl rfl rfl
    | _ => exact hsame (List.append_nil _).symm rfl rfl rfl rfl
  | _ => exact hsame (List.append_nil _).symm rfl rfl rfl rfl

/-- **What a stretch reports of forecasts.** -/
theorem Emits.forecastReports (h : Emits D c events c') (hc : (protocol D).Reachable c) :
    Reports forecastLife c.world.epistemicMarket.forecasts
      (events.filterMap ChainEvent.forecastReport?) c'.world.epistemicMarket.forecasts :=
  h.relation (Q := fun c events c' => Reports forecastLife c.world.epistemicMarket.forecasts
      (events.filterMap ChainEvent.forecastReport?) c'.world.epistemicMarket.forecasts)
    (fun _ => .refl _ _) (fun h h' => List.filterMap_append ▸ h.trans h')
    (fun hc hfwd => (reports_epistemicMarket (World.step_of_effect hfwd.effect)
      (indexed_of_reachable hc) (staked_of_reachable hc) (late_of_reachable hc)).1) hc

/-- **What a stretch reports of challenges.** -/
theorem Emits.challengeReports (h : Emits D c events c') (hc : (protocol D).Reachable c) :
    Reports challengeLife c.world.epistemicMarket.challenges
      (events.filterMap ChainEvent.challengeReport?) c'.world.epistemicMarket.challenges :=
  h.relation (Q := fun c events c' => Reports challengeLife c.world.epistemicMarket.challenges
      (events.filterMap ChainEvent.challengeReport?) c'.world.epistemicMarket.challenges)
    (fun _ => .refl _ _) (fun h h' => List.filterMap_append ▸ h.trans h')
    (fun hc hfwd => (reports_epistemicMarket (World.step_of_effect hfwd.effect)
      (indexed_of_reachable hc) (staked_of_reachable hc) (late_of_reachable hc)).2) hc

/-- The decision a forecast is settled by is there, with the status that is told. -/
theorem decided_of_forward {a : Action Message Suspended} (hfwd : (protocol D).Forward c a c')
    {k : ℕ} {v : Verdict}
    (hv : (k, some v) ∈ (emitted c.world c'.world).filterMap ChainEvent.forecastReport?)
    (hd : v.resolutionDecisionId ≠ 0) :
    (c.world.claimRegistry.decisions v.resolutionDecisionId).decisionId ≠ 0 ∧
      (c.world.claimRegistry.decisions v.resolutionDecisionId).status = v.finalStatus := by
  have heffect := World.step_of_effect hfwd.effect
  generalize c.world = w at *
  generalize c'.world = w' at *
  have hsilent : ∀ {new : List EpistemicMarket.Event},
      w'.epistemicMarket.logs = w.epistemicMarket.logs ++ new →
      new.filterMap Event.forecastReport? = [] → False := fun hlogs hnew => by
    have hnone := (filterMap_emitted_epistemicMarket hlogs said_of_forecastReport?).trans hnew
    rw [hnone] at hv
    exact List.not_mem_nil hv
  cases heffect with
  | @epistemicMarket w m call o _ hexec =>
    obtain ⟨new, hlogs, hreports, -⟩ := logs_of_exec hexec
    rw [(filterMap_emitted_epistemicMarket hlogs said_of_forecastReport?).trans hreports] at hv
    exact (step_of_exec hexec).decided hv hd
  | resume p w =>
    cases p with
    | epistemicMarket p => cases p with
      | withdrawPayout => exact (hsilent rfl rfl).elim
    | _ => exact (hsilent (List.append_nil _).symm rfl).elim
  | _ => exact (hsilent (List.append_nil _).symm rfl).elim

/-- **The decisions that forecasts are settled by** stay as they are told. -/
theorem Emits.decided (h : Emits D c events c') (hc : (protocol D).Reachable c) {k : ℕ}
    {v : Verdict} (hv : (k, some v) ∈ events.filterMap ChainEvent.forecastReport?)
    (hd : v.resolutionDecisionId ≠ 0) :
    (c'.world.claimRegistry.decisions v.resolutionDecisionId).decisionId ≠ 0 ∧
      (c'.world.claimRegistry.decisions v.resolutionDecisionId).status = v.finalStatus := by
  induction h with
  | refl => exact absurd hv (by simp)
  | @snoc c₁ c₂ events a hemits hfwd ih =>
    have hkept := (Emits.journal ((Machine.Emits.refl c₁).snoc hfwd) (hemits.reachable hc)).kept
      v.resolutionDecisionId
    have htold : (c₁.world.claimRegistry.decisions v.resolutionDecisionId).decisionId ≠ 0 ∧
        (c₁.world.claimRegistry.decisions v.resolutionDecisionId).status = v.finalStatus := by
      rw [List.filterMap_append] at hv
      rcases List.mem_append.mp hv with hv | hv
      · exact ih hv
      · exact decided_of_forward hfwd hv hd
    rwa [hkept htold.1]

end

theorem map_fst_forecastReport? (e : ChainEvent) :
    e.forecastReport?.map Prod.fst = e.forecastId? := by
  cases e with
  | epistemicMarket e => cases e <;> rfl
  | _ => rfl

theorem map_fst_challengeReport? (e : ChainEvent) :
    e.challengeReport?.map Prod.fst = e.challengeId? := by
  cases e with
  | epistemicMarket e => cases e <;> rfl
  | _ => rfl

end Indexer

end ScientificProtocol
