import ScientificProtocol.Claims.History
import ScientificProtocol.Market.Settlement

/-!
# Forecasts on a known outcome

The market means to pay no bonus on an outcome that was known when the forecast was
committed, and guards that by the pointer of the claim: a forecast can only be
settled by a decision newer than the one effective at the commitment. But an outcome
is on chain from the moment its replication is resolved, and becomes a decision only
when somebody finalizes it. Between the two, anybody can commit a forecast on it, and
the guard lets the bonus through (`ScientificProtocol.bonus_on_known_outcome`).

That is the only way. In a history in which no forecast is committed on a claim while
an earlier resolved replication of it can still decide
(`ScientificProtocol.CanDecide`), every forecast that earns a bonus was committed
before its outcome was known (`ScientificProtocol.bonus_only_on_unknown_outcome`). The
invariant says of each forecast what still threatens it
(`ScientificProtocol.Unforeseen`): the effective decision, if it is newer than the
forecast, copies a replication resolved no earlier; and whatever was resolved earlier
and has no decision can no longer take effect.
-/

namespace ScientificProtocol

open Evm

/-! ### Outcomes that can still decide -/

/-- A replication that is resolved but has no decision yet, and whose decision can
still take effect: now, or once the claim has moved up to where it can. -/
structure CanDecide (claimRegistry : ClaimRegistry) (replicationRegistry : ReplicationRegistry)
    (claimId r : ℕ) : Prop where
  claimId_eq : (replicationRegistry.replications r).claimId = claimId
  resolved : (replicationRegistry.replications r).resolvedAt ≠ 0
  undecided : claimRegistry.replicationDecisionId r = 0
  /-- What it says stands higher than the status of the claim, or confirms it as the
  first decision. -/
  takesEffect : ∃ claimStatus, ClaimRegistry.getClaimStatusForResolution
      (replicationRegistry.replications r).resolutionStatus = .ok claimStatus ∧
    (ClaimRegistry.rank (claimRegistry.claims claimId).status < ClaimRegistry.rank claimStatus ∨
      claimStatus = (claimRegistry.claims claimId).status ∧
        claimRegistry.effectiveClaimDecisionId claimId = 0)

/-- A call of the claim registry makes nothing able to decide that was not. -/
theorem ClaimRegistry.Step.canDecide {ctx : Ctx} {parameters : ProtocolParameters}
    {moduleRegistry : ResolutionModuleRegistry} {replicationRegistry : ReplicationRegistry}
    {bondEscrow : IBondEscrow} {self s : ClaimRegistry} {call : Call} {claimId r : ℕ}
    (h : Step ctx parameters moduleRegistry replicationRegistry bondEscrow self call s)
    (hself : self.Indexed) (hagrees : self.EffectiveAgrees claimId)
    (hexists : (self.claims claimId).claimId ≠ 0)
    (hdecide : CanDecide s replicationRegistry claimId r) :
    CanDecide self replicationRegistry claimId r := by
  obtain ⟨hclaim, hresolved, hundecided, claimStatus, hstatus, htakes⟩ := hdecide
  refine ⟨hclaim, hresolved, ?_, claimStatus, hstatus, ?_⟩
  · rcases h.decision_cases with
      ⟨-, heq, -⟩ | ⟨r', decision, logs, hundecided', -, -, hr, -, -, rfl⟩
    · rwa [heq] at hundecided
    · by_cases heq : r = r'
      · rwa [heq]
      · simp only [withDecision_replicationDecisionId, hr, Mapping.set_of_ne _ heq] at hundecided
        exact hundecided
  · have hadvances := h.advances hself hexists
    rcases h.effective_le hself hagrees with heffective | heffective
    · rcases hadvances with hadvances | hadvances
      · rwa [hadvances, heffective] at htakes
      · rcases htakes with hlt | ⟨rfl, -⟩
        · exact .inl (hadvances.trans hlt)
        · exact .inl hadvances
    · rcases htakes with hlt | ⟨-, hzero⟩
      · rcases hadvances with hadvances | hadvances
        · exact .inl (hadvances ▸ hlt)
        · exact .inl (hadvances.trans hlt)
      · omega

/-- **The pointer of a claim moves only to the decision of a replication that could
decide.** -/
theorem ClaimRegistry.Step.effective_cases {ctx : Ctx} {parameters : ProtocolParameters}
    {moduleRegistry : ResolutionModuleRegistry} {replicationRegistry : ReplicationRegistry}
    {bondEscrow : IBondEscrow} {self s : ClaimRegistry} {call : Call}
    (h : Step ctx parameters moduleRegistry replicationRegistry bondEscrow self call s)
    (claimId : ℕ) :
    s.effectiveClaimDecisionId claimId = self.effectiveClaimDecisionId claimId ∨
      CanDecide self replicationRegistry claimId
        (s.decisions (s.effectiveClaimDecisionId claimId)).replicationId := by
  rcases h.decision_cases with ⟨-, -, -, -, heffective⟩ |
    ⟨r, decision, logs, hundecided, -, -, hr, hcopies, -, rfl⟩
  · rw [heffective]
    exact .inl rfl
  · by_cases hclaim : claimId = decision.claimId
    · subst hclaim
      by_cases htakes : self.TakesEffect decision.claimId decision.claimStatus
      · right
        rw [(self.withDecision_of_takesEffect htakes).2, withDecision_decisions,
          Mapping.set_self, hr]
        refine ⟨hcopies.claimId.symm, hcopies.resolved, hundecided, _, hcopies.claimStatus, ?_⟩
        rcases htakes with hallowed | hconfirms
        · exact .inl (rank_lt_of_isAllowedTransition hallowed)
        · exact .inr hconfirms
      · left
        rw [(self.withDecision_of_not_takesEffect htakes).2]
    · left
      rw [self.withDecision_effective_of_ne hclaim]

/-- A call of the replication registry makes able to decide only what it resolves. -/
theorem ReplicationRegistry.Step.canDecide {ctx : Ctx} {claimRegistry : ClaimRegistry}
    {agentRegistry : AgentRegistry} {self s : ReplicationRegistry} {call : Call} {claimId r : ℕ}
    (h : Step ctx claimRegistry agentRegistry self call s) (hself : self.Indexed)
    (hdecide : CanDecide claimRegistry s claimId r) :
    (CanDecide claimRegistry self claimId r ∧ s.replications r = self.replications r) ∨
      (s.replications r).resolvedAt = ctx.timestamp := by
  -- What was not resolved before and is now was resolved by this call, at its time.
  by_cases hresolved : (self.replications r).resolvedAt = 0
  · right
    have hnew := hdecide.resolved
    clear hdecide
    cases h with
    | submitReplication =>
      refine absurd ?_ hnew
      simp only [Mapping.set_apply]
      split
      · rfl
      · exact hresolved
    | @resolveReplicationOutcome r' =>
      by_cases hr : r = r'
      · subst hr
        simp only [Mapping.set_self]
        rfl
      · simp only [Mapping.set_of_ne _ hr] at hnew
        exact absurd hresolved hnew
  · left
    have hkept := h.frozen hself hresolved
    obtain ⟨hclaim, -, hundecided, htakes⟩ := hdecide
    rw [hkept] at hclaim htakes
    exact ⟨⟨hclaim, hresolved, hundecided, htakes⟩, hkept⟩

/-! ### What threatens a forecast -/

/-- **A forecast is unforeseen** while the effective decision, if it is newer than the
forecast, copies a replication that was not resolved before the commitment, and no
replication that was can still decide. -/
structure Unforeseen (w : World) (f : ForecastCommitment) : Prop where
  claim_exists : (w.claimRegistry.claims f.claimId).claimId ≠ 0
  committed_le : f.committedAt.toNat ≤ w.now
  effective : f.effectiveDecisionIdAtCommit < w.claimRegistry.effectiveClaimDecisionId f.claimId →
    f.committedAt.toNat ≤ (w.replicationRegistry.replications (w.claimRegistry.decisions
      (w.claimRegistry.effectiveClaimDecisionId f.claimId)).replicationId).resolvedAt
  undecided : ∀ r, CanDecide w.claimRegistry w.replicationRegistry f.claimId r →
    f.committedAt.toNat ≤ (w.replicationRegistry.replications r).resolvedAt

section

variable {D : Deployment} {c : Config World Suspended} {f : ForecastCommitment}

/-- **A call of the claim registry leaves a forecast unforeseen**: the decision it may
record copies a replication that could decide before. -/
theorem Unforeseen.claimRegistry (hf : Unforeseen c.world f) (hc : (protocol D).Reachable c)
    {m : Message} {call : ClaimRegistry.Call} {s : ClaimRegistry}
    (h : ClaimRegistry.Step (c.world.context D m) c.world.protocolParameters
      c.world.resolutionModuleRegistry c.world.replicationRegistry
      (c.world.bondEscrow.toIBondEscrow c.world.claimRegistry) c.world.claimRegistry call s) :
    Unforeseen { c.world with claimRegistry := s } f := by
  have hindexed := (registries_indexed hc).1
  have hagrees := effectiveAgrees_of_reachable hc f.claimId
  have hundecided := hf.undecided
  refine ⟨?_, hf.committed_le, fun hnewer => ?_, fun r hdecide => ?_⟩
  · rw [show (s.claims f.claimId).claimId = _ from
      congrArg ClaimRecord.claimId (h.claim_kept hindexed hf.claim_exists)]
    exact hf.claim_exists
  · rcases h.effective_cases f.claimId with heq | hdecide
    · simp only [heq] at hnewer ⊢
      have hdecision := hagrees.decision_exists (Nat.ne_zero_of_lt hnewer)
      rw [h.decision_kept hindexed hdecision]
      exact hf.effective hnewer
    · exact hundecided _ hdecide
  · exact hundecided r (h.canDecide hindexed hagrees hf.claim_exists hdecide)

/-- **A call of the replication registry leaves a forecast unforeseen**: what it
resolves, it resolves after the commitment. -/
theorem Unforeseen.replicationRegistry (hf : Unforeseen c.world f) (hc : (protocol D).Reachable c)
    {m : Message} {call : ReplicationRegistry.Call} {s : ReplicationRegistry}
    (h : ReplicationRegistry.Step (c.world.context D m) c.world.claimRegistry
      c.world.agentRegistry c.world.replicationRegistry call s) :
    Unforeseen { c.world with replicationRegistry := s } f := by
  have hindexed := (registries_indexed hc).2
  refine ⟨hf.claim_exists, hf.committed_le, fun hnewer => ?_, fun r hdecide => ?_⟩
  · have hdecision := (effectiveAgrees_of_reachable hc f.claimId).decision_exists
      (Nat.ne_zero_of_lt hnewer)
    have hcopies := (decided_of_reachable hc).copies _ hdecision
    simp only [h.frozen hindexed hcopies.resolved]
    exact hf.effective hnewer
  · rcases h.canDecide hindexed hdecide with ⟨hold, heq⟩ | hnow
    · simp only [heq]
      exact hf.undecided r hold
    · simp only [hnow]
      exact hf.committed_le

/-- **Every step leaves a forecast unforeseen.** -/
theorem Unforeseen.of_effect (hf : Unforeseen c.world f) (hc : (protocol D).Reachable c)
    {a : Action Message Suspended} {w' : World} (h : (protocol D).Effect a c.world w') :
    Unforeseen w' f := by
  have hstep := World.step_of_effect h
  have hnow := hf.committed_le.trans hstep.now_le
  rcases hstep.registries_cases with ⟨hclaims, hreplications⟩ | ⟨m, call, -, -, hcall, heq⟩ |
    ⟨m, call, -, -, hcall, heq⟩
  · refine ⟨?_, hnow, ?_, ?_⟩ <;> rw [hclaims]
    · exact hf.claim_exists
    · rw [hreplications]
      exact hf.effective
    · rw [hreplications]
      exact hf.undecided
  · rw [heq]
    exact hf.claimRegistry hc hcall
  · rw [heq]
    exact hf.replicationRegistry hc hcall

end

/-! ### Histories -/

/-- An outcome of the claim is known: a replication was resolved before the moment
the market would record for a forecast committed now, and can still decide. -/
def KnownOutcome (w : World) (claimId : ℕ) : Prop :=
  ∃ r, CanDecide w.claimRegistry w.replicationRegistry claimId r ∧
    (w.replicationRegistry.replications r).resolvedAt < (UInt64.ofNat w.now).toNat

/-- Nothing is known before anything was submitted. -/
theorem not_knownOutcome_of_next_eq_one {w : World} (hindexed : w.replicationRegistry.Indexed)
    (hnext : w.replicationRegistry.nextReplicationId = 1) (claimId : ℕ) :
    ¬KnownOutcome w claimId := by
  rintro ⟨r, hdecide, -⟩
  refine hdecide.resolved ?_
  rw [hindexed.replications.blank r (by omega)]
  rfl

/-- The call commits a forecast. -/
def EpistemicMarket.Call.commits : EpistemicMarket.Call → Bool
  | .commitForecast .. => true
  | _ => false

/-- If the step commits a forecast, no outcome of its claim is known. -/
def CommitsUnknown (e : ProtocolEvent) : Prop :=
  ∀ claimId commitmentHash revealDeadline agentId,
    marketCall e.action = some (.commitForecast claimId commitmentHash revealDeadline agentId) →
    ¬KnownOutcome e.before claimId

/-- If the step pays a bonus, the outcome was not known when the forecast was
committed. -/
def BonusOnUnknown (e : ProtocolEvent) : Prop :=
  ∀ id d, marketCall e.action = some (.settleForecast id d) →
    (e.before.epistemicMarket.forecasts id).stakeAmount < creditIf (·.settles id) e →
    (e.before.epistemicMarket.forecasts id).committedAt.toNat ≤
      (e.before.replicationRegistry.replications
        (e.before.claimRegistry.decisions d).replicationId).resolvedAt

/-- A forecast after a call of the market is the one before it, as far as its
commitment goes, or has just been committed. -/
theorem EpistemicMarket.Step.commitment_cases {ctx : Ctx} {claimRegistry : ClaimRegistry}
    {agentRegistry : AgentRegistry} {replicationRegistry : ReplicationRegistry}
    {self s : EpistemicMarket} {call : Call}
    (h : Step ctx claimRegistry agentRegistry replicationRegistry self call s) (id : ℕ) :
    ((s.forecasts id).forecastId = (self.forecasts id).forecastId ∧
        (s.forecasts id).claimId = (self.forecasts id).claimId ∧
        (s.forecasts id).committedAt = (self.forecasts id).committedAt ∧
        (s.forecasts id).effectiveDecisionIdAtCommit =
          (self.forecasts id).effectiveDecisionIdAtCommit) ∨
      ∃ claimId commitmentHash revealDeadline agentId,
        call = .commitForecast claimId commitmentHash revealDeadline agentId ∧
        (claimRegistry.claims claimId).claimId ≠ 0 ∧
        s.forecasts id = committed ctx self.nextForecastId claimId commitmentHash revealDeadline
          agentId (claimRegistry.effectiveClaimDecisionId claimId) := by
  cases h with
  | fundRewardPool | openChallenge | withdrawChallenge | resolveChallenge | withdrawPayout
  | setDepositsPaused => exact .inl ⟨rfl, rfl, rfl, rfl⟩
  | commitForecast _ hclaim =>
    by_cases hid : id = self.nextForecastId
    · subst hid
      exact .inr ⟨_, _, _, _, rfl, hclaim, Mapping.set_self _ _ _⟩
    · left
      simp only [Mapping.set_of_ne _ hid, and_self]
  | @revealForecast forecastId | @settleForecast forecastId | @forfeitUnrevealedForecast forecastId
  | @reclaimForecast forecastId =>
    left
    by_cases hid : id = forecastId
    · subst hid
      simp only [Mapping.set_self, and_self]
    · simp only [Mapping.set_of_ne _ hid, and_self]

section

variable {D : Deployment} {tr : List ProtocolEvent} {c : Config World Suspended}

/-- What threatens a forecast depends on its commitment alone. -/
theorem Unforeseen.congr {w : World} {f f' : ForecastCommitment} (hf : Unforeseen w f)
    (hclaim : f'.claimId = f.claimId) (hcommitted : f'.committedAt = f.committedAt)
    (heffective : f'.effectiveDecisionIdAtCommit = f.effectiveDecisionIdAtCommit) :
    Unforeseen w f' := by
  obtain ⟨hexists, hle, hnewer, hundecided⟩ := hf
  refine ⟨?_, ?_, ?_, ?_⟩ <;> simp only [hclaim, hcommitted, heffective]
  · exact hexists
  · exact hle
  · exact hnewer
  · exact hundecided

/-- **A forecast committed on an unknown outcome starts unforeseen.** -/
theorem unforeseen_committed {w : World} {claimId forecastId agentId : ℕ}
    {commitmentHash : Bytes32} {revealDeadline : UInt64} {m : Message}
    (hexists : (w.claimRegistry.claims claimId).claimId ≠ 0) (hunknown : ¬KnownOutcome w claimId) :
    Unforeseen w (EpistemicMarket.committed (w.context D m) forecastId claimId commitmentHash
      revealDeadline agentId (w.claimRegistry.effectiveClaimDecisionId claimId)) where
  claim_exists := hexists
  committed_le := by
    change (UInt64.ofNat w.now).toNat ≤ w.now
    rw [UInt64.toNat_ofNat']
    exact Nat.mod_le _ _
  effective hnewer := absurd hnewer (lt_irrefl _)
  undecided r hdecide := Nat.not_lt.mp fun hlt => hunknown ⟨r, hdecide, hlt⟩

/-- **No step of a history that commits on unknown outcomes only brings a forecast
into danger.** -/
theorem unforeseen_of_effect (hc : (protocol D).Reachable c) {a : Action Message Suspended}
    {w' : World} (h : (protocol D).Effect a c.world w')
    (hcommits : CommitsUnknown ⟨c.world, a, w'⟩)
    (hforecasts : ∀ id, (c.world.epistemicMarket.forecasts id).forecastId ≠ 0 →
      Unforeseen c.world (c.world.epistemicMarket.forecasts id)) (id : ℕ)
    (hexists : (w'.epistemicMarket.forecasts id).forecastId ≠ 0) :
    Unforeseen w' (w'.epistemicMarket.forecasts id) := by
  have hstep := World.step_of_effect h
  rcases hstep.epistemicMarket_cases with ⟨-, heq⟩ | ⟨m, call, -, hcall, hmarket, -⟩ | ⟨p, -, heq⟩
  · rw [heq] at hexists ⊢
    exact (hforecasts id hexists).of_effect hc h
  · rcases hmarket.commitment_cases id with ⟨hid, hclaim, hcommitted, heffective⟩ |
      ⟨claimId, commitmentHash, revealDeadline, agentId, rfl, hclaim, heq⟩
    · rw [hid] at hexists
      exact ((hforecasts id hexists).of_effect hc h).congr hclaim hcommitted heffective
    · rw [heq]
      exact (unforeseen_committed hclaim (hcommits _ _ _ _ hcall)).of_effect hc h
  · have hsame : w'.epistemicMarket.forecasts id = c.world.epistemicMarket.forecasts id := by
      rw [heq]
      rfl
    rw [hsame] at hexists ⊢
    exact (hforecasts id hexists).of_effect hc h

/-- **A bonus on an outcome that was not known**: if every forecast of a history is
committed while no outcome of its claim is known, no settlement of that history pays a
bonus on a known outcome. -/
theorem bonus_only_on_unknown_outcome (h : (protocol D).Run tr c)
    (hcommits : ∀ e ∈ tr, CommitsUnknown e) : ∀ e ∈ tr, BonusOnUnknown e := by
  refine (h.history (Q := fun tr w => (∀ e ∈ tr, CommitsUnknown e) →
    (∀ id, (w.epistemicMarket.forecasts id).forecastId ≠ 0 →
      Unforeseen w (w.epistemicMarket.forecasts id)) ∧ ∀ e ∈ tr, BonusOnUnknown e)
    ?_ ?_ hcommits).2
  · rintro _ ⟨now, hasRole, -, -, rfl⟩ -
    exact ⟨fun id hexists => absurd rfl hexists, by simp⟩
  · intro tr c a w' hrun ih heffect hcommits
    obtain ⟨hforecasts, hbonus⟩ := ih fun e he => hcommits e (List.mem_append_left _ he)
    have hlast := hcommits _ (List.mem_append_right tr (List.mem_singleton_self _))
    refine ⟨unforeseen_of_effect hrun.reachable heffect hlast hforecasts, fun e he => ?_⟩
    rcases List.mem_append.mp he with he | he
    · exact hbonus e he
    · obtain rfl := List.mem_singleton.mp he
      intro id d hcall _
      obtain ⟨m, -, hmarket⟩ := (World.step_of_effect heffect).call_of_marketCall hcall
      generalize w'.epistemicMarket = s at hmarket
      cases hmarket with
      | settleForecast _ _ hexists _ _ hcurrent hnewer =>
        -- The decision is the effective one, and newer than the commitment.
        have hunforeseen := (hforecasts id hexists).effective
        rw [← hcurrent] at hunforeseen
        exact hunforeseen hnewer

/-- A history in which a forecast is committed on claim 1, ninety-nine seconds after
the outcome it predicts was resolved, and earns a bonus. -/
def forecastAfterResolution : List (Move Message) :=
  opening ++
  [send 0xBB 0 (.replicationRegistry (.submitReplication 1 1 2 3 0)),
    send 0x0A 0 (.replicationRegistry (.resolveReplicationOutcome 1 (devnetResult .supported))),
    .tick 100,
    send 0xCC 10 (.epistemicMarket (.commitForecast 1
      0x470a3d52539f2460d48f07329f3d4f704cc54d801e5367b98185fcd305c38765 200 0)),
    send 0xCC 0 (.epistemicMarket (.revealForecast 1 .supports 7000 1)),
    send 0xDD 25 (.epistemicMarket .fundRewardPool),
    send 0x0A 0 (.claimRegistry (.finalizeClaimResolution 1 1)),
    send 0x0A 0 (.epistemicMarket (.settleForecast 1 1))]

theorem playDevnet_forecastAfterResolution : (playDevnet forecastAfterResolution).isSome := by
  decide

/-- **The market pays a bonus on a known outcome.** -/
theorem bonus_on_known_outcome :
    ∃ e ∈ ((playDevnet forecastAfterResolution).get playDevnet_forecastAfterResolution).1,
      ¬BonusOnUnknown e := by
  refine ⟨_, List.getLast_mem (by decide), fun hbonus => ?_⟩
  have hle := hbonus 1 1 (by decide) (by decide)
  revert hle
  decide

/-- In the history of the re-entrant withdrawal the forecast is committed before anything
is submitted. -/
theorem commitsUnknown_reentrantWithdrawal :
    ∀ e ∈ ((playDevnet reentrantWithdrawal).get playDevnet_reentrantWithdrawal).1,
      CommitsUnknown e := by
  have hcommits : ∀ e ∈ ((playDevnet reentrantWithdrawal).get playDevnet_reentrantWithdrawal).1,
      (marketCall e.action).any (·.commits) = true →
        e.before.replicationRegistry.nextReplicationId = 1 := by
    decide
  intro e he claimId commitmentHash revealDeadline agentId hcall
  obtain ⟨-, tr', fs, hrun⟩ := (run_playDevnet playDevnet_reentrantWithdrawal).event_effect e he
  exact not_knownOutcome_of_next_eq_one (registries_indexed hrun.reachable).2
    (hcommits e he (by rw [hcall]; rfl)) claimId

/-- So the settlement there, which is its thirteenth event, pays its bonus on an outcome
that was not known. -/
theorem bonus_only_on_unknown_outcome_reentrantWithdrawal :
    BonusOnUnknown (((playDevnet reentrantWithdrawal).get
      playDevnet_reentrantWithdrawal).1.get ⟨12, by decide⟩) :=
  bonus_only_on_unknown_outcome (run_playDevnet playDevnet_reentrantWithdrawal)
    commitsUnknown_reentrantWithdrawal _ (List.get_mem _ _)

end

end ScientificProtocol
