import ScientificProtocol.Indexer.Emitted
import ScientificProtocol.Market.Provenance

/-!
# What the market tells

A forecast is told of when it is committed, revealed and settled, and a challenge when it is
opened and closed; nothing else changes them. After the last word about a forecast, that it
is settled, there is no other, although the market does not test `settled` before it reveals
a forecast: a forecast that is settled and not revealed is past its deadline.
-/

namespace ScientificProtocol

open Evm Indexer

namespace Indexer

/-- What an event says of forecasts. -/
abbrev ChainEvent.forecastWord? : ChainEvent → Option (ℕ × Bool) :=
  ChainEvent.word? ChainEvent.forecastId? ChainEvent.settledForecastId?

/-- What an event says of challenges. -/
abbrev ChainEvent.challengeWord? : ChainEvent → Option (ℕ × Bool) :=
  ChainEvent.word? ChainEvent.challengeId? ChainEvent.closedChallengeId?

end Indexer

namespace EpistemicMarket

/-- What logs say of the forecasts and the challenges. -/
structure Told (before : EpistemicMarket) (events : List ChainEvent) (after : EpistemicMarket) :
    Prop where
  forecasts : Tells before.forecasts Nothing (events.filterMap ChainEvent.forecastId?)
    after.forecasts Nothing
  settlements : Ends (fun k => (before.forecasts k).settled = true)
    (events.filterMap ChainEvent.forecastWord?) fun k => (after.forecasts k).settled = true
  challenges : Tells before.challenges Nothing (events.filterMap ChainEvent.challengeId?)
    after.challenges Nothing
  closures : Ends (fun k => (before.challenges k).status ≠ .«open»)
    (events.filterMap ChainEvent.challengeWord?) fun k => (after.challenges k).status ≠ .«open»
  /-- What a forecast was committed on stays. -/
  commitments : ∀ k, (before.forecasts k).effectiveDecisionIdAtCommit ≠ 0 →
    (after.forecasts k).effectiveDecisionIdAtCommit =
      (before.forecasts k).effectiveDecisionIdAtCommit

/-! ### The logs of a call -/

/-- What a call says of forecasts. -/
def Call.forecastWords (self : EpistemicMarket) : Call → List (ℕ × Bool)
  | .commitForecast .. => [(self.nextForecastId, false)]
  | .revealForecast forecastId .. => [(forecastId, false)]
  | .settleForecast forecastId _ => [(forecastId, true)]
  | .forfeitUnrevealedForecast forecastId => [(forecastId, true)]
  | .reclaimForecast forecastId => [(forecastId, true)]
  | _ => []

/-- What a call says of challenges. -/
def Call.challengeWords (self : EpistemicMarket) : Call → List (ℕ × Bool)
  | .openChallenge .. => [(self.nextChallengeId, false)]
  | .withdrawChallenge challengeId => [(challengeId, true)]
  | .resolveChallenge challengeId .. => [(challengeId, true)]
  | _ => []

/-- The logs a call adds say these words. -/
def Adds (self : EpistemicMarket) (call : Call) (s : EpistemicMarket) : Prop :=
  ∃ new, s.logs = self.logs ++ new ∧
    (new.map ChainEvent.epistemicMarket).filterMap ChainEvent.forecastWord? =
      call.forecastWords self ∧
    (new.map ChainEvent.epistemicMarket).filterMap ChainEvent.challengeWord? =
      call.challengeWords self

variable {ctx : Ctx} {claimRegistry : ClaimRegistry} {agentRegistry : AgentRegistry}
  {replicationRegistry : ReplicationRegistry} {self s : EpistemicMarket}

theorem adds_settleForecast {forecastId resolutionDecisionId : ℕ}
    (h : self.settleForecast ctx claimRegistry forecastId resolutionDecisionId = .ok s) :
    self.Adds (.settleForecast forecastId resolutionDecisionId) s := by
  simp only [settleForecast, bind_eq_ok, revertIf_eq_ok, Ctx.onlyRole_eq_ok, pure_eq_ok] at h
  obtain ⟨-, -, -, -, -, -, -, -, -, -, -, -, -, -, decision, -, -, -, h⟩ := h
  split at h
  next =>
    obtain ⟨⟨payout, s'⟩, hpay, h⟩ := bind_eq_ok.mp h
    obtain rfl := Except.ok.inj h
    obtain ⟨-, rfl⟩ := eq_closed_of_payWithBonus hpay
    exact ⟨_, rfl, rfl, rfl⟩
  next =>
    obtain ⟨s', hslash, h⟩ := bind_eq_ok.mp h
    obtain rfl := Except.ok.inj h
    obtain rfl := eq_closed_of_slashIntoPool 0 hslash
    exact ⟨_, rfl, rfl, rfl⟩

theorem adds_resolveChallenge {challengeId : ℕ} {status : ChallengeStatus}
    {resolutionHash : Bytes32}
    (h : self.resolveChallenge ctx challengeId status resolutionHash = .ok s) :
    self.Adds (.resolveChallenge challengeId status resolutionHash) s := by
  simp only [resolveChallenge, bind_eq_ok, revertIf_eq_ok, Ctx.onlyRole_eq_ok, pure_eq_ok,
    Except.ok.injEq] at h
  obtain ⟨-, -, -, -, -, -, -, -, ⟨payout, s'⟩, hsettle, rfl⟩ := h
  cases status with
  | sustained =>
    simp only [settleBond, bind_eq_ok, pure_eq_ok, Except.ok.injEq, Prod.mk.injEq] at hsettle
    obtain ⟨⟨payout, s''⟩, hpay, rfl, rfl⟩ := hsettle
    obtain ⟨-, rfl⟩ := eq_closed_of_payWithBonus hpay
    exact ⟨_, List.append_assoc _ _ _, rfl, rfl⟩
  | dismissed =>
    simp only [settleBond, bind_eq_ok, pure_eq_ok, Except.ok.injEq, Prod.mk.injEq] at hsettle
    obtain ⟨s'', hslash, rfl, rfl⟩ := hsettle
    obtain rfl := eq_closed_of_slashIntoPool 0 hslash
    exact ⟨_, rfl, rfl, rfl⟩
  | escalated =>
    simp only [settleBond, bind_eq_ok, pure_eq_ok, Except.ok.injEq, Prod.mk.injEq] at hsettle
    obtain ⟨s'', hcredit, rfl, rfl⟩ := hsettle
    obtain rfl := eq_closed_of_creditPayout hcredit
    exact ⟨_, List.append_assoc _ _ _, rfl, rfl⟩
  | «open» | withdrawn =>
    simp only [settleBond, pure_eq_ok, Except.ok.injEq, Prod.mk.injEq] at hsettle
    obtain ⟨rfl, rfl⟩ := hsettle
    exact ⟨_, rfl, rfl, rfl⟩

/-- **What the logs of any call say.** -/
theorem adds_of_exec {call : Call} {o : Outcome EpistemicMarket Pending}
    (h : self.exec ctx claimRegistry agentRegistry replicationRegistry call = .ok o) :
    self.Adds call o.state := by
  simp only [exec, bind_eq_ok] at h
  obtain ⟨balance, -, h⟩ := h
  cases call with
  | fundRewardPool =>
    obtain ⟨s, hrun, rfl⟩ := map_eq_ok.mp h
    simp only [fundRewardPool, bind_eq_ok, pure_eq_ok, Except.ok.injEq] at hrun
    obtain ⟨-, -, -, -, pool, -, rfl⟩ := hrun
    exact ⟨_, rfl, rfl, rfl⟩
  | commitForecast claimId commitmentHash revealDeadline agentId =>
    obtain ⟨⟨forecastId, s⟩, hrun, rfl⟩ := map_eq_ok.mp h
    simp only [commitForecast, bind_eq_ok, revertIf_eq_ok, checkedAdd_eq_ok, pure_eq_ok,
      Except.ok.injEq, Prod.mk.injEq] at hrun
    obtain ⟨-, -, -, -, claimRecord, -, -, -, -, -, -, -, -, -, next, -, rfl, rfl⟩ := hrun
    exact ⟨_, rfl, rfl, rfl⟩
  | revealForecast forecastId direction confidenceBps salt =>
    obtain ⟨s, hrun, rfl⟩ := map_eq_ok.mp h
    simp only [revealForecast, bind_eq_ok, revertIf_eq_ok, pure_eq_ok, Except.ok.injEq] at hrun
    obtain ⟨-, -, -, -, -, -, -, -, -, -, -, -, rfl⟩ := hrun
    exact ⟨_, rfl, rfl, rfl⟩
  | settleForecast forecastId resolutionDecisionId =>
    obtain ⟨s, hrun, rfl⟩ := map_eq_ok.mp h
    have hadds := adds_settleForecast hrun
    exact hadds
  | forfeitUnrevealedForecast forecastId =>
    obtain ⟨s, hrun, rfl⟩ := map_eq_ok.mp h
    simp only [forfeitUnrevealedForecast, bind_eq_ok, revertIf_eq_ok, pure_eq_ok,
      Except.ok.injEq] at hrun
    obtain ⟨-, -, -, -, -, -, -, -, s', hslash, rfl⟩ := hrun
    obtain rfl := eq_closed_of_slashIntoPool 0 hslash
    exact ⟨_, rfl, rfl, rfl⟩
  | reclaimForecast forecastId =>
    obtain ⟨s, hrun, rfl⟩ := map_eq_ok.mp h
    simp only [reclaimForecast, bind_eq_ok, revertIf_eq_ok, pure_eq_ok, Except.ok.injEq] at hrun
    obtain ⟨-, -, -, -, -, -, -, -, s', hcredit, rfl⟩ := hrun
    obtain rfl := eq_closed_of_creditPayout hcredit
    exact ⟨_, rfl, rfl, rfl⟩
  | openChallenge claimId replicationId evidenceHash evidenceURI agentId =>
    obtain ⟨⟨challengeId, s⟩, hrun, rfl⟩ := map_eq_ok.mp h
    simp only [openChallenge, bind_eq_ok, revertIf_eq_ok, checkedAdd_eq_ok, pure_eq_ok,
      Except.ok.injEq, Prod.mk.injEq] at hrun
    obtain ⟨-, -, -, -, -, -, -, -, -, -, next, -, rfl, rfl⟩ := hrun
    exact ⟨_, rfl, rfl, rfl⟩
  | withdrawChallenge challengeId =>
    obtain ⟨s, hrun, rfl⟩ := map_eq_ok.mp h
    simp only [withdrawChallenge, bind_eq_ok, revertIf_eq_ok, checkedAdd_eq_ok, pure_eq_ok,
      Except.ok.injEq] at hrun
    obtain ⟨-, -, -, -, -, -, unlockAt, -, -, -, s', hcredit, rfl⟩ := hrun
    obtain rfl := eq_closed_of_creditPayout hcredit
    exact ⟨_, rfl, rfl, rfl⟩
  | resolveChallenge challengeId status resolutionHash =>
    obtain ⟨s, hrun, rfl⟩ := map_eq_ok.mp h
    have hadds := adds_resolveChallenge hrun
    exact hadds
  | withdrawPayout amount recipient =>
    simp only [withdrawPayout, safeTransferValue, bind_eq_ok, revertIf_eq_ok, pure_eq_ok,
      Except.ok.injEq] at h
    obtain ⟨-, -, -, -, -, -, -, -, credit, -, total, -, -, -, rfl⟩ := h
    exact ⟨[], (List.append_nil _).symm, rfl, rfl⟩
  | setDepositsPaused paused =>
    obtain ⟨s, hrun, rfl⟩ := map_eq_ok.mp h
    simp only [setDepositsPaused, bind_eq_ok, pure_eq_ok, Except.ok.injEq] at hrun
    obtain ⟨-, -, rfl⟩ := hrun
    exact ⟨_, rfl, rfl, rfl⟩

/-! ### What a call changes -/

/-- **A call changes the records it tells of**, and tells of none that has ended. -/
theorem Step.tells {call : Call}
    (h : Step ctx claimRegistry agentRegistry replicationRegistry self call s)
    (hindexed : self.Indexed) (hlate : self.Late ctx.timestamp) :
    (Tells self.forecasts Nothing ((call.forecastWords self).map Prod.fst) s.forecasts Nothing ∧
      Ends (fun k => (self.forecasts k).settled = true) (call.forecastWords self)
        fun k => (s.forecasts k).settled = true) ∧
    Tells self.challenges Nothing ((call.challengeWords self).map Prod.fst) s.challenges Nothing ∧
      Ends (fun k => (self.challenges k).status ≠ .«open») (call.challengeWords self)
        fun k => (s.challenges k).status ≠ .«open» := by
  have hforecast : ∀ {k : ℕ} {forecast : ForecastCommitment} {isLast : Bool},
      (self.forecasts k).settled = false → (isLast = true → forecast.settled = true) →
      Tells self.forecasts Nothing [k] (self.forecasts.set k forecast) Nothing ∧
        Ends (fun k => (self.forecasts k).settled = true) [(k, isLast)]
          fun k' => (self.forecasts.set k forecast k').settled = true :=
    fun hsettled hlast => ⟨.set _ _ _, Ends.set (P := fun f : ForecastCommitment =>
      f.settled = true) (by simp [hsettled]) hlast⟩
  have hchallenge : ∀ {k : ℕ} {challenge : ChallengeBond} {isLast : Bool},
      (self.challenges k).status = .«open» → (isLast = true → challenge.status ≠ .«open») →
      Tells self.challenges Nothing [k] (self.challenges.set k challenge) Nothing ∧
        Ends (fun k => (self.challenges k).status ≠ .«open») [(k, isLast)]
          fun k' => (self.challenges.set k challenge k').status ≠ .«open» :=
    fun hopen hlast => ⟨.set _ _ _, Ends.set (P := fun c : ChallengeBond =>
      c.status ≠ .«open») (by simp [hopen]) hlast⟩
  have hforecasts := And.intro (Tells.refl self.forecasts Nothing)
    (Ends.refl fun k => (self.forecasts k).settled = true)
  have hchallenges := And.intro (Tells.refl self.challenges Nothing)
    (Ends.refl fun k => (self.challenges k).status ≠ .«open»)
  cases h with
  | fundRewardPool | withdrawPayout | setDepositsPaused => exact ⟨hforecasts, hchallenges⟩
  | commitForecast =>
    refine ⟨hforecast ?_ nofun, hchallenges⟩
    rw [hindexed.forecasts.blank_next]
    rfl
  | @revealForecast forecastId _ _ _ _ _ _ _ hrevealed htime =>
    refine ⟨hforecast (Bool.eq_false_iff.mpr fun hsettled => ?_) nofun, hchallenges⟩
    exact absurd (hlate forecastId hsettled hrevealed) (Nat.not_lt.mpr htime)
  | settleForecast _ _ _ hsettled => exact ⟨hforecast hsettled fun _ => rfl, hchallenges⟩
  | forfeitUnrevealedForecast _ _ hsettled =>
    exact ⟨hforecast hsettled fun _ => rfl, hchallenges⟩
  | reclaimForecast _ _ _ hsettled => exact ⟨hforecast hsettled fun _ => rfl, hchallenges⟩
  | openChallenge =>
    refine ⟨hforecasts, hchallenge ?_ nofun⟩
    rw [hindexed.challenges.blank_next]
    rfl
  | withdrawChallenge _ _ _ hopen =>
    exact ⟨hforecasts, hchallenge hopen fun _ => by simp⟩
  | resolveChallenge _ _ _ hopen hstatus =>
    exact ⟨hforecasts, hchallenge hopen fun _ => hstatus⟩

/-- **What a forecast was committed on stays.** -/
theorem Step.commitments {call : Call}
    (h : Step ctx claimRegistry agentRegistry replicationRegistry self call s)
    (hindexed : self.Indexed) (k : ℕ) (hk : (self.forecasts k).effectiveDecisionIdAtCommit ≠ 0) :
    (s.forecasts k).effectiveDecisionIdAtCommit =
      (self.forecasts k).effectiveDecisionIdAtCommit := by
  cases h with
  | fundRewardPool | openChallenge | withdrawChallenge | resolveChallenge | withdrawPayout
  | setDepositsPaused => rfl
  | commitForecast =>
    have hne : k ≠ self.nextForecastId := by
      rintro rfl
      rw [hindexed.forecasts.blank_next] at hk
      exact hk rfl
    simp only [Mapping.set_of_ne _ hne]
  | @revealForecast forecastId | @settleForecast forecastId | @forfeitUnrevealedForecast forecastId
  | @reclaimForecast forecastId =>
    simp only [Mapping.set_apply]
    split
    next heq => rw [heq]
    next => rfl

/-! ### Stretches -/

variable {s' : EpistemicMarket} {events events' : List ChainEvent}

theorem Told.refl (self : EpistemicMarket) : Told self [] self where
  forecasts := .refl _ _
  settlements := .refl _
  challenges := .refl _ _
  closures := .refl _
  commitments _ _ := rfl

theorem Told.trans (h : Told self events s) (h' : Told s events' s') :
    Told self (events ++ events') s' where
  forecasts := List.filterMap_append ▸ h.forecasts.trans h'.forecasts
  settlements := List.filterMap_append ▸ h.settlements.trans h'.settlements
  challenges := List.filterMap_append ▸ h.challenges.trans h'.challenges
  closures := List.filterMap_append ▸ h.closures.trans h'.closures
  commitments k hk := by
    have heq := h.commitments k hk
    exact (h'.commitments k (heq ▸ hk)).trans heq

/-- What the words of a step say. -/
theorem Told.of_words {forecastWords challengeWords : List (ℕ × Bool)}
    (hforecasts : Tells self.forecasts Nothing (forecastWords.map Prod.fst) s.forecasts Nothing)
    (hsettlements : Ends (fun k => (self.forecasts k).settled = true) forecastWords
      fun k => (s.forecasts k).settled = true)
    (hchallenges : Tells self.challenges Nothing (challengeWords.map Prod.fst) s.challenges Nothing)
    (hclosures : Ends (fun k => (self.challenges k).status ≠ .«open») challengeWords
      fun k => (s.challenges k).status ≠ .«open»)
    (hcommitments : ∀ k, (self.forecasts k).effectiveDecisionIdAtCommit ≠ 0 →
      (s.forecasts k).effectiveDecisionIdAtCommit =
        (self.forecasts k).effectiveDecisionIdAtCommit)
    (hforecast : events.filterMap ChainEvent.forecastWord? = forecastWords)
    (hchallenge : events.filterMap ChainEvent.challengeWord? = challengeWords) :
    Told self events s where
  forecasts := by rwa [← map_fst_filterMap_word? _ ChainEvent.settledForecastId?, hforecast]
  settlements := by rwa [hforecast]
  challenges := by rwa [← map_fst_filterMap_word? _ ChainEvent.closedChallengeId?, hchallenge]
  closures := by rwa [hchallenge]
  commitments := hcommitments

end EpistemicMarket

namespace Indexer

variable {D : Deployment} {a : Action Message Suspended} {w w' : World}

/-- What a step of the protocol says of forecasts and challenges. -/
theorem told_epistemicMarket (h : World.Step D a w w') (hindexed : w.epistemicMarket.Indexed)
    (hlate : w.epistemicMarket.Late w.now) :
    EpistemicMarket.Told w.epistemicMarket (emitted w w') w'.epistemicMarket := by
  have hforecast : ∀ e, ChainEvent.forecastWord? e ≠ none →
      ∃ event, e = .epistemicMarket event := by
    intro e he
    cases e <;> simp_all [ChainEvent.word?, ChainEvent.forecastId?]
  have hchallenge : ∀ e, ChainEvent.challengeWord? e ≠ none →
      ∃ event, e = .epistemicMarket event := by
    intro e he
    cases e <;> simp_all [ChainEvent.word?, ChainEvent.challengeId?]
  -- A step that leaves the records alone says nothing of them.
  have hsilent : ∀ {l : List EpistemicMarket.Event},
      w'.epistemicMarket.logs = w.epistemicMarket.logs ++ l →
      w'.epistemicMarket.forecasts = w.epistemicMarket.forecasts →
      w'.epistemicMarket.challenges = w.epistemicMarket.challenges →
      l.filterMap (ChainEvent.forecastWord? ∘ .epistemicMarket) = [] →
      l.filterMap (ChainEvent.challengeWord? ∘ .epistemicMarket) = [] →
      EpistemicMarket.Told w.epistemicMarket (emitted w w') w'.epistemicMarket := by
    intro new hlogs hforecasts hchallenges hnew hnew'
    refine .of_words ?_ ?_ ?_ ?_ ?_ (filterMap_emitted_epistemicMarket hlogs hforecast)
      (filterMap_emitted_epistemicMarket hlogs hchallenge) <;>
      simp only [hforecasts, hchallenges, hnew, hnew', List.map_nil, implies_true]
    · exact .refl _ _
    · exact .refl _
    · exact .refl _ _
    · exact .refl _
  have hnew : w'.epistemicMarket = w.epistemicMarket →
      EpistemicMarket.Told w.epistemicMarket (emitted w w') w'.epistemicMarket := fun heq =>
    hsilent (l := []) (by rw [heq, List.append_nil]) (by rw [heq]) (by rw [heq]) rfl rfl
  cases h with
  | @epistemicMarket w m call o _ hexec =>
    obtain ⟨new, hlogs, hwords, hwords'⟩ := EpistemicMarket.adds_of_exec hexec
    have hstep := EpistemicMarket.step_of_exec hexec
    obtain ⟨⟨htells, hends⟩, htells', hends'⟩ := hstep.tells hindexed hlate
    refine .of_words htells hends htells' hends' (hstep.commitments hindexed)
      ((filterMap_emitted_epistemicMarket hlogs hforecast).trans ?_)
      ((filterMap_emitted_epistemicMarket hlogs hchallenge).trans ?_)
    · rw [← hwords, List.filterMap_map]
    · rw [← hwords', List.filterMap_map]
  | resume p w =>
    cases p with
    | epistemicMarket p => cases p with
      | withdrawPayout => exact hsilent rfl rfl rfl rfl rfl
    | _ => exact hnew rfl
  | _ => exact hnew rfl

/-- **What a stretch tells of forecasts and challenges.** -/
theorem Emits.epistemicMarket {c c' : Config World Suspended} {events : List ChainEvent}
    (h : Emits D c events c') (hc : (protocol D).Reachable c) :
    EpistemicMarket.Told c.world.epistemicMarket events c'.world.epistemicMarket :=
  h.relation (Q := fun c events c' => EpistemicMarket.Told c.world.epistemicMarket events
    c'.world.epistemicMarket) (fun _ => .refl _) .trans
    (fun hc hfwd => told_epistemicMarket (World.step_of_effect hfwd.effect)
      (EpistemicMarket.indexed_of_reachable hc) (EpistemicMarket.late_of_reachable hc)) hc

end Indexer

end ScientificProtocol
