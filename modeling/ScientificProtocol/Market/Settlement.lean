import ScientificProtocol.Market.Solvency

/-!
# Every stake is paid out once

A forecast ends in one of three ways and a challenge in one of two, and what the
record says then it says forever. For challenges this is the guard on the status
that every exit makes. For forecasts it takes an argument, because one function
that writes a forecast, `revealForecast`, does not look at the flag `settled`.
What keeps it away from a settled forecast is time: a forecast that was settled
without having been revealed is past its deadline
(`ScientificProtocol.EpistemicMarket.Late`), and the clock does not run back.

The credits of a forecast are measured in the ledger, as the growth of the
credits over the calls that settle it. Since one call at most settles it, they
are the credit of that call.
-/

namespace ScientificProtocol

open Evm

namespace EpistemicMarket

/-- The call ends a forecast. -/
def Call.settles (forecastId : ℕ) : Call → Bool
  | .settleForecast id _ => decide (id = forecastId)
  | .forfeitUnrevealedForecast id => decide (id = forecastId)
  | .reclaimForecast id => decide (id = forecastId)
  | _ => false

/-- The call ends a challenge. -/
def Call.closes (challengeId : ℕ) : Call → Bool
  | .withdrawChallenge id => decide (id = challengeId)
  | .resolveChallenge id _ _ => decide (id = challengeId)
  | _ => false

/-! ### What a call does to one record -/

/-- What a call at time `now` does to the forecast numbered `id`. -/
inductive ForecastChange (now : ℕ) (call : Call) (id : ℕ) (f : ForecastCommitment) :
    ForecastCommitment → Prop
  | unchanged : call.settles id = false → ForecastChange now call id f f
  | committed {f' : ForecastCommitment} : call.settles id = false → f = default →
      f'.settled = false → ForecastChange now call id f f'
  | revealed {direction : ForecastDirection} {confidenceBps : UInt16} :
      call.settles id = false → f.forecastId ≠ 0 → f.revealed = false →
      now ≤ f.revealDeadline.toNat →
      ForecastChange now call id f { f with revealed := true, direction, confidenceBps }
  | settled {d : ℕ} : call.settles id = true → f.forecastId ≠ 0 → f.settled = false →
      (f.revealed = true ∨ f.revealDeadline.toNat < now) →
      ForecastChange now call id f { f with settled := true, resolutionDecisionId := d }

/-- What a call does to the challenge numbered `id`. -/
inductive ChallengeChange (call : Call) (id : ℕ) (c : ChallengeBond) : ChallengeBond → Prop
  | unchanged : call.closes id = false → ChallengeChange call id c c
  | opened {c' : ChallengeBond} : call.closes id = false → c = default → c'.status = .«open» →
      ChallengeChange call id c c'
  | closed {status : ChallengeStatus} {resolutionHash : Bytes32} {resolvedAt : ℕ} :
      call.closes id = true → c.challengeId ≠ 0 → c.status = .«open» → status ≠ .«open» →
      ChallengeChange call id c { c with status, resolutionHash, resolvedAt }

section

variable {ctx : Ctx} {claimRegistry : ClaimRegistry} {agentRegistry : AgentRegistry}
  {replicationRegistry : ReplicationRegistry} {self s : EpistemicMarket} {call : Call}

theorem Step.forecastChange
    (h : Step ctx claimRegistry agentRegistry replicationRegistry self call s)
    (hindexed : self.Indexed) (id : ℕ) :
    ForecastChange ctx.timestamp call id (self.forecasts id) (s.forecasts id) := by
  cases h with
  | fundRewardPool | openChallenge | withdrawChallenge | resolveChallenge | withdrawPayout
  | setDepositsPaused => exact .unchanged rfl
  | commitForecast =>
    by_cases hid : id = self.nextForecastId
    · subst hid
      simp only [Mapping.set_self]
      exact .committed rfl hindexed.forecasts.blank_next rfl
    · simp only [Mapping.set_of_ne _ hid]
      exact .unchanged rfl
  | @revealForecast forecastId _ _ _ _ _ hexists _ hrevealed htime =>
    -- There is no guard on `settled` here, only the two on `revealed` and on the time.
    by_cases hid : id = forecastId
    · subst hid
      simp only [Mapping.set_self]
      exact .revealed rfl hexists hrevealed htime
    · simp only [Mapping.set_of_ne _ hid]
      exact .unchanged rfl
  | @settleForecast forecastId _ _ _ _ _ _ hexists hsettled hopen =>
    by_cases hid : id = forecastId
    · subst hid
      simp only [Mapping.set_self]
      exact .settled (by simp [Call.settles]) hexists hsettled hopen
    · simp only [Mapping.set_of_ne _ hid]
      exact .unchanged (by simpa [Call.settles] using Ne.symm hid)
  | @forfeitUnrevealedForecast forecastId _ _ _ hexists hsettled _ htime =>
    by_cases hid : id = forecastId
    · subst hid
      simp only [Mapping.set_self]
      exact .settled (by simp [Call.settles]) hexists hsettled (.inr htime)
    · simp only [Mapping.set_of_ne _ hid]
      exact .unchanged (by simpa [Call.settles] using Ne.symm hid)
  | @reclaimForecast forecastId _ _ hexists _ hsettled hrevealed =>
    by_cases hid : id = forecastId
    · subst hid
      simp only [Mapping.set_self]
      exact .settled (by simp [Call.settles]) hexists hsettled (.inl hrevealed)
    · simp only [Mapping.set_of_ne _ hid]
      exact .unchanged (by simpa [Call.settles] using Ne.symm hid)

theorem Step.challengeChange
    (h : Step ctx claimRegistry agentRegistry replicationRegistry self call s)
    (hindexed : self.Indexed) (id : ℕ) :
    ChallengeChange call id (self.challenges id) (s.challenges id) := by
  cases h with
  | fundRewardPool | commitForecast | revealForecast | settleForecast | forfeitUnrevealedForecast
  | reclaimForecast | withdrawPayout | setDepositsPaused => exact .unchanged rfl
  | openChallenge =>
    by_cases hid : id = self.nextChallengeId
    · subst hid
      simp only [Mapping.set_self]
      exact .opened rfl hindexed.challenges.blank_next rfl
    · simp only [Mapping.set_of_ne _ hid]
      exact .unchanged rfl
  | @withdrawChallenge challengeId _ _ hexists _ hopen =>
    by_cases hid : id = challengeId
    · subst hid
      simp only [Mapping.set_self]
      exact .closed (by simp [Call.closes]) hexists hopen (by simp)
    · simp only [Mapping.set_of_ne _ hid]
      exact .unchanged (by simpa [Call.closes] using Ne.symm hid)
  | @resolveChallenge challengeId _ _ _ _ _ _ _ hexists hopen hstatus =>
    by_cases hid : id = challengeId
    · subst hid
      simp only [Mapping.set_self]
      exact .closed (by simp [Call.closes]) hexists hopen hstatus
    · simp only [Mapping.set_of_ne _ hid]
      exact .unchanged (by simpa [Call.closes] using Ne.symm hid)

/-! ### What a call credits -/

/-- The ledger moved by a credit of `payout` to `owner`, and by nothing else. -/
def Credits (self s : EpistemicMarket) (owner : Address) (payout : ℕ) : Prop :=
  s.withdrawablePayouts =
      self.withdrawablePayouts.set owner (self.withdrawablePayouts owner + payout) ∧
    s.totalWithdrawablePayouts = self.totalWithdrawablePayouts + payout

/-- **A call that settles a forecast credits its forecaster**, with at most twice
the stake, and nobody else. -/
theorem Step.credits_of_settles
    (h : Step ctx claimRegistry agentRegistry replicationRegistry self call s) {id : ℕ}
    (hcall : call.settles id = true) :
    ∃ payout, payout ≤ 2 * (self.forecasts id).stakeAmount ∧
      Credits self s (self.forecasts id).forecaster payout := by
  cases h with
  | settleForecast _ _ _ _ _ _ _ _ _ hpayout =>
    obtain rfl := of_decide_eq_true hcall
    exact ⟨_, hpayout ▸ self.settlementOf_le _ _, rfl, rfl⟩
  | forfeitUnrevealedForecast =>
    obtain rfl := of_decide_eq_true hcall
    exact ⟨0, Nat.zero_le _, rfl, rfl⟩
  | reclaimForecast =>
    obtain rfl := of_decide_eq_true hcall
    exact ⟨_, by omega, rfl, rfl⟩
  | _ => exact absurd hcall (by simp [Call.settles])

/-- **A call that closes a challenge credits its challenger**, with at most twice
the bond, and nobody else. -/
theorem Step.credits_of_closes
    (h : Step ctx claimRegistry agentRegistry replicationRegistry self call s) {id : ℕ}
    (hcall : call.closes id = true) :
    ∃ payout, payout ≤ 2 * (self.challenges id).bondAmount ∧
      Credits self s (self.challenges id).challenger payout := by
  cases h with
  | withdrawChallenge =>
    obtain rfl := of_decide_eq_true hcall
    exact ⟨_, by omega, rfl, rfl⟩
  | resolveChallenge _ _ _ _ _ _ hpayout =>
    obtain rfl := of_decide_eq_true hcall
    exact ⟨_, hpayout ▸ self.resolutionOf_le _ _, rfl, rfl⟩
  | _ => exact absurd hcall (by simp [Call.closes])

/-- **Every other call credits nobody.** -/
theorem Step.withdrawable_le
    (h : Step ctx claimRegistry agentRegistry replicationRegistry self call s)
    (hforecasts : ∀ id, call.settles id = false) (hchallenges : ∀ id, call.closes id = false)
    (account : Address) : s.withdrawablePayouts account ≤ self.withdrawablePayouts account := by
  cases h with
  | fundRewardPool | commitForecast | revealForecast | openChallenge | setDepositsPaused =>
    exact le_rfl
  | @settleForecast id => exact absurd (hforecasts id) (by simp [Call.settles])
  | @forfeitUnrevealedForecast id => exact absurd (hforecasts id) (by simp [Call.settles])
  | @reclaimForecast id => exact absurd (hforecasts id) (by simp [Call.settles])
  | @withdrawChallenge id => exact absurd (hchallenges id) (by simp [Call.closes])
  | @resolveChallenge id => exact absurd (hchallenges id) (by simp [Call.closes])
  | withdrawPayout =>
    simp only [Mapping.set_apply]
    split
    next heq => exact heq ▸ Nat.sub_le _ _
    next => exact le_rfl

end

end EpistemicMarket

/-! ### What a step of the protocol does to one record -/

section

variable {D : Deployment} {a : Action Message Suspended} {w w' : World}

theorem World.Step.forecast_cases (h : World.Step D a w w') (hindexed : w.epistemicMarket.Indexed)
    (id : ℕ) :
    (marketCall a = none ∧ w'.epistemicMarket.forecasts id = w.epistemicMarket.forecasts id) ∨
      ∃ call, marketCall a = some call ∧ EpistemicMarket.ForecastChange w.now call id
        (w.epistemicMarket.forecasts id) (w'.epistemicMarket.forecasts id) := by
  rcases h.epistemicMarket_cases with ⟨hnone, heq⟩ | ⟨m, call, -, hsome, hcall, -⟩ | ⟨p, rfl, rfl⟩
  · exact .inl ⟨hnone, by rw [heq]⟩
  · exact .inr ⟨call, hsome, hcall.forecastChange hindexed id⟩
  · exact .inl ⟨rfl, rfl⟩

theorem World.Step.challenge_cases (h : World.Step D a w w')
    (hindexed : w.epistemicMarket.Indexed) (id : ℕ) :
    (marketCall a = none ∧ w'.epistemicMarket.challenges id = w.epistemicMarket.challenges id) ∨
      ∃ call, marketCall a = some call ∧ EpistemicMarket.ChallengeChange call id
        (w.epistemicMarket.challenges id) (w'.epistemicMarket.challenges id) := by
  rcases h.epistemicMarket_cases with ⟨hnone, heq⟩ | ⟨m, call, -, hsome, hcall, -⟩ | ⟨p, rfl, rfl⟩
  · exact .inl ⟨hnone, by rw [heq]⟩
  · exact .inr ⟨call, hsome, hcall.challengeChange hindexed id⟩
  · exact .inl ⟨rfl, rfl⟩

/-! ### Settled without a reveal is late -/

/-- A forecast settled without having been revealed is past its deadline. -/
def EpistemicMarket.Late (now : ℕ) (s : EpistemicMarket) : Prop :=
  ∀ id, (s.forecasts id).settled = true → (s.forecasts id).revealed = false →
    (s.forecasts id).revealDeadline.toNat < now

theorem World.Step.late (h : World.Step D a w w') (hindexed : w.epistemicMarket.Indexed)
    (hlate : w.epistemicMarket.Late w.now) : w'.epistemicMarket.Late w'.now := by
  intro id hsettled hrevealed
  have hnow := h.now_le
  have hold := hlate id
  rcases h.forecast_cases hindexed id with ⟨-, heq⟩ | ⟨call, -, hchange⟩
  · rw [heq] at hsettled hrevealed ⊢
    exact (hold hsettled hrevealed).trans_le hnow
  · generalize w'.epistemicMarket.forecasts id = f' at hchange hsettled hrevealed ⊢
    cases hchange with
    | unchanged => exact (hold hsettled hrevealed).trans_le hnow
    | committed _ _ hfresh => exact absurd hsettled (by simp [hfresh])
    | revealed => exact absurd hrevealed (by simp)
    | settled _ _ _ hopen =>
      rcases hopen with hopen | hopen
      · exact absurd hopen (by simpa using hrevealed)
      · exact hopen.trans_le hnow

variable {c : Config World Suspended}

theorem EpistemicMarket.late_of_reachable (h : (protocol D).Reachable c) :
    c.world.epistemicMarket.Late c.world.now := by
  refine h.invariant (I := fun w => w.epistemicMarket.Late w.now) ?_ fun hc hlate heffect => ?_
  · rintro _ ⟨now, hasRole, -, -, rfl⟩ id hsettled -
    exact absurd hsettled Bool.false_ne_true
  · exact (World.step_of_effect heffect).late (EpistemicMarket.indexed_of_reachable hc) hlate

/-! ### What a record keeps -/

section

variable {V : Type} (ended : V → Prop) (idOf : V → ℕ) (owner : V → Address) (stake : V → ℕ)

/-- A record keeps its owner and what is at stake, and everything once it has ended. -/
def RecordKept (v v' : V) : Prop :=
  (ended v → v' = v) ∧ (idOf v ≠ 0 → idOf v' ≠ 0 ∧ owner v = owner v' ∧ stake v = stake v')

variable {ended idOf owner stake}

theorem RecordKept.refl (v : V) : RecordKept ended idOf owner stake v v :=
  ⟨fun _ => rfl, fun hid => ⟨hid, rfl, rfl⟩⟩

theorem RecordKept.trans {v₁ v₂ v₃ : V} (h₁₂ : RecordKept ended idOf owner stake v₁ v₂)
    (h₂₃ : RecordKept ended idOf owner stake v₂ v₃) :
    RecordKept ended idOf owner stake v₁ v₃ := by
  refine ⟨fun hended => ?_, fun hid => ?_⟩
  · have heq := h₁₂.1 hended
    exact (h₂₃.1 (heq ▸ hended)).trans heq
  · obtain ⟨hid₂, howner, hstake⟩ := h₁₂.2 hid
    obtain ⟨hid₃, howner', hstake'⟩ := h₂₃.2 hid₂
    exact ⟨hid₃, howner.trans howner', hstake.trans hstake'⟩

end

/-- A forecast keeps its forecaster and its stake, and everything once it is
settled. -/
abbrev ForecastKept : ForecastCommitment → ForecastCommitment → Prop :=
  RecordKept (·.settled = true) ForecastCommitment.forecastId ForecastCommitment.forecaster
    ForecastCommitment.stakeAmount

/-- A challenge keeps its challenger and its bond, and everything once it is no
longer open. -/
abbrev ChallengeKept : ChallengeBond → ChallengeBond → Prop :=
  RecordKept (·.status ≠ .«open») ChallengeBond.challengeId ChallengeBond.challenger
    ChallengeBond.bondAmount

/-- **No step changes a settled forecast.** A reveal would have to come before the
deadline that a forecast settled without one has passed. -/
theorem World.Step.forecastKept (h : World.Step D a w w') (hindexed : w.epistemicMarket.Indexed)
    (hlate : w.epistemicMarket.Late w.now) (id : ℕ) :
    ForecastKept (w.epistemicMarket.forecasts id) (w'.epistemicMarket.forecasts id) := by
  have hlate := hlate id
  rcases h.forecast_cases hindexed id with ⟨-, heq⟩ | ⟨call, -, hchange⟩
  · rw [heq]
    exact .refl _
  · generalize w'.epistemicMarket.forecasts id = f' at hchange ⊢
    generalize w.epistemicMarket.forecasts id = f at hchange hlate ⊢
    cases hchange with
    | unchanged => exact .refl _
    | committed _ hblank =>
      subst hblank
      exact ⟨fun hsettled => absurd hsettled Bool.false_ne_true, fun hid => absurd rfl hid⟩
    | revealed _ _ hrevealed htime =>
      exact ⟨fun hsettled => absurd (hlate hsettled hrevealed) (Nat.not_lt.mpr htime),
        fun hid => ⟨hid, rfl, rfl⟩⟩
    | settled _ _ hsettled =>
      exact ⟨fun hsettled' => absurd (hsettled'.symm.trans hsettled) (by simp),
        fun hid => ⟨hid, rfl, rfl⟩⟩

/-- **No step changes a challenge that is not open.** -/
theorem World.Step.challengeKept (h : World.Step D a w w') (hindexed : w.epistemicMarket.Indexed)
    (id : ℕ) :
    ChallengeKept (w.epistemicMarket.challenges id) (w'.epistemicMarket.challenges id) := by
  rcases h.challenge_cases hindexed id with ⟨-, heq⟩ | ⟨call, -, hchange⟩
  · rw [heq]
    exact .refl _
  · generalize w'.epistemicMarket.challenges id = b' at hchange ⊢
    generalize w.epistemicMarket.challenges id = b at hchange ⊢
    cases hchange with
    | unchanged => exact .refl _
    | opened _ hblank =>
      subst hblank
      exact ⟨fun hclosed => absurd rfl hclosed, fun hid => absurd rfl hid⟩
    | closed _ _ hopen =>
      exact ⟨fun hclosed => absurd hopen hclosed, fun hid => ⟨hid, rfl, rfl⟩⟩

/-! ### Histories -/

/-- The forecast numbered `id` is settled. -/
def forecastSettled (id : ℕ) (w : World) : Bool := (w.epistemicMarket.forecasts id).settled

/-- The challenge numbered `id` is over. -/
def challengeClosed (id : ℕ) (w : World) : Bool :=
  decide ((w.epistemicMarket.challenges id).status ≠ .«open»)

theorem latched_forecastSettled (id : ℕ) : (protocol D).Latched (forecastSettled id) := by
  refine ⟨?_, fun {tr c a w'} hrun heffect hsettled => ?_⟩
  · rintro _ ⟨now, hasRole, -, -, rfl⟩
    rfl
  · have hkept := (World.step_of_effect heffect).forecastKept
      (EpistemicMarket.indexed_of_reachable hrun.reachable)
      (EpistemicMarket.late_of_reachable hrun.reachable) id
    exact (congrArg ForecastCommitment.settled (hkept.1 hsettled)).trans hsettled

theorem latched_challengeClosed (id : ℕ) : (protocol D).Latched (challengeClosed id) := by
  refine ⟨?_, fun {tr c a w'} hrun heffect hclosed => ?_⟩
  · rintro _ ⟨now, hasRole, -, -, rfl⟩
    rfl
  · have hkept := (World.step_of_effect heffect).challengeKept
      (EpistemicMarket.indexed_of_reachable hrun.reachable) id
    simp only [challengeClosed, hkept.1 (of_decide_eq_true hclosed)]
    exact hclosed

/-- The growth of the credits in one step, when the step runs a call that `ends`
the record in question. -/
def creditIf (ends : EpistemicMarket.Call → Bool) (e : ProtocolEvent) : ℕ :=
  if (marketCall e.action).any ends then
    e.after.epistemicMarket.totalWithdrawablePayouts -
      e.before.epistemicMarket.totalWithdrawablePayouts
  else 0

/-- What a history has credited for one forecast. -/
def forecastCredits (id : ℕ) (tr : List ProtocolEvent) : ℕ :=
  (tr.map (creditIf (·.settles id))).sum

/-- What a history has credited for one challenge. -/
def challengeCredits (id : ℕ) (tr : List ProtocolEvent) : ℕ :=
  (tr.map (creditIf (·.closes id))).sum

/-- **A forecast becomes settled exactly in the calls that settle it.** -/
theorem World.Step.raises_forecastSettled (h : World.Step D a w w')
    (hindexed : w.epistemicMarket.Indexed) (id : ℕ) :
    (⟨w, a, w'⟩ : ProtocolEvent).raises (forecastSettled id) =
      (marketCall a).any (·.settles id) := by
  simp only [Event.raises, forecastSettled]
  rcases h.forecast_cases hindexed id with ⟨hnone, heq⟩ | ⟨call, hsome, hchange⟩
  · simp [hnone, heq]
  · rw [hsome]
    generalize w'.epistemicMarket.forecasts id = f' at hchange ⊢
    generalize w.epistemicMarket.forecasts id = f at hchange ⊢
    cases hchange with
    | unchanged hcall => simp [hcall]
    | committed hcall _ hfresh => simp [hcall, hfresh]
    | revealed hcall => simp [hcall]
    | settled hcall _ hsettled => simp [hcall, hsettled]

/-- **A challenge leaves `Open` exactly in the calls that close it.** -/
theorem World.Step.raises_challengeClosed (h : World.Step D a w w')
    (hindexed : w.epistemicMarket.Indexed) (id : ℕ) :
    (⟨w, a, w'⟩ : ProtocolEvent).raises (challengeClosed id) =
      (marketCall a).any (·.closes id) := by
  simp only [Event.raises, challengeClosed]
  rcases h.challenge_cases hindexed id with ⟨hnone, heq⟩ | ⟨call, hsome, hchange⟩
  · simp [hnone, heq]
  · rw [hsome]
    generalize w'.epistemicMarket.challenges id = b' at hchange ⊢
    generalize w.epistemicMarket.challenges id = b at hchange ⊢
    cases hchange with
    | unchanged hcall => simp [hcall]
    | opened hcall _ hopen => simp [hcall, hopen]
    | closed hcall _ hopen hclosed => simp [hcall, hopen, hclosed]

/-- Only a record that exists is ended. -/
theorem World.Step.exists_of_settles (h : World.Step D a w w')
    (hindexed : w.epistemicMarket.Indexed) {id : ℕ}
    (hends : (marketCall a).any (·.settles id) = true) :
    (w.epistemicMarket.forecasts id).forecastId ≠ 0 := by
  rcases h.forecast_cases hindexed id with ⟨hnone, -⟩ | ⟨call, hsome, hchange⟩
  · exact absurd hends (by simp [hnone])
  · rw [hsome, Option.any_some] at hends
    generalize w'.epistemicMarket.forecasts id = f' at hchange
    cases hchange with
    | settled _ hexists => exact hexists
    | unchanged hcall | committed hcall | revealed hcall => exact absurd hends (by simp [hcall])

theorem World.Step.exists_of_closes (h : World.Step D a w w')
    (hindexed : w.epistemicMarket.Indexed) {id : ℕ}
    (hends : (marketCall a).any (·.closes id) = true) :
    (w.epistemicMarket.challenges id).challengeId ≠ 0 := by
  rcases h.challenge_cases hindexed id with ⟨hnone, -⟩ | ⟨call, hsome, hchange⟩
  · exact absurd hends (by simp [hnone])
  · rw [hsome, Option.any_some] at hends
    generalize w'.epistemicMarket.challenges id = b' at hchange
    cases hchange with
    | closed _ hexists => exact hexists
    | unchanged hcall | opened hcall => exact absurd hends (by simp [hcall])

/-- What a step that runs a call of the market changes is what the call does. -/
theorem World.Step.call_of_marketCall (h : World.Step D a w w') {call : EpistemicMarket.Call}
    (hcall : marketCall a = some call) :
    ∃ m, a = .exec m ∧ EpistemicMarket.Step (w.context D m) w.claimRegistry w.agentRegistry
      w.replicationRegistry w.epistemicMarket call w'.epistemicMarket := by
  rcases h.epistemicMarket_cases with ⟨hnone, -⟩ | ⟨m, call', rfl, hsome, hstep, -⟩ | ⟨p, rfl, -⟩
  · exact absurd (hnone.symm.trans hcall) (by simp)
  · obtain rfl := Option.some.inj (hsome.symm.trans hcall)
    exact ⟨m, rfl, hstep⟩
  · exact absurd hcall (by simp [marketCall])

/-- The credit of a step is the credit the ledger shows. -/
theorem creditIf_of_credits {ends : EpistemicMarket.Call → Bool} {owner : Address} {payout : ℕ}
    (hends : (marketCall a).any ends = true)
    (h : EpistemicMarket.Credits w.epistemicMarket w'.epistemicMarket owner payout) :
    creditIf ends ⟨w, a, w'⟩ = payout := by
  simp only [creditIf, hends, if_true, h.2]
  omega

/-- What a step credits to the owner of the record it ends, if every call that ends it
credits the owner within `bound`. -/
theorem World.Step.credits_of_ends (h : World.Step D a w w') {ends : EpistemicMarket.Call → Bool}
    {owner : Address} {bound : ℕ} (hends : (marketCall a).any ends = true)
    (hcredits : ∀ {m : Message} {call : EpistemicMarket.Call},
      EpistemicMarket.Step (w.context D m) w.claimRegistry w.agentRegistry w.replicationRegistry
        w.epistemicMarket call w'.epistemicMarket → ends call = true →
      ∃ payout ≤ bound, EpistemicMarket.Credits w.epistemicMarket w'.epistemicMarket owner
        payout) :
    creditIf ends ⟨w, a, w'⟩ ≤ bound ∧ EpistemicMarket.Credits w.epistemicMarket
      w'.epistemicMarket owner (creditIf ends ⟨w, a, w'⟩) := by
  obtain ⟨call, hsome, hcall⟩ := (Option.any_eq_true _ _).mp hends
  obtain ⟨m, -, hstep⟩ := h.call_of_marketCall hsome
  obtain ⟨payout, hle, hpaid⟩ := hcredits hstep hcall
  rw [creditIf_of_credits hends hpaid]
  exact ⟨hle, hpaid⟩

theorem World.Step.credits_of_settles (h : World.Step D a w w') {id : ℕ}
    (hends : (marketCall a).any (·.settles id) = true) :
    creditIf (·.settles id) ⟨w, a, w'⟩ ≤ 2 * (w.epistemicMarket.forecasts id).stakeAmount ∧
      EpistemicMarket.Credits w.epistemicMarket w'.epistemicMarket
        (w.epistemicMarket.forecasts id).forecaster (creditIf (·.settles id) ⟨w, a, w'⟩) :=
  h.credits_of_ends hends fun hstep hsettles => hstep.credits_of_settles hsettles

theorem World.Step.credits_of_closes (h : World.Step D a w w') {id : ℕ}
    (hends : (marketCall a).any (·.closes id) = true) :
    creditIf (·.closes id) ⟨w, a, w'⟩ ≤ 2 * (w.epistemicMarket.challenges id).bondAmount ∧
      EpistemicMarket.Credits w.epistemicMarket w'.epistemicMarket
        (w.epistemicMarket.challenges id).challenger (creditIf (·.closes id) ⟨w, a, w'⟩) :=
  h.credits_of_ends hends fun hstep hcloses => hstep.credits_of_closes hcloses

/-- **A step that credits an account ends a record of that account.** -/
theorem World.Step.ends_of_credit (h : World.Step D a w w') {account : Address}
    (hgrows : w.epistemicMarket.withdrawablePayouts account <
      w'.epistemicMarket.withdrawablePayouts account) :
    ∃ id, ((marketCall a).any (·.settles id) = true ∧
        account = (w.epistemicMarket.forecasts id).forecaster) ∨
      ((marketCall a).any (·.closes id) = true ∧
        account = (w.epistemicMarket.challenges id).challenger) := by
  have hother : ∀ {owner : Address} {payout : ℕ}, EpistemicMarket.Credits w.epistemicMarket
      w'.epistemicMarket owner payout → account = owner := by
    intro owner payout hcredits
    by_contra hne
    rw [hcredits.1, Mapping.set_of_ne _ hne] at hgrows
    exact lt_irrefl _ hgrows
  by_cases hsettles : ∃ id, (marketCall a).any (·.settles id) = true
  · obtain ⟨id, hends⟩ := hsettles
    exact ⟨id, .inl ⟨hends, hother (h.credits_of_settles hends).2⟩⟩
  by_cases hcloses : ∃ id, (marketCall a).any (·.closes id) = true
  · obtain ⟨id, hends⟩ := hcloses
    exact ⟨id, .inr ⟨hends, hother (h.credits_of_closes hends).2⟩⟩
  -- Where no record ends, no entry of the ledger grows.
  refine absurd hgrows (Nat.not_lt.mpr ?_)
  rcases h.epistemicMarket_cases with ⟨-, heq⟩ | ⟨m, call, -, hsome, hstep, -⟩ | ⟨p, -, rfl⟩
  · rw [heq]
  · refine hstep.withdrawable_le (fun id => ?_) (fun id => ?_) account
    · exact Bool.eq_false_iff.mpr fun hcall => hsettles ⟨id, by simp [hsome, hcall]⟩
    · exact Bool.eq_false_iff.mpr fun hcall => hcloses ⟨id, by simp [hsome, hcall]⟩
  · exact le_rfl

/-- **No reveal of a settled forecast succeeds.** -/
theorem World.Step.not_reveal_of_settled (h : World.Step D a w w')
    (hlate : w.epistemicMarket.Late w.now) {id : ℕ} (hsettled : forecastSettled id w = true)
    (direction : ForecastDirection) (confidenceBps : UInt16) (salt : Bytes32) :
    marketCall a ≠ some (.revealForecast id direction confidenceBps salt) := by
  intro hcall
  obtain ⟨m, -, hstep⟩ := h.call_of_marketCall hcall
  generalize w'.epistemicMarket = s at hstep
  cases hstep with
  | revealForecast _ _ _ hrevealed htime =>
    exact absurd (hlate id hsettled hrevealed) (Nat.not_lt.mpr htime)

/-! ### Paid out once -/

/-- **What a history tells of one forecast.** -/
structure ForecastPaidOnce (id : ℕ) (tr : List ProtocolEvent) (w : World) : Prop where
  /-- It is settled by one step, or not at all. -/
  once : tr.countP (·.raises (forecastSettled id)) = if forecastSettled id w then 1 else 0
  /-- That step settles, forfeits or reclaims it. -/
  settled_by : ∀ e ∈ tr, e.raises (forecastSettled id) = (marketCall e.action).any (·.settles id)
  /-- From then on the record stays as it is. -/
  absorbing : ∀ e ∈ tr, forecastSettled id e.after = true →
    w.epistemicMarket.forecasts id = e.after.epistemicMarket.forecasts id
  /-- From then on nobody reveals it. -/
  not_revealed : ∀ e ∈ tr, forecastSettled id e.before = true →
    ∀ direction confidenceBps salt,
      marketCall e.action ≠ some (.revealForecast id direction confidenceBps salt)
  /-- Whoever committed it, and for how much, the record says all along. -/
  original : ∀ e ∈ tr, (e.after.epistemicMarket.forecasts id).forecastId ≠ 0 →
    (e.after.epistemicMarket.forecasts id).forecaster =
        (w.epistemicMarket.forecasts id).forecaster ∧
      (e.after.epistemicMarket.forecasts id).stakeAmount =
        (w.epistemicMarket.forecasts id).stakeAmount
  /-- The step that settles it credits its forecaster, and nobody else. -/
  credited : ∀ e ∈ tr, (marketCall e.action).any (·.settles id) = true →
    EpistemicMarket.Credits e.before.epistemicMarket e.after.epistemicMarket
      (w.epistemicMarket.forecasts id).forecaster (creditIf (·.settles id) e)
  /-- All its credits together are at most twice its stake. -/
  credits_le : forecastCredits id tr ≤ 2 * (w.epistemicMarket.forecasts id).stakeAmount

/-- **What a history tells of one challenge.** -/
structure ChallengePaidOnce (id : ℕ) (tr : List ProtocolEvent) (w : World) : Prop where
  /-- It leaves `Open` in one step, or not at all. -/
  once : tr.countP (·.raises (challengeClosed id)) = if challengeClosed id w then 1 else 0
  /-- That step withdraws or resolves it. -/
  closed_by : ∀ e ∈ tr, e.raises (challengeClosed id) = (marketCall e.action).any (·.closes id)
  /-- From then on the record stays as it is. -/
  absorbing : ∀ e ∈ tr, challengeClosed id e.after = true →
    w.epistemicMarket.challenges id = e.after.epistemicMarket.challenges id
  /-- Whoever opened it, and for how much, the record says all along. -/
  original : ∀ e ∈ tr, (e.after.epistemicMarket.challenges id).challengeId ≠ 0 →
    (e.after.epistemicMarket.challenges id).challenger =
        (w.epistemicMarket.challenges id).challenger ∧
      (e.after.epistemicMarket.challenges id).bondAmount =
        (w.epistemicMarket.challenges id).bondAmount
  /-- The step that closes it credits its challenger, and nobody else. -/
  credited : ∀ e ∈ tr, (marketCall e.action).any (·.closes id) = true →
    EpistemicMarket.Credits e.before.epistemicMarket e.after.epistemicMarket
      (w.epistemicMarket.challenges id).challenger (creditIf (·.closes id) e)
  /-- All its credits together are at most twice its bond. -/
  credits_le : challengeCredits id tr ≤ 2 * (w.epistemicMarket.challenges id).bondAmount

section

variable {tr : List ProtocolEvent}

/-- Both sides of every step of a history keep a forecast as its end does. -/
theorem forecastKept_of_run (h : (protocol D).Run tr c) (id : ℕ) : ∀ e ∈ tr,
    ForecastKept (e.before.epistemicMarket.forecasts id)
        (c.world.epistemicMarket.forecasts id) ∧
      ForecastKept (e.after.epistemicMarket.forecasts id)
        (c.world.epistemicMarket.forecasts id) :=
  h.event_relation (R := fun w w' => ForecastKept (w.epistemicMarket.forecasts id)
      (w'.epistemicMarket.forecasts id)) (fun _ => .refl _) RecordKept.trans
    fun hrun heffect => (World.step_of_effect heffect).forecastKept
      (EpistemicMarket.indexed_of_reachable hrun.reachable)
      (EpistemicMarket.late_of_reachable hrun.reachable) id

theorem challengeKept_of_run (h : (protocol D).Run tr c) (id : ℕ) : ∀ e ∈ tr,
    ChallengeKept (e.before.epistemicMarket.challenges id)
        (c.world.epistemicMarket.challenges id) ∧
      ChallengeKept (e.after.epistemicMarket.challenges id)
        (c.world.epistemicMarket.challenges id) :=
  h.event_relation (R := fun w w' => ChallengeKept (w.epistemicMarket.challenges id)
      (w'.epistemicMarket.challenges id)) (fun _ => .refl _) RecordKept.trans
    fun hrun heffect => (World.step_of_effect heffect).challengeKept
      (EpistemicMarket.indexed_of_reachable hrun.reachable) id

/-- A history credits for a record in the step that ends it, or not at all. -/
theorem credits_cases {ends : EpistemicMarket.Call → Bool} {flag : World → Bool}
    (hflag : (protocol D).Latched flag)
    (hraises : ∀ {w w' : World} {a : Action Message Suspended}, World.Step D a w w' →
      w.epistemicMarket.Indexed →
      (⟨w, a, w'⟩ : ProtocolEvent).raises flag = (marketCall a).any ends)
    (h : (protocol D).Run tr c) :
    (flag c.world = false ∧ (tr.map (creditIf ends)).sum = 0) ∨
      (flag c.world = true ∧ ∃ e ∈ tr, e.raises flag ∧
        (tr.map (creditIf ends)).sum = creditIf ends e) := by
  refine h.sum_raises hflag fun hrun heffect hdown => ?_
  rw [hraises (World.step_of_effect heffect)
    (EpistemicMarket.indexed_of_reachable hrun.reachable)] at hdown
  simp [creditIf, hdown]

theorem forecastCredits_cases (h : (protocol D).Run tr c) (id : ℕ) :
    (forecastSettled id c.world = false ∧ forecastCredits id tr = 0) ∨
      (forecastSettled id c.world = true ∧ ∃ e ∈ tr, e.raises (forecastSettled id) ∧
        forecastCredits id tr = creditIf (·.settles id) e) :=
  credits_cases (latched_forecastSettled id)
    (fun hstep hindexed => hstep.raises_forecastSettled hindexed id) h

theorem challengeCredits_cases (h : (protocol D).Run tr c) (id : ℕ) :
    (challengeClosed id c.world = false ∧ challengeCredits id tr = 0) ∨
      (challengeClosed id c.world = true ∧ ∃ e ∈ tr, e.raises (challengeClosed id) ∧
        challengeCredits id tr = creditIf (·.closes id) e) :=
  credits_cases (latched_challengeClosed id)
    (fun hstep hindexed => hstep.raises_challengeClosed hindexed id) h

/-- Every step of a history is a step of the protocol from a world with the
invariants of the market. -/
theorem step_of_run (h : (protocol D).Run tr c) {e : ProtocolEvent} (he : e ∈ tr) :
    World.Step D e.action e.before e.after ∧ e.before.epistemicMarket.Indexed ∧
      e.before.epistemicMarket.Late e.before.now := by
  obtain ⟨heffect, tr', fs, hrun⟩ := h.event_effect e he
  exact ⟨World.step_of_effect heffect, EpistemicMarket.indexed_of_reachable hrun.reachable,
    EpistemicMarket.late_of_reachable hrun.reachable⟩

theorem forecastPaidOnce (h : (protocol D).Run tr c) (id : ℕ) :
    ForecastPaidOnce id tr c.world where
  once := h.countP_raises (latched_forecastSettled id)
  settled_by e he :=
    let ⟨hstep, hindexed, _⟩ := step_of_run h he
    hstep.raises_forecastSettled hindexed id
  absorbing e he := (forecastKept_of_run h id e he).2.1
  not_revealed e he hsettled :=
    let ⟨hstep, _, hlate⟩ := step_of_run h he
    hstep.not_reveal_of_settled hlate hsettled
  original e he hexists := ((forecastKept_of_run h id e he).2.2 hexists).2
  credited e he hends := by
    obtain ⟨hstep, hindexed, -⟩ := step_of_run h he
    rw [← ((forecastKept_of_run h id e he).1.2 (hstep.exists_of_settles hindexed hends)).2.1]
    exact (hstep.credits_of_settles hends).2
  credits_le := by
    rcases forecastCredits_cases h id with ⟨-, hzero⟩ | ⟨-, e, he, hraises, heq⟩
    · rw [hzero]
      exact Nat.zero_le _
    · obtain ⟨hstep, hindexed, -⟩ := step_of_run h he
      have hends := (hstep.raises_forecastSettled hindexed id).symm.trans hraises
      rw [heq, ← ((forecastKept_of_run h id e he).1.2
        (hstep.exists_of_settles hindexed hends)).2.2]
      exact (hstep.credits_of_settles hends).1

theorem challengePaidOnce (h : (protocol D).Run tr c) (id : ℕ) :
    ChallengePaidOnce id tr c.world where
  once := h.countP_raises (latched_challengeClosed id)
  closed_by e he :=
    let ⟨hstep, hindexed, _⟩ := step_of_run h he
    hstep.raises_challengeClosed hindexed id
  absorbing e he hclosed := (challengeKept_of_run h id e he).2.1 (of_decide_eq_true hclosed)
  original e he hexists := ((challengeKept_of_run h id e he).2.2 hexists).2
  credited e he hends := by
    obtain ⟨hstep, hindexed, -⟩ := step_of_run h he
    rw [← ((challengeKept_of_run h id e he).1.2 (hstep.exists_of_closes hindexed hends)).2.1]
    exact (hstep.credits_of_closes hends).2
  credits_le := by
    rcases challengeCredits_cases h id with ⟨-, hzero⟩ | ⟨-, e, he, hraises, heq⟩
    · rw [hzero]
      exact Nat.zero_le _
    · obtain ⟨hstep, hindexed, -⟩ := step_of_run h he
      have hends := (hstep.raises_challengeClosed hindexed id).symm.trans hraises
      rw [heq, ← ((challengeKept_of_run h id e he).1.2
        (hstep.exists_of_closes hindexed hends)).2.2]
      exact (hstep.credits_of_closes hends).1

/-- **Every stake and every bond is paid out once**, to whoever posted it, and no
other step of a history credits anybody. -/
theorem paid_once (h : (protocol D).Run tr c) :
    (∀ id, ForecastPaidOnce id tr c.world) ∧ (∀ id, ChallengePaidOnce id tr c.world) ∧
      ∀ e ∈ tr, ∀ account, e.before.epistemicMarket.withdrawablePayouts account <
          e.after.epistemicMarket.withdrawablePayouts account →
        ∃ id, ((marketCall e.action).any (·.settles id) = true ∧
            account = (e.before.epistemicMarket.forecasts id).forecaster) ∨
          ((marketCall e.action).any (·.closes id) = true ∧
            account = (e.before.epistemicMarket.challenges id).challenger) :=
  ⟨forecastPaidOnce h, challengePaidOnce h, fun _ he _ => (step_of_run h he).1.ends_of_credit⟩

/-- In the history of the re-entrant withdrawal above, forecast 1 is settled once. -/
theorem paid_once_reentrantWithdrawal :
    ((playDevnet reentrantWithdrawal).get playDevnet_reentrantWithdrawal).1.countP
      (·.raises (forecastSettled 1)) = 1 :=
  ((paid_once (run_playDevnet playDevnet_reentrantWithdrawal)).1 1).once.trans
    (by decide)

end

end

end ScientificProtocol
