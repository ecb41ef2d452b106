import ScientificProtocol.Claims.History
import ScientificProtocol.Market.Settlement

/-!
# Where a settlement comes from

A settled forecast names the decision it was judged by, or none. This file says
what stands behind either. A decision it names is a decision of the forecast's own
claim, later than whatever was effective at the commitment; it was the effective
one in the very step that settled the forecast; and it still is the copy of a
resolved replication of that claim. A forecast that names none was forfeited, never
revealed and past its deadline, or reclaimed.

The records come from three contracts and were written at different times by
different callers. What brings them together is the step of the history that
settled the forecast: the guards it passed, and the two relations that carry what
it saw to the end of the history, `ScientificProtocol.ForecastKept` for the market
and `ScientificProtocol.HistoryExtends` for the registries.
-/

namespace ScientificProtocol

open Evm

namespace EpistemicMarket

/-! ### Forecasts that are not settled -/

/-- A forecast has something at stake, and names no decision before it is settled. -/
structure Staked (f : ForecastCommitment) : Prop where
  stake_pos : f.forecastId ≠ 0 → 0 < f.stakeAmount
  unnamed : f.settled = false → f.resolutionDecisionId = 0

theorem Step.staked {ctx : Ctx} {claimRegistry : ClaimRegistry} {agentRegistry : AgentRegistry}
    {replicationRegistry : ReplicationRegistry} {self s : EpistemicMarket} {call : Call}
    (h : Step ctx claimRegistry agentRegistry replicationRegistry self call s)
    (hself : ∀ id, Staked (self.forecasts id)) (id : ℕ) : Staked (s.forecasts id) := by
  have hset : ∀ (k : ℕ) (v : ForecastCommitment), Staked v →
      Staked (self.forecasts.set k v id) := by
    intro k v hv
    rw [Mapping.set_apply]
    split
    · exact hv
    · exact hself id
  cases h with
  | fundRewardPool | openChallenge | withdrawChallenge | resolveChallenge | withdrawPayout
  | setDepositsPaused => exact hself id
  | commitForecast _ _ _ hvalue => exact hset _ _ ⟨fun _ => Nat.pos_of_ne_zero hvalue, fun _ => rfl⟩
  | @revealForecast forecastId =>
    exact hset _ _ ⟨(hself forecastId).stake_pos, (hself forecastId).unnamed⟩
  | @settleForecast forecastId | @forfeitUnrevealedForecast forecastId
  | @reclaimForecast forecastId =>
    exact hset _ _ ⟨(hself forecastId).stake_pos, fun hsettled => absurd hsettled (by simp)⟩

theorem staked_of_reachable {D : Deployment} {c : Config World Suspended}
    (h : (protocol D).Reachable c) (id : ℕ) : Staked (c.world.epistemicMarket.forecasts id) :=
  EpistemicMarket.invariant (I := fun s => ∀ id, Staked (s.forecasts id))
    (fun _ => ⟨fun hexists => absurd rfl hexists, fun _ => rfl⟩)
    (fun hstep hself => hstep.staked hself) (fun _ hself => hself) h id

/-! ### The three ways a forecast ends -/

/-- **What settled a forecast**: the call, what it left of the record, and what it
credited. -/
inductive Settlement (now : ℕ) (claimRegistry : ClaimRegistry) (self : EpistemicMarket) (id : ℕ) :
    Call → ForecastCommitment → ℕ → Prop
  | decided {d : ℕ} : claimRegistry.effectiveClaimDecisionId (self.forecasts id).claimId = d →
      (self.forecasts id).effectiveDecisionIdAtCommit < d →
      (claimRegistry.decisions d).decisionId ≠ 0 →
      (claimRegistry.decisions d).claimId = (self.forecasts id).claimId →
      Settlement now claimRegistry self id (.settleForecast id d)
        { self.forecasts id with settled := true, resolutionDecisionId := d }
        (self.settlementOf (self.forecasts id) (claimRegistry.decisions d).status)
  | forfeited : (self.forecasts id).revealed = false →
      (self.forecasts id).revealDeadline.toNat < now →
      Settlement now claimRegistry self id (.forfeitUnrevealedForecast id)
        { self.forecasts id with settled := true } 0
  | reclaimed : (self.forecasts id).revealed = true →
      Settlement now claimRegistry self id (.reclaimForecast id)
        { self.forecasts id with settled := true } (self.forecasts id).stakeAmount

/-- Every call that settles a forecast does so in one of the three ways. -/
theorem Step.settlement {ctx : Ctx} {claimRegistry : ClaimRegistry} {agentRegistry : AgentRegistry}
    {replicationRegistry : ReplicationRegistry} {self s : EpistemicMarket} {call : Call} {id : ℕ}
    (h : Step ctx claimRegistry agentRegistry replicationRegistry self call s)
    (hcall : call.settles id = true) :
    ∃ payout, Settlement ctx.timestamp claimRegistry self id call (s.forecasts id) payout ∧
      (self.forecasts id).settled = false ∧
      Credits self s (self.forecasts id).forecaster payout := by
  cases h with
  | settleForecast _ _ _ hsettled _ hcurrent hnewer hdecision hclaim hpayout =>
    obtain rfl := of_decide_eq_true hcall
    rw [Mapping.set_self]
    exact ⟨_, .decided hcurrent.symm hnewer hdecision hclaim, hsettled, hpayout ▸ ⟨rfl, rfl⟩⟩
  | forfeitUnrevealedForecast _ _ hsettled hrevealed htime =>
    obtain rfl := of_decide_eq_true hcall
    rw [Mapping.set_self]
    exact ⟨_, .forfeited hrevealed htime, hsettled, rfl, rfl⟩
  | reclaimForecast _ _ _ hsettled hrevealed =>
    obtain rfl := of_decide_eq_true hcall
    rw [Mapping.set_self]
    exact ⟨_, .reclaimed hrevealed, hsettled, rfl, rfl⟩
  | _ => exact absurd hcall (by simp [Call.settles])

/-- A forecast with something at stake is credited something exactly if it was
revealed and matches. -/
theorem settlementOf_pos_iff (self : EpistemicMarket) {f : ForecastCommitment}
    {finalStatus : ResolutionStatus} (hstake : 0 < f.stakeAmount) :
    0 < self.settlementOf f finalStatus ↔
      f.revealed = true ∧ forecastMatches f.direction finalStatus = true := by
  unfold settlementOf
  split
  next hmatched => simpa [hstake] using hmatched
  next hmatched => simpa using hmatched

end EpistemicMarket

/-! ### The end of a history -/

/-- **What stands behind a verdict**, for a forecast that names a decision. -/
structure SettledByDecision (id : ℕ) (tr : List ProtocolEvent) (w : World) (d : ℕ) : Prop where
  /-- The decision exists, and is one of the forecast's own claim. -/
  decision_exists : (w.claimRegistry.decisions d).decisionId = d
  claimId : (w.claimRegistry.decisions d).claimId = (w.epistemicMarket.forecasts id).claimId
  /-- It is newer than what was effective at the commitment. -/
  newer : (w.epistemicMarket.forecasts id).effectiveDecisionIdAtCommit < d
  /-- It was effective in the step that settled the forecast by it. -/
  effective : ∃ e ∈ tr, marketCall e.action = some (.settleForecast id d) ∧
    e.raises (forecastSettled id) = true ∧
    e.before.claimRegistry.effectiveClaimDecisionId (w.epistemicMarket.forecasts id).claimId = d
  /-- It is the copy of a resolved replication of that claim. -/
  copies : Copies (w.claimRegistry.decisions d)
    (w.replicationRegistry.replications (w.claimRegistry.decisions d).replicationId)
  /-- The forecaster was credited something exactly for a revealed forecast that
  matches. -/
  credited : 0 < forecastCredits id tr ↔ (w.epistemicMarket.forecasts id).revealed = true ∧
    EpistemicMarket.forecastMatches (w.epistemicMarket.forecasts id).direction
      (w.claimRegistry.decisions d).status = true

/-- **What stands behind a settlement without a verdict**: the forecast was never
revealed, and forfeited after its deadline, or it was revealed, and its stake was
given back. -/
def SettledWithoutDecision (id : ℕ) (tr : List ProtocolEvent) (w : World) : Prop :=
  (∃ e ∈ tr, marketCall e.action = some (.forfeitUnrevealedForecast id) ∧
      e.raises (forecastSettled id) = true ∧
      (w.epistemicMarket.forecasts id).revealDeadline.toNat < e.before.now ∧
      (w.epistemicMarket.forecasts id).revealed = false ∧ forecastCredits id tr = 0) ∨
    ∃ e ∈ tr, marketCall e.action = some (.reclaimForecast id) ∧
      e.raises (forecastSettled id) = true ∧
      (w.epistemicMarket.forecasts id).revealed = true ∧
      forecastCredits id tr = (w.epistemicMarket.forecasts id).stakeAmount

section

variable {D : Deployment} {tr : List ProtocolEvent} {c : Config World Suspended}

/-- **The step that settled a forecast**, with what the end of the history still has
of it. -/
theorem exists_settlement (h : (protocol D).Run tr c) {id : ℕ}
    (hsettled : (c.world.epistemicMarket.forecasts id).settled = true) :
    ∃ e ∈ tr, e.raises (forecastSettled id) = true ∧ ∃ call,
      marketCall e.action = some call ∧
      EpistemicMarket.Settlement e.before.now e.before.claimRegistry e.before.epistemicMarket id
        call (c.world.epistemicMarket.forecasts id) (forecastCredits id tr) ∧
      EpistemicMarket.Staked (e.before.epistemicMarket.forecasts id) ∧
      (e.before.epistemicMarket.forecasts id).settled = false ∧
      (e.before.epistemicMarket.forecasts id).forecastId ≠ 0 := by
  rcases forecastCredits_cases h id with ⟨hopen, -⟩ | ⟨-, e, he, hraises, hcredits⟩
  · exact absurd (hopen.symm.trans hsettled) Bool.false_ne_true
  · obtain ⟨hstep, hindexed, -⟩ := step_of_run h he
    obtain ⟨-, tr', fs, hrun⟩ := h.event_effect e he
    have hends := (hstep.raises_forecastSettled hindexed id).symm.trans hraises
    obtain ⟨call, hsome, hcall⟩ := (Option.any_eq_true _ _).mp hends
    obtain ⟨m, hm, hmarket⟩ := hstep.call_of_marketCall hsome
    obtain ⟨payout, hsettlement, hunsettled, hpaid⟩ := hmarket.settlement hcall
    have hafter : forecastSettled id e.after = true := by
      simp only [Event.raises, Bool.and_eq_true] at hraises
      exact hraises.2
    rw [← (forecastKept_of_run h id e he).2.1 hafter, ← creditIf_of_credits hends hpaid,
      ← hcredits] at hsettlement
    exact ⟨e, he, hraises, call, hsome, hsettlement,
      EpistemicMarket.staked_of_reachable hrun.reachable id, hunsettled,
      hstep.exists_of_settles hindexed hends⟩

/-- **Where a settlement comes from**, in every history of the protocol. -/
theorem settlement_provenance (id : ℕ) (h : (protocol D).Run tr c)
    (hsettled : (c.world.epistemicMarket.forecasts id).settled = true) :
    ((c.world.epistemicMarket.forecasts id).resolutionDecisionId ≠ 0 →
      SettledByDecision id tr c.world
        (c.world.epistemicMarket.forecasts id).resolutionDecisionId) ∧
    ((c.world.epistemicMarket.forecasts id).resolutionDecisionId = 0 →
      SettledWithoutDecision id tr c.world) := by
  obtain ⟨e, he, hraises, call, hcall, hsettlement, hstaked, hunsettled, hexists⟩ :=
    exists_settlement h hsettled
  have hunnamed := hstaked.unnamed hunsettled
  have hstake := hstaked.stake_pos hexists
  have hextends := (historyExtends_of_run h e he).1
  -- Each way to settle leaves its own mark on the record the history ends with.
  generalize hforecast : c.world.epistemicMarket.forecasts id = f at hsettlement
  generalize hcredits : forecastCredits id tr = credits at hsettlement
  cases hsettlement with
  | @decided d heffective hnewer hdecision hclaim =>
    have hpos : d ≠ 0 := by omega
    have hkept := hextends.decision d hdecision
    have hdecision' : (c.world.claimRegistry.decisions d).decisionId ≠ 0 := hkept ▸ hdecision
    refine ⟨fun _ => ⟨?_, ?_, ?_, ⟨e, he, hcall, hraises, ?_⟩, ?_, ?_⟩,
      fun hzero => absurd hzero hpos⟩
    · exact (registries_indexed h.reachable).1.decisions.idOf_eq rfl hdecision'
    · rw [hkept, hforecast]
      exact hclaim
    · rw [hforecast]
      exact hnewer
    · rw [hforecast]
      exact heffective
    · exact (decided_of_reachable h.reachable).copies d hdecision'
    · rw [hcredits, hforecast, hkept]
      exact EpistemicMarket.settlementOf_pos_iff _ hstake
  | forfeited hrevealed htime =>
    refine ⟨fun hnamed => absurd hunnamed hnamed,
      fun _ => .inl ⟨e, he, hcall, hraises, ?_, ?_, hcredits⟩⟩
    · rw [hforecast]
      exact htime
    · rw [hforecast]
      exact hrevealed
  | reclaimed hrevealed =>
    refine ⟨fun hnamed => absurd hunnamed hnamed, fun _ => .inr ⟨e, he, hcall, hraises, ?_, ?_⟩⟩
    · rw [hforecast]
      exact hrevealed
    · rw [hcredits, hforecast]

/-- In the history of the re-entrant withdrawal, forecast 1 was settled by decision 1,
which is one of claim 1. -/
theorem settlement_provenance_reentrantWithdrawal :
    (((playDevnet reentrantWithdrawal).get
      playDevnet_reentrantWithdrawal).2.world.claimRegistry.decisions 1).decisionId = 1 :=
  ((settlement_provenance 1 (run_playDevnet playDevnet_reentrantWithdrawal)
    (by decide)).1 (by decide)).decision_exists

end

end ScientificProtocol
