import ScientificProtocol.Market.Solvency

/-!
# When a stake can be taken out

A stake nobody settles has an exit of its own. A forecast that was not revealed can be
forfeited by anybody once its deadline is over, one that was revealed can be reclaimed a
month later, and a challenge can be withdrawn after a day. None of the three looks at the
claim, the roles or a pause switch, and none can fail in its arithmetic, because what it
moves is part of the balance of the market.

The two exits that pay look at one thing more, the agent the stake names. For a stake
without an agent it is the owner who has to call. For a stake with one the market asks the
agent registry, at the moment of the call, who may speak for the agent, and the operator of
the agent decides that (`ScientificProtocol.StillSpeaks`). So the owner of such a stake can
find the exit closed, against `ScientificProtocol.ExitOpen`, and the rest of this file is
exactly when it is open, `ScientificProtocol.ExitCondition`.
-/

namespace ScientificProtocol

open Evm

namespace EpistemicMarket

section

variable {ctx : Ctx} {claimRegistry : ClaimRegistry} {agentRegistry : AgentRegistry}
  {replicationRegistry : ReplicationRegistry} {self s : EpistemicMarket} {call : Call} {id : ℕ}

/-! ### The arithmetic of an exit -/

/-- A stake that is not settled is part of the balance, beside the pool and the credits. -/
theorem Solvent.stake_le (h : self.Solvent) (hsettled : (self.forecasts id).settled = false) :
    self.rewardPoolBalance + self.totalWithdrawablePayouts + (self.forecasts id).stakeAmount ≤
      self.balance := by
  have hstake := self.forecasts.le_total (w := openStake) rfl id
  rw [openStake, hsettled, if_neg Bool.false_ne_true] at hstake
  have hbalance := h.balance_eq
  omega

/-- The bond of an open challenge is part of the balance too. -/
theorem Solvent.bond_le (h : self.Solvent) (hopen : (self.challenges id).status = .«open») :
    self.totalWithdrawablePayouts + (self.challenges id).bondAmount ≤ self.balance := by
  have hbond := self.challenges.le_total (w := openBond) rfl id
  rw [openBond, if_pos hopen] at hbond
  have hbalance := h.balance_eq
  omega

theorem Solvent.credit_le (h : self.Solvent) (account : Address) :
    self.withdrawablePayouts account ≤ self.totalWithdrawablePayouts := by
  rw [h.credits_eq]
  exact self.withdrawablePayouts.le_total (w := id) rfl account

/-! ### When an exit succeeds -/

theorem exists_forfeitUnrevealedForecast_iff (hvalue : ctx.value = 0)
    (hlt : self.balance < uint256Size) (hself : self.Solvent)
    (hsettled : (self.forecasts id).settled = false) :
    (∃ o, self.exec ctx claimRegistry agentRegistry replicationRegistry
        (.forfeitUnrevealedForecast id) = .ok o) ↔
      (self.forecasts id).forecastId ≠ 0 ∧ (self.forecasts id).revealed = false ∧
        (self.forecasts id).revealDeadline.toNat < ctx.timestamp := by
  have hstake := hself.stake_le hsettled
  simp only [exec, ctx.receiveValue_of_zero _ hvalue hlt, ok_bind, exists_map_eq_ok,
    forfeitUnrevealedForecast, slashIntoPool, bind_eq_ok, revertIf_eq_ok, checkedAdd_eq_ok,
    pure_eq_ok, Except.ok.injEq, Bool.not_eq_true, Nat.not_le]
  constructor
  · rintro ⟨s, -, hexists, -, -, -, hrevealed, -, hlate, -⟩
    exact ⟨hexists, hrevealed, hlate⟩
  · rintro ⟨hexists, hrevealed, hlate⟩
    exact ⟨_, (), hexists, (), hsettled, (), hrevealed, (), hlate, _,
      ⟨_, ⟨by omega, rfl⟩, rfl⟩, rfl⟩

theorem exists_reclaimForecast_iff (hvalue : ctx.value = 0)
    (hlt : self.balance < uint256Size) (hself : self.Solvent)
    (hsettled : (self.forecasts id).settled = false) :
    (∃ o, self.exec ctx claimRegistry agentRegistry replicationRegistry
        (.reclaimForecast id) = .ok o) ↔
      (self.forecasts id).forecastId ≠ 0 ∧
        isAuthorizedForecastActor agentRegistry (self.forecasts id) ctx.sender = true ∧
        (self.forecasts id).revealed = true ∧
        (self.forecasts id).revealDeadline.toNat + forecastReclaimDelay < ctx.timestamp := by
  have hstake := hself.stake_le hsettled
  have hcredit := hself.credit_le (self.forecasts id).forecaster
  simp only [exec, ctx.receiveValue_of_zero _ hvalue hlt, ok_bind, exists_map_eq_ok,
    reclaimForecast, creditPayout, bind_eq_ok, revertIf_eq_ok, checkedAdd_eq_ok,
    pure_eq_ok, Except.ok.injEq, Bool.not_eq_true, Bool.not_eq_false, not_or, Nat.not_le]
  constructor
  · rintro ⟨s, -, hexists, -, hactor, -, -, -, ⟨hrevealed, hlate⟩, -⟩
    exact ⟨hexists, hactor, hrevealed, hlate⟩
  · rintro ⟨hexists, hactor, hrevealed, hlate⟩
    exact ⟨_, (), hexists, (), hactor, (), hsettled, (), ⟨hrevealed, hlate⟩, _,
      ⟨_, ⟨by omega, rfl⟩, _, ⟨by omega, rfl⟩, rfl⟩, rfl⟩

theorem exists_withdrawChallenge_iff (hvalue : ctx.value = 0)
    (hlt : self.balance < uint256Size) (hself : self.Solvent)
    (hopen : (self.challenges id).status = .«open»)
    (hunlock : (self.challenges id).createdAt + minChallengeDuration < uint256Size) :
    (∃ o, self.exec ctx claimRegistry agentRegistry replicationRegistry
        (.withdrawChallenge id) = .ok o) ↔
      (self.challenges id).challengeId ≠ 0 ∧
        isAuthorizedChallengeActor agentRegistry (self.challenges id) ctx.sender = true ∧
        (self.challenges id).createdAt + minChallengeDuration ≤ ctx.timestamp := by
  have hbond := hself.bond_le hopen
  have hcredit := hself.credit_le (self.challenges id).challenger
  simp only [exec, ctx.receiveValue_of_zero _ hvalue hlt, ok_bind, exists_map_eq_ok,
    withdrawChallenge, creditPayout, bind_eq_ok, revertIf_eq_ok, checkedAdd_eq_ok,
    pure_eq_ok, Except.ok.injEq, Bool.not_eq_true, Bool.not_eq_false, not_not, Nat.not_lt]
  constructor
  · rintro ⟨s, -, hexists, -, hactor, -, -, _, ⟨-, rfl⟩, -, hunlocked, -⟩
    exact ⟨hexists, hactor, hunlocked⟩
  · rintro ⟨hexists, hactor, hunlocked⟩
    exact ⟨_, (), hexists, (), hactor, (), hopen, _, ⟨hunlock, rfl⟩, (), hunlocked, _,
      ⟨_, ⟨by omega, rfl⟩, _, ⟨by omega, rfl⟩, rfl⟩, rfl⟩

/-! ### The balance is a word -/

theorem Step.balance_le (h : Step ctx claimRegistry agentRegistry replicationRegistry self call s) :
    s.balance ≤ self.balance + ctx.value := by
  cases h with
  | withdrawPayout => exact (Nat.sub_le _ _).trans (Nat.le_add_right _ _)
  | fundRewardPool | commitForecast | openChallenge => exact le_rfl
  | _ => exact Nat.le_add_right _ _

/-- What a call leaves is still a word. -/
theorem balance_lt_of_exec {o : Outcome EpistemicMarket Pending}
    (h : self.exec ctx claimRegistry agentRegistry replicationRegistry call = .ok o) :
    o.state.balance < uint256Size := by
  have hle := (step_of_exec h).balance_le
  simp only [exec, bind_eq_ok, Ctx.receiveValue_eq_ok] at h
  obtain ⟨-, ⟨-, hlt, -⟩, -⟩ := h
  exact hle.trans_lt hlt

end

end EpistemicMarket

/-! ### The exits, at every observable moment -/

section

variable {D : Deployment} {c : Config World Suspended} {w : World} {sender : Address} {id : ℕ}

theorem EpistemicMarket.balance_lt_of_reachable (h : (protocol D).Reachable c) :
    c.world.epistemicMarket.balance < uint256Size := by
  refine h.invariant (I := fun w => w.epistemicMarket.balance < uint256Size) ?_
    fun {c a w'} _ hlt heffect => ?_
  · rintro _ ⟨now, hasRole, -, -, rfl⟩
    exact Nat.two_pow_pos 256
  · have hstep := World.step_of_effect heffect
    generalize c.world = w at hstep hlt
    cases hstep with
    | epistemicMarket _ hexec => exact EpistemicMarket.balance_lt_of_exec hexec
    | resume p w => cases p <;> exact hlt
    | _ => exact hlt

/-- A call of the market is allowed if its entry point succeeds. -/
theorem World.allows_epistemicMarket {reply : ModuleReply} {call : EpistemicMarket.Call} :
    w.Allows D sender reply (.epistemicMarket call) ↔ ∃ o, w.epistemicMarket.exec
      (w.context D { sender, value := 0, reply, target := .epistemicMarket call })
      w.claimRegistry w.agentRegistry w.replicationRegistry call = .ok o := by
  simp only [World.Allows, World.exec, exists_map_eq_ok]

/-- Who may take a stake of `owner` out: without an agent it is the owner, and with one the
owner has to be an authorized controller of that agent, which has to be active. -/
def StillSpeaks (w : World) (agentId : ℕ) (owner : Address) : Prop :=
  agentId = 0 ∨ w.agentRegistry.isAuthorizedController agentId owner = true

theorem isAuthorizedForecastActor_forecaster (agentRegistry : AgentRegistry)
    (forecast : ForecastCommitment) :
    EpistemicMarket.isAuthorizedForecastActor agentRegistry forecast forecast.forecaster = true ↔
      forecast.agentId = 0 ∨
        agentRegistry.isAuthorizedController forecast.agentId forecast.forecaster = true := by
  unfold EpistemicMarket.isAuthorizedForecastActor
  split
  next hagent => simp [hagent]
  next hagent => simp [hagent]

theorem isAuthorizedChallengeActor_challenger (agentRegistry : AgentRegistry)
    (challenge : ChallengeBond) :
    EpistemicMarket.isAuthorizedChallengeActor agentRegistry challenge challenge.challenger =
        true ↔
      challenge.agentId = 0 ∨
        agentRegistry.isAuthorizedController challenge.agentId challenge.challenger = true := by
  unfold EpistemicMarket.isAuthorizedChallengeActor
  split
  next hagent => simp [hagent]
  next hagent => simp [hagent]

/-- The forecast numbered `id` is not settled a month after its deadline. -/
def LateForecast (w : World) (id : ℕ) : Prop :=
  (w.epistemicMarket.forecasts id).forecastId ≠ 0 ∧
    (w.epistemicMarket.forecasts id).settled = false ∧
    (w.epistemicMarket.forecasts id).revealDeadline.toNat +
      EpistemicMarket.forecastReclaimDelay < w.now

/-- The challenge numbered `id` is open a day after it was opened. -/
def UnlockedChallenge (w : World) (id : ℕ) : Prop :=
  (w.epistemicMarket.challenges id).challengeId ≠ 0 ∧
    (w.epistemicMarket.challenges id).status = .«open» ∧
    (w.epistemicMarket.challenges id).createdAt + EpistemicMarket.minChallengeDuration ≤ w.now

/-- Anybody can forfeit the forecast now. -/
def CanForfeit (D : Deployment) (w : World) (id : ℕ) (sender : Address) (reply : ModuleReply) :
    Prop :=
  w.Allows D sender reply (.epistemicMarket (.forfeitUnrevealedForecast id))

/-- The recorded forecaster can reclaim the forecast now. -/
def CanReclaim (D : Deployment) (w : World) (id : ℕ) (reply : ModuleReply) : Prop :=
  w.Allows D (w.epistemicMarket.forecasts id).forecaster reply
    (.epistemicMarket (.reclaimForecast id))

/-- The recorded challenger can withdraw the challenge now. -/
def CanWithdraw (D : Deployment) (w : World) (id : ℕ) (reply : ModuleReply) : Prop :=
  w.Allows D (w.epistemicMarket.challenges id).challenger reply
    (.epistemicMarket (.withdrawChallenge id))

/-- **Every stake has an exit for its owner**, whoever the agent is: exactly one for a late
forecast, and the withdrawal for an unlocked challenge. -/
structure ExitOpen (D : Deployment) (w : World) : Prop where
  forecasts : ∀ id, LateForecast w id → ∀ sender reply,
    (CanForfeit D w id sender reply ↔ (w.epistemicMarket.forecasts id).revealed = false) ∧
      (CanReclaim D w id reply ↔ (w.epistemicMarket.forecasts id).revealed = true)
  challenges : ∀ id, UnlockedChallenge w id → ∀ reply, CanWithdraw D w id reply

/-- **When every stake has an exit for its owner**: the exits that pay ask for the agent. -/
structure ExitCondition (D : Deployment) (w : World) : Prop where
  /-- Anybody can forfeit a late forecast exactly if it was not revealed, and its forecaster
  can reclaim it exactly if it was and the forecaster still speaks for its agent. -/
  forecasts : ∀ id, LateForecast w id → ∀ sender reply,
    (CanForfeit D w id sender reply ↔ (w.epistemicMarket.forecasts id).revealed = false) ∧
      (CanReclaim D w id reply ↔ (w.epistemicMarket.forecasts id).revealed = true ∧
        StillSpeaks w (w.epistemicMarket.forecasts id).agentId
          (w.epistemicMarket.forecasts id).forecaster)
  /-- Its challenger can withdraw an unlocked challenge exactly if the challenger still speaks
  for its agent. -/
  challenges : ∀ id, UnlockedChallenge w id → ∀ reply,
    (CanWithdraw D w id reply ↔ StillSpeaks w (w.epistemicMarket.challenges id).agentId
      (w.epistemicMarket.challenges id).challenger)

theorem canForfeit_iff (h : (protocol D).Reachable c) (hlate : LateForecast c.world id)
    (sender : Address) (reply : ModuleReply) : CanForfeit D c.world id sender reply ↔
      (c.world.epistemicMarket.forecasts id).revealed = false := by
  obtain ⟨hexists, hsettled, hdeadline⟩ := hlate
  rw [CanForfeit, World.allows_epistemicMarket,
    EpistemicMarket.exists_forfeitUnrevealedForecast_iff rfl
      (EpistemicMarket.balance_lt_of_reachable h) (EpistemicMarket.solvent_of_reachable h) hsettled]
  exact ⟨fun hguards => hguards.2.1,
    fun hrevealed => ⟨hexists, hrevealed, (Nat.le_add_right _ _).trans_lt hdeadline⟩⟩

theorem canReclaim_iff (h : (protocol D).Reachable c) (hlate : LateForecast c.world id)
    (reply : ModuleReply) : CanReclaim D c.world id reply ↔
      (c.world.epistemicMarket.forecasts id).revealed = true ∧
        StillSpeaks c.world (c.world.epistemicMarket.forecasts id).agentId
          (c.world.epistemicMarket.forecasts id).forecaster := by
  obtain ⟨hexists, hsettled, hdeadline⟩ := hlate
  have hactor := isAuthorizedForecastActor_forecaster c.world.agentRegistry
    (c.world.epistemicMarket.forecasts id)
  rw [CanReclaim, World.allows_epistemicMarket, EpistemicMarket.exists_reclaimForecast_iff rfl
    (EpistemicMarket.balance_lt_of_reachable h) (EpistemicMarket.solvent_of_reachable h) hsettled]
  exact ⟨fun hguards => ⟨hguards.2.2.1, hactor.mp hguards.2.1⟩,
    fun hspeaks => ⟨hexists, hactor.mpr hspeaks.2, hspeaks.1, hdeadline⟩⟩

theorem canWithdraw_iff (h : (protocol D).Reachable c) (hunlocked : UnlockedChallenge c.world id)
    (reply : ModuleReply) : CanWithdraw D c.world id reply ↔
      StillSpeaks c.world (c.world.epistemicMarket.challenges id).agentId
        (c.world.epistemicMarket.challenges id).challenger := by
  obtain ⟨hexists, hopen, htime⟩ := hunlocked
  have hactor := isAuthorizedChallengeActor_challenger c.world.agentRegistry
    (c.world.epistemicMarket.challenges id)
  -- The unlock time has passed, so it is a word like the time itself.
  rw [CanWithdraw, World.allows_epistemicMarket, EpistemicMarket.exists_withdrawChallenge_iff rfl
    (EpistemicMarket.balance_lt_of_reachable h) (EpistemicMarket.solvent_of_reachable h) hopen
    (htime.trans_lt (now_lt h))]
  exact ⟨fun hguards => hactor.mp hguards.2.1,
    fun hspeaks => ⟨hexists, hactor.mpr hspeaks, htime⟩⟩

/-- **When the exits are open**, at every observable moment: neither the claim nor the roles
nor a pause switch is asked. -/
theorem stake_exit_iff (h : (protocol D).Reachable c) : ExitCondition D c.world where
  forecasts _ hlate sender reply :=
    ⟨canForfeit_iff h hlate sender reply, canReclaim_iff h hlate reply⟩
  challenges _ hunlocked reply := canWithdraw_iff h hunlocked reply

/-- A history after which a stake is stuck: `0xCC` forecasts for agent 1, whose operator
deactivates it once the forecast is revealed; then two months pass. -/
def deactivatedAgent : List (Move Message) :=
  opening ++
  [send 0xEE 0 (.agentRegistry (.registerAgent 5 "" 100)),
    send 0xEE 0 (.agentRegistry (.authorizeController 1 0xCC true)),
    send 0xCC 10 (.epistemicMarket (.commitForecast 1
      0x470a3d52539f2460d48f07329f3d4f704cc54d801e5367b98185fcd305c38765 200 1)),
    send 0xCC 7 (.epistemicMarket (.openChallenge 1 0 0 "" 1)),
    send 0xCC 0 (.epistemicMarket (.revealForecast 1 .supports 7000 1)),
    send 0xEE 0 (.agentRegistry (.setAgentActive 1 false)),
    .tick 5184000]

theorem playDevnet_deactivatedAgent : (playDevnet deactivatedAgent).isSome := by
  decide

/-- The world that history reaches. -/
def deactivatedAgentWorld : World :=
  ((playDevnet deactivatedAgent).get playDevnet_deactivatedAgent).2.world

theorem lateForecast_deactivatedAgentWorld : LateForecast deactivatedAgentWorld 1 := by
  refine ⟨?_, ?_, ?_⟩ <;> decide

theorem revealed_deactivatedAgentWorld :
    (deactivatedAgentWorld.epistemicMarket.forecasts 1).revealed = true := by
  decide

/-- The agent's controller does not speak for it any more. -/
theorem not_stillSpeaks_deactivatedAgentWorld :
    ¬StillSpeaks deactivatedAgentWorld
      (deactivatedAgentWorld.epistemicMarket.forecasts 1).agentId
      (deactivatedAgentWorld.epistemicMarket.forecasts 1).forecaster := by
  rw [StillSpeaks]
  decide

/-- There, the forecaster of forecast 1 can reclaim it exactly if it still speaks for agent 1. -/
theorem stake_exit_iff_deactivatedAgent :
    CanReclaim devnet deactivatedAgentWorld 1 default ↔
      (deactivatedAgentWorld.epistemicMarket.forecasts 1).revealed = true ∧
        StillSpeaks deactivatedAgentWorld
          (deactivatedAgentWorld.epistemicMarket.forecasts 1).agentId
          (deactivatedAgentWorld.epistemicMarket.forecasts 1).forecaster :=
  ((stake_exit_iff (run_playDevnet playDevnet_deactivatedAgent).reachable).forecasts 1
    lateForecast_deactivatedAgentWorld 0 default).2

/-- **Not every stake has an exit for its owner.** -/
theorem stake_exit_not_always_open :
    ¬∀ (D : Deployment) (c : Config World Suspended), (protocol D).Reachable c →
      ExitOpen D c.world := by
  intro h
  have hreachable := (run_playDevnet playDevnet_deactivatedAgent).reachable
  have hreclaim := ((h devnet _ hreachable).forecasts 1 lateForecast_deactivatedAgentWorld 0
    default).2.mpr revealed_deactivatedAgentWorld
  exact not_stillSpeaks_deactivatedAgentWorld
    ((canReclaim_iff hreachable lateForecast_deactivatedAgentWorld default).mp hreclaim).2

end

end ScientificProtocol
