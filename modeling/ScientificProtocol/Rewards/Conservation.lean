import ScientificProtocol.Rewards.Step

/-!
# Rewards are conserved and settled once

The ether of the vault is in two ledgers: the pools, one for each claim and class of
work, and the rewards that have accrued and nobody has withdrawn. An accrual moves value
from a pool into the second ledger and, with a call in the middle of the update, into
the budget of an agent, which another contract holds. The two parts add up to what the
pool paid, whatever the rounding does.

An accrual spends its settlement identifier, and no call takes that back, so a history
has at most one accrual for each. The two contracts move together: if the registry
reverts, so does the accrual, and nothing has moved in either
(`ScientificProtocol.RewardsSound.atomic`).
-/

namespace ScientificProtocol

open Evm

namespace ClaimRewardVault

/-! ### Conservation -/

/-- What the pools of one claim hold. -/
noncomputable def poolTotal (pools : Mapping UInt8 ℕ) : ℕ := pools.total id

/-- **The vault owes what it holds.** -/
def Conserved (s : ClaimRewardVault) : Prop :=
  s.balance = s.claimRewardPools.total poolTotal + s.accruedRewardBalances.total id

theorem poolTotal_default : poolTotal default = 0 := Mapping.total_default rfl

theorem conserved_deployed : deployed.Conserved := by
  change 0 = (default : Mapping ℕ (Mapping UInt8 ℕ)).total poolTotal +
    (default : Mapping Address ℕ).total id
  rw [Mapping.total_default poolTotal_default, Mapping.total_default rfl]

/-- What writing one pool does to their total. -/
theorem total_setPool (self : ClaimRewardVault) (claimId : ℕ) (workKind : UInt8)
    (poolBalance : ℕ) :
    (self.setPool claimId workKind poolBalance).total poolTotal +
        self.claimRewardPools claimId workKind =
      self.claimRewardPools.total poolTotal + poolBalance := by
  have hinner := (self.claimRewardPools claimId).total_set (w := id) rfl workKind poolBalance
  have houter := self.claimRewardPools.total_set poolTotal_default claimId
    ((self.claimRewardPools claimId).set workKind poolBalance)
  simp only [id, poolTotal, setPool] at hinner houter ⊢
  omega

section

variable {ctx : Ctx} {claimRegistry : ClaimRegistry} {agentRegistry ar : AgentRegistry}
  {self s : ClaimRewardVault} {call : Call}

/-- The two parts of an accrual are the whole. -/
theorem Accruable.parts_add {accrual : Accrual}
    (h : Accruable ctx claimRegistry agentRegistry self accrual) :
    accrual.recipientAmount + accrual.agentBudgetAmount = accrual.amount :=
  Nat.sub_add_cancel (accrual.agentBudgetAmount_le h.bps_le)

/-- The vault can pay for the top-up. -/
theorem Accruable.agentBudgetAmount_le {accrual : Accrual}
    (h : Accruable ctx claimRegistry agentRegistry self accrual) :
    accrual.agentBudgetAmount ≤ self.balance := by
  by_cases hzero : accrual.agentBudgetAmount = 0
  · rw [hzero]
    exact Nat.zero_le _
  · exact (h.topUp hzero).1

/-- **Every call conserves.** -/
theorem Step.conserved (h : Step ctx claimRegistry agentRegistry self call (s, ar))
    (hself : self.Conserved) : s.Conserved := by
  unfold Conserved at hself ⊢
  cases h with
  | setDepositsPaused => exact hself
  | @fundClaimRewards claimId workKind =>
    have hpools := self.total_setPool claimId workKind
      (self.claimRewardPools claimId workKind + ctx.value)
    simp only
    omega
  | @accrueWorkReward accrual _ _ haccruable =>
    -- The pool pays both parts: one stays in the vault, the other leaves it.
    have hpools := self.total_setPool accrual.claimId accrual.workKind
      (self.claimRewardPools accrual.claimId accrual.workKind - accrual.amount)
    have haccrued := self.accruedRewardBalances.total_set_add accrual.recipient
      accrual.recipientAmount
    have hparts := haccruable.parts_add
    have hether := haccruable.agentBudgetAmount_le
    have hamount := haccruable.amount_le
    simp only [accrued]
    omega
  | withdrawAccruedRewards _ _ _ _ hcredit hether =>
    have haccrued := self.accruedRewardBalances.total_set_sub hcredit
    simp only
    omega

/-! ### Settlements -/

/-- The call is an accrual for this settlement. -/
def Call.accrues (settlementId : Bytes32) : Call → Bool
  | .accrueWorkReward accrual => decide (accrual.settlementId = settlementId)
  | _ => false

/-- **A settlement is spent by its accrual and by nothing else**, and no call takes it
back. -/
theorem Step.settledRewards (h : Step ctx claimRegistry agentRegistry self call (s, ar))
    (settlementId : Bytes32) :
    (call.accrues settlementId = true → self.settledRewards settlementId = false) ∧
      s.settledRewards settlementId =
        (self.settledRewards settlementId || call.accrues settlementId) := by
  cases h with
  | fundClaimRewards | withdrawAccruedRewards | setDepositsPaused =>
    simp [Call.accrues]
  | @accrueWorkReward accrual _ _ haccruable =>
    by_cases hid : accrual.settlementId = settlementId
    · subst hid
      simp [Call.accrues, accrued, haccruable.fresh]
    · simp [Call.accrues, accrued, hid, Mapping.set_of_ne _ (Ne.symm hid)]

end

end ClaimRewardVault

/-! ### What an accrual moves -/

/-- **The effect of an accrual on the two contracts**: one pool pays the amount, one
recipient accrues what is left of it once the agent's part is taken off, rounded down,
and one agent gets that part as budget. Nothing else moves. -/
structure AccrualEffect (accrual : ClaimRewardVault.Accrual) (w w' : World) : Prop where
  amount_le : accrual.amount ≤ w.claimRewardVault.claimRewardPools accrual.claimId accrual.workKind
  pools : ∀ claimId workKind, w'.claimRewardVault.claimRewardPools claimId workKind =
    if claimId = accrual.claimId ∧ workKind = accrual.workKind then
      w.claimRewardVault.claimRewardPools claimId workKind - accrual.amount
    else w.claimRewardVault.claimRewardPools claimId workKind
  accrued : ∀ account, w'.claimRewardVault.accruedRewardBalances account =
    if account = accrual.recipient then
      w.claimRewardVault.accruedRewardBalances account +
        (accrual.amount - accrual.amount * accrual.budgetTopUpBps.toNat / 10000)
    else w.claimRewardVault.accruedRewardBalances account
  budgets : ∀ agentId, w'.agentRegistry.agents agentId =
    if agentId = accrual.agentId then
      { w.agentRegistry.agents agentId with
        budgetBalance := (w.agentRegistry.agents agentId).budgetBalance +
          accrual.amount * accrual.budgetTopUpBps.toNat / 10000 }
    else w.agentRegistry.agents agentId
  settled : w.claimRewardVault.settledRewards accrual.settlementId = false ∧
    w'.claimRewardVault.settledRewards accrual.settlementId = true

theorem ClaimRewardVault.Step.eq_of_accrueWorkReward {ctx : Ctx} {claimRegistry : ClaimRegistry}
    {agentRegistry ar : AgentRegistry} {self s : ClaimRewardVault} {accrual : Accrual}
    (h : Step ctx claimRegistry agentRegistry self (.accrueWorkReward accrual) (s, ar)) :
    Accruable ctx claimRegistry agentRegistry self accrual ∧
      ∃ logs registryLogs, s = { self.accrued accrual with logs } ∧
        ar = { agentRegistry.toppedUp accrual.agentId accrual.agentBudgetAmount with
          logs := registryLogs } := by
  cases h with
  | accrueWorkReward haccruable => exact ⟨haccruable, _, _, rfl, rfl⟩

/-- Overwriting one pool leaves the others. -/
theorem ClaimRewardVault.setPool_apply (self : ClaimRewardVault) (claimId : ℕ) (workKind : UInt8)
    (poolBalance claimId' : ℕ) (workKind' : UInt8) :
    self.setPool claimId workKind poolBalance claimId' workKind' =
      if claimId' = claimId ∧ workKind' = workKind then poolBalance
      else self.claimRewardPools claimId' workKind' := by
  simp only [setPool, Mapping.set_apply]
  by_cases hclaim : claimId' = claimId
  · subst hclaim
    simp [Mapping.set_apply]
  · simp [hclaim]

section

variable {D : Deployment} {a : Action Message Suspended} {c : Config World Suspended}
  {tr : List ProtocolEvent} {w w' : World}

/-- **A successful accrual has its effect.** -/
theorem World.Step.accrualEffect (h : World.Step D a w w') {accrual : ClaimRewardVault.Accrual}
    (hcall : vaultCall a = some (.accrueWorkReward accrual)) : AccrualEffect accrual w w' := by
  rcases h.claimRewardVault_cases with ⟨hnone, -⟩ | ⟨m, call, rfl, hsome, hstep⟩ | ⟨p, rfl, -⟩
  · exact absurd (hnone.symm.trans hcall) (by simp)
  · obtain rfl := Option.some.inj (hsome.symm.trans hcall)
    obtain ⟨haccruable, logs, registryLogs, hvault, hregistry⟩ := hstep.eq_of_accrueWorkReward
    refine ⟨haccruable.amount_le, fun claimId workKind => ?_, fun account => ?_, fun agentId => ?_,
      haccruable.fresh, ?_⟩
    · rw [hvault]
      refine (w.claimRewardVault.setPool_apply _ _ _ _ _).trans ?_
      split
      next heq => rw [heq.1, heq.2]
      next => rfl
    · rw [hvault]
      simp only [ClaimRewardVault.accrued, Mapping.set_apply]
      split
      next heq => rw [heq]; rfl
      next => rfl
    · rw [hregistry]
      simp only [AgentRegistry.toppedUp, Mapping.set_apply]
      split
      next heq => rw [heq]; rfl
      next => rfl
    · rw [hvault]
      exact Mapping.set_self _ _ _
  · exact absurd hcall (by simp [vaultCall])

theorem ClaimRewardVault.conserved_of_reachable (h : (protocol D).Reachable c) :
    c.world.claimRewardVault.Conserved := by
  refine h.invariant (I := fun w => w.claimRewardVault.Conserved) ?_ fun {c a w'} _ hc heffect => ?_
  · rintro _ ⟨now, hasRole, -, -, rfl⟩
    exact conserved_deployed
  · rcases (World.step_of_effect heffect).claimRewardVault_cases with
      ⟨-, heq⟩ | ⟨m, call, -, -, hcall⟩ | ⟨p, -, heq⟩
    · rw [heq]
      exact hc
    · exact hcall.conserved hc
    · rw [heq]
      exact hc

/-! ### One accrual for each settlement -/

/-- The settlement is spent. -/
def rewardSettled (settlementId : Bytes32) (w : World) : Bool :=
  w.claimRewardVault.settledRewards settlementId

/-- **A settlement is spent exactly by the steps that accrue for it.** -/
theorem World.Step.rewardSettled (h : World.Step D a w w') (settlementId : Bytes32) :
    ((vaultCall a).any (·.accrues settlementId) = true →
        ScientificProtocol.rewardSettled settlementId w = false) ∧
      ScientificProtocol.rewardSettled settlementId w' =
        (ScientificProtocol.rewardSettled settlementId w ||
          (vaultCall a).any (·.accrues settlementId)) := by
  simp only [ScientificProtocol.rewardSettled]
  rcases h.claimRewardVault_cases with ⟨hnone, heq⟩ | ⟨m, call, -, hsome, hcall⟩ | ⟨p, rfl, rfl⟩
  · simp [hnone, heq]
  · rw [hsome]
    exact hcall.settledRewards settlementId
  · exact ⟨fun hfalse => absurd hfalse (by simp [vaultCall]), (Bool.or_false _).symm⟩

theorem latched_rewardSettled (settlementId : Bytes32) :
    (protocol D).Latched (rewardSettled settlementId) := by
  refine ⟨?_, fun {tr c a w'} _ heffect hsettled => ?_⟩
  · rintro _ ⟨now, hasRole, -, -, rfl⟩
    rfl
  · rw [((World.step_of_effect heffect).rewardSettled settlementId).2, hsettled, Bool.true_or]

theorem World.Step.raises_rewardSettled (h : World.Step D a w w') (settlementId : Bytes32) :
    (⟨w, a, w'⟩ : ProtocolEvent).raises (ScientificProtocol.rewardSettled settlementId) =
      (vaultCall a).any (·.accrues settlementId) := by
  obtain ⟨hfresh, heq⟩ := h.rewardSettled settlementId
  simp only [Event.raises, heq]
  rcases haccrues : (vaultCall a).any (·.accrues settlementId) with _ | _
  · rw [haccrues, Bool.or_false, Bool.not_and_self]
  · rw [haccrues, hfresh haccrues]
    rfl

/-- **At most one accrual for each settlement.** -/
theorem countP_accrues_le_one (h : (protocol D).Run tr c) (settlementId : Bytes32) :
    tr.countP (fun e => (vaultCall e.action).any (·.accrues settlementId)) ≤ 1 := by
  have hraises := h.countP_raises (latched_rewardSettled settlementId)
  have hcongr : tr.countP (·.raises (rewardSettled settlementId)) =
      tr.countP fun e => (vaultCall e.action).any (·.accrues settlementId) := by
    refine List.countP_congr fun e he => ?_
    obtain ⟨heffect, -⟩ := h.event_effect e he
    rw [(World.step_of_effect heffect).raises_rewardSettled]
  rw [← hcongr, hraises]
  split <;> omega

/-- **Only a settlement that is spent is rejected as a duplicate.** -/
theorem ClaimRewardVault.avoids_duplicate {ctx : Ctx} {claimRegistry : ClaimRegistry}
    {agentRegistry : AgentRegistry} {self : ClaimRewardVault} {accrual : Accrual}
    (h : self.settledRewards accrual.settlementId = false) (settlementId : Bytes32) :
    Avoids (.claimRewardVaultDuplicateSettlement settlementId)
      (self.accrueWorkReward ctx claimRegistry agentRegistry accrual) := by
  have hchecks : Avoids (.claimRewardVaultDuplicateSettlement settlementId)
      (self.requireAccrual claimRegistry agentRegistry accrual) := by
    simp [requireAccrual, avoids_bind, requireValidWorkKind, h]
  have hcharge : Avoids (.claimRewardVaultDuplicateSettlement settlementId)
      (self.chargePool accrual) := by
    rw [chargePool, avoids_bind]
    refine ⟨avoids_checkedSub, fun _ _ => ?_⟩
    split
    · exact avoids_bind.mpr ⟨avoids_checkedAdd, fun _ _ => avoids_ok _⟩
    · exact avoids_ok _
  have htop : ∀ s : ClaimRewardVault, Avoids (.claimRewardVaultDuplicateSettlement settlementId)
      (s.topUpBudget ctx agentRegistry accrual) := by
    intro s
    simp [topUpBudget, avoids_bind, AgentRegistry.fundAgentBudget, nonReentrant,
      whenDepositsNotPaused, Ctx.avoids_receiveValue]
  simp only [accrueWorkReward, avoids_bind, Ctx.onlyRole, nonReentrant, avoids_revertIf]
  refine ⟨by simp, fun _ _ => ⟨by simp, fun _ _ => ⟨hchecks, fun _ _ => ⟨hcharge, fun s _ => ?_⟩⟩⟩⟩
  split
  · simp [avoids_bind, htop]
  · simp

/-- So it is for a call of the vault. -/
theorem avoids_duplicate_of_exec {m : Message} {accrual : ClaimRewardVault.Accrual}
    (htarget : m.target = .claimRewardVault (.accrueWorkReward accrual))
    (h : ScientificProtocol.rewardSettled accrual.settlementId w = false)
    (settlementId : Bytes32) :
    Avoids (.claimRewardVaultDuplicateSettlement settlementId) (World.exec D m w) := by
  rw [World.exec, htarget]
  refine Avoids.map ?_ _
  rw [ClaimRewardVault.exec, avoids_bind]
  refine ⟨Ctx.avoids_receiveValue _, fun balance _ => Avoids.map ?_ _⟩
  have hfresh : ({ w.claimRewardVault with balance } : ClaimRewardVault).settledRewards
      accrual.settlementId = false := h
  exact ClaimRewardVault.avoids_duplicate hfresh settlementId

/-! ### Both contracts or neither -/

/-- The call, with value, that an accrual makes to the agent registry. -/
def registryCall (D : Deployment) (w : World) (m : Message)
    (accrual : ClaimRewardVault.Accrual) :
    Tx Revert (Outcome AgentRegistry AgentRegistry.Pending) :=
  w.agentRegistry.exec
    { w.context D m with sender := D.claimRewardVault, value := accrual.agentBudgetAmount }
    (.fundAgentBudget accrual.agentId)

/-- The top-up of an accrual is that call. -/
theorem ClaimRewardVault.exists_registryCall {m : Message} {accrual : Accrual}
    {s : ClaimRewardVault} {res : ClaimRewardVault × AgentRegistry}
    (h : s.topUpBudget (w.context D m) w.agentRegistry accrual = .ok res) :
    ∃ o, registryCall D w m accrual = .ok o := by
  simp only [topUpBudget, bind_eq_ok] at h
  obtain ⟨-, -, balance, hbalance, ar, hfund, -⟩ := h
  exact ⟨.done ar, bind_eq_ok.mpr ⟨balance, hbalance, map_eq_ok.mpr ⟨ar, hfund, rfl⟩⟩⟩

/-- **If the registry reverts, so does the accrual.** -/
theorem exists_registryCall_of_exec {m : Message} {accrual : ClaimRewardVault.Accrual}
    (htarget : m.target = .claimRewardVault (.accrueWorkReward accrual))
    (hamount : accrual.agentBudgetAmount ≠ 0) {o : Outcome World Suspended}
    (h : World.exec D m w = .ok o) : ∃ o, registryCall D w m accrual = .ok o := by
  simp only [World.exec, htarget, ClaimRewardVault.exec, map_eq_ok, bind_eq_ok] at h
  obtain ⟨o', ⟨balance, hbalance, res, hrun, -⟩, -⟩ := h
  simp only [ClaimRewardVault.accrueWorkReward, bind_eq_ok, if_pos hamount] at hrun
  obtain ⟨-, -, -, -, -, -, s, -, res', htop, -⟩ := hrun
  exact ClaimRewardVault.exists_registryCall htop

/-- **What a history tells of the rewards**, up to the configuration it has reached. -/
structure RewardsSound (D : Deployment) (tr : List ProtocolEvent) (c : Config World Suspended) :
    Prop where
  /-- The balance is the sum of the two ledgers. -/
  balance_eq : c.world.claimRewardVault.balance =
    c.world.claimRewardVault.claimRewardPools.total ClaimRewardVault.poolTotal +
      c.world.claimRewardVault.accruedRewardBalances.total id
  /-- At most one accrual for each settlement. -/
  settled_once : ∀ settlementId,
    tr.countP (fun e => (vaultCall e.action).any (·.accrues settlementId)) ≤ 1
  /-- Every accrual has its effect on both contracts. -/
  effect : ∀ e ∈ tr, ∀ accrual, vaultCall e.action = some (.accrueWorkReward accrual) →
    AccrualEffect accrual e.before e.after
  /-- An accrual tried now has it, or changes nothing at all. -/
  atomic : ∀ (m : Message) (accrual : ClaimRewardVault.Accrual),
    m.target = .claimRewardVault (.accrueWorkReward accrual) →
    ((∃ o, World.exec D m c.world = .ok o) ∧
        AccrualEffect accrual c.world ((protocol D).attempt m c.world)) ∨
      ((∃ err, World.exec D m c.world = .error err) ∧
        (protocol D).attempt m c.world = c.world)
  /-- It changes nothing if the registry reverts. -/
  registry_reverts : ∀ (m : Message) (accrual : ClaimRewardVault.Accrual),
    m.target = .claimRewardVault (.accrueWorkReward accrual) → accrual.agentBudgetAmount ≠ 0 →
    (∀ o, registryCall D c.world m accrual ≠ .ok o) → (protocol D).attempt m c.world = c.world
  /-- What a recipient can revert goes back to the world as it is now. -/
  restored : ∀ a c', (protocol D).Forward c a c' → ∀ f, c'.frames = f :: c.frames →
    f.saved = c.world

/-- **The rewards are sound in every history**, also while a recipient runs. -/
theorem rewards_sound (h : (protocol D).Run tr c) : RewardsSound D tr c where
  balance_eq := ClaimRewardVault.conserved_of_reachable h.reachable
  settled_once := countP_accrues_le_one h
  effect e he accrual hcall := by
    obtain ⟨heffect, -⟩ := h.event_effect e he
    exact (World.step_of_effect heffect).accrualEffect hcall
  atomic m accrual htarget := by
    rcases hexec : World.exec D m c.world with err | o
    · exact .inr ⟨⟨err, rfl⟩, Machine.attempt_of_error (M := protocol D) hexec⟩
    · refine .inl ⟨⟨o, rfl⟩, ?_⟩
      rw [Machine.attempt_of_ok (M := protocol D) hexec]
      exact (World.step_of_exec hexec).accrualEffect (by simp [vaultCall, htarget])
  registry_reverts m accrual htarget hamount hreverts := by
    rcases hexec : World.exec D m c.world with err | o
    · exact Machine.attempt_of_error (M := protocol D) hexec
    · obtain ⟨o, hcall⟩ := exists_registryCall_of_exec htarget hamount hexec
      exact absurd hcall (hreverts o)
  restored a c' hfwd f hf := hfwd.saved_eq hf

/-- A history that stops inside a withdrawal of rewards: two accruals of one pool have
gone through, the second with a third of it as the budget of agent 1. -/
def reentrantRewards : List (Move Message) :=
  opening ++
  [send 0xEE 0 (.agentRegistry (.registerAgent 5 "" 100)),
    send 0xDD 50 (.claimRewardVault (.fundClaimRewards 1 2)),
    send 0x0A 0 (.claimRewardVault (.accrueWorkReward
      { claimId := 1, workKind := 2, settlementId := 11, recipient := 0xBB, agentId := 0,
        amount := 9, budgetTopUpBps := 0 })),
    send 0x0A 0 (.claimRewardVault (.accrueWorkReward
      { claimId := 1, workKind := 2, settlementId := 12, recipient := 0xBB, agentId := 1,
        amount := 10, budgetTopUpBps := 3333 })),
    send 0xBB 0 (.claimRewardVault (.withdrawAccruedRewards 16 0xBB)),
    send 0xBB 1 (.claimRewardVault (.fundClaimRewards 1 0))]

theorem playDevnet_reentrantRewards : (playDevnet reentrantRewards).isSome := by
  decide

/-- There, settlement 12 was accrued for once. -/
theorem rewards_sound_reentrantRewards :
    ((playDevnet reentrantRewards).get playDevnet_reentrantRewards).1.countP
      (fun e => (vaultCall e.action).any (·.accrues 12)) ≤ 1 :=
  (rewards_sound (run_playDevnet playDevnet_reentrantRewards)).settled_once 12

end

end ScientificProtocol
