import ScientificProtocol.System.World

/-!
# What a call of the reward vault does

`ScientificProtocol.ClaimRewardVault.Step` lists, entry point by entry point, the
guards a successful call passed, and the vault and the agent registry it leaves. The
hard one is the accrual. The source tests five amounts for zero on its way, but a zero
amount changes nothing wherever it is added, so every successful accrual leaves one and
the same pair of contracts (`ScientificProtocol.ClaimRewardVault.accrued` and
`ScientificProtocol.AgentRegistry.toppedUp`).

For the accrual the converse is here too: the guards, and the pause switch of the
*other* contract, are exactly when it succeeds
(`ScientificProtocol.ClaimRewardVault.exists_accrueWorkReward_iff`).
-/

namespace ScientificProtocol

open Evm

/-- The registry once a budget has received `amount`. -/
def AgentRegistry.toppedUp (self : AgentRegistry) (agentId amount : ℕ) : AgentRegistry :=
  { self with
    balance := self.balance + amount
    agents := self.agents.set agentId { self.agents agentId with
      budgetBalance := (self.agents agentId).budgetBalance + amount } }

theorem AgentRegistry.toppedUp_zero (self : AgentRegistry) (agentId : ℕ) :
    self.toppedUp agentId 0 = self := by
  have hagents : self.agents.set agentId { self.agents agentId with
      budgetBalance := (self.agents agentId).budgetBalance + 0 } = self.agents :=
    self.agents.set_get_self agentId
  rw [toppedUp, hagents, Nat.add_zero]

namespace ClaimRewardVault

namespace Accrual

/-- The budget's part is at most the whole. -/
theorem agentBudgetAmount_le (accrual : Accrual) (h : ¬accrual.budgetTopUpBps > 10000) :
    accrual.agentBudgetAmount ≤ accrual.amount := by
  have hbps : accrual.budgetTopUpBps.toNat ≤ 10000 := by
    simpa [UInt16.lt_iff_toNat_lt] using h
  have hmul := Nat.mul_le_mul_left accrual.amount hbps
  exact Nat.div_le_of_le_mul (by omega)

end Accrual

/-- The vault once an accrual is done. -/
def accrued (self : ClaimRewardVault) (accrual : Accrual) : ClaimRewardVault :=
  { self with
    balance := self.balance - accrual.agentBudgetAmount
    settledRewards := self.settledRewards.set accrual.settlementId true
    claimRewardPools := self.setPool accrual.claimId accrual.workKind
      (self.claimRewardPools accrual.claimId accrual.workKind - accrual.amount)
    accruedRewardBalances := self.accruedRewardBalances.set accrual.recipient
      (self.accruedRewardBalances accrual.recipient + accrual.recipientAmount) }

/-- **What an accrual checks**, in both contracts, apart from the pause switch. -/
structure Accruable (ctx : Ctx) (claimRegistry : ClaimRegistry) (agentRegistry : AgentRegistry)
    (s : ClaimRewardVault) (accrual : Accrual) : Prop where
  value_eq : ctx.value = 0
  balance_lt : s.balance < uint256Size
  role : ctx.hasRole .rewardSettler ctx.sender = true
  notEntered : s.entered = false
  claim_exists : (claimRegistry.claims accrual.claimId).claimId ≠ 0
  workKind_lt : ¬accrual.workKind ≥ workKindCount
  amount_ne_zero : accrual.amount ≠ 0
  fresh : s.settledRewards accrual.settlementId = false
  bps_le : ¬accrual.budgetTopUpBps > 10000
  named : ¬(accrual.agentId = 0 ∧ accrual.budgetTopUpBps ≠ 0)
  agent_exists : ¬(accrual.agentId ≠ 0 ∧ ¬agentRegistry.agentExists accrual.agentId)
  amount_le : accrual.amount ≤ s.claimRewardPools accrual.claimId accrual.workKind
  product_lt : accrual.amount * accrual.budgetTopUpBps.toNat < uint256Size
  recipient : ¬(accrual.recipientAmount ≠ 0 ∧ accrual.recipient = 0)
  active : ¬(accrual.agentBudgetAmount ≠ 0 ∧ ¬agentRegistry.isActiveAgent accrual.agentId)
  accrued_lt : accrual.recipientAmount ≠ 0 →
    s.accruedRewardBalances accrual.recipient + accrual.recipientAmount < uint256Size
  /-- What the registry checks of the top-up. -/
  topUp : accrual.agentBudgetAmount ≠ 0 →
    accrual.agentBudgetAmount ≤ s.balance ∧
      agentRegistry.balance + accrual.agentBudgetAmount < uint256Size ∧
      agentRegistry.entered = false ∧ (agentRegistry.agents accrual.agentId).agentId ≠ 0 ∧
      (agentRegistry.agents accrual.agentId).budgetBalance + accrual.agentBudgetAmount <
        uint256Size

section

variable (ctx : Ctx) (claimRegistry : ClaimRegistry) (agentRegistry : AgentRegistry)
  (self : ClaimRewardVault)

/-- **What a successful call of the vault did**, with the guards it passed. -/
inductive Step : Call → ClaimRewardVault × AgentRegistry → Prop
  | fundClaimRewards {claimId : ℕ} {workKind : UInt8} {logs : List Event} :
      self.depositsPaused = false → (claimRegistry.claims claimId).claimId ≠ 0 →
      ¬workKind ≥ workKindCount → ctx.value ≠ 0 →
      Step (.fundClaimRewards claimId workKind) ({ self with
        balance := self.balance + ctx.value
        claimRewardPools := self.setPool claimId workKind
          (self.claimRewardPools claimId workKind + ctx.value)
        logs }, agentRegistry)
  | accrueWorkReward {accrual : Accrual} {logs : List Event}
      {registryLogs : List AgentRegistry.Event} :
      Accruable ctx claimRegistry agentRegistry self accrual →
      (accrual.agentBudgetAmount ≠ 0 → agentRegistry.depositsPaused = false) →
      Step (.accrueWorkReward accrual) ({ self.accrued accrual with logs },
        { agentRegistry.toppedUp accrual.agentId accrual.agentBudgetAmount with
          logs := registryLogs })
  | withdrawAccruedRewards {amount : ℕ} {recipient : Address} {logs : List Event} :
      ctx.value = 0 → self.entered = false → amount ≠ 0 → recipient ≠ 0 →
      amount ≤ self.accruedRewardBalances ctx.sender → amount ≤ self.balance →
      Step (.withdrawAccruedRewards amount recipient) ({ self with
        accruedRewardBalances := self.accruedRewardBalances.set ctx.sender
          (self.accruedRewardBalances ctx.sender - amount)
        balance := self.balance - amount
        entered := true
        logs }, agentRegistry)
  | setDepositsPaused {paused : Bool} {logs : List Event} :
      ctx.value = 0 → ctx.hasRole .pauser ctx.sender = true →
      Step (.setDepositsPaused paused)
        ({ self with depositsPaused := paused, logs }, agentRegistry)

end

section

variable {ctx : Ctx} {claimRegistry : ClaimRegistry} {agentRegistry ar : AgentRegistry}
  {self s : ClaimRewardVault} {accrual : Accrual}

/-- What the vault itself writes in an accrual. -/
theorem eq_of_chargePool (h : self.chargePool accrual = .ok s) :
    s = { self with
        settledRewards := self.settledRewards.set accrual.settlementId true
        claimRewardPools := self.setPool accrual.claimId accrual.workKind
          (self.claimRewardPools accrual.claimId accrual.workKind - accrual.amount)
        accruedRewardBalances := self.accruedRewardBalances.set accrual.recipient
          (self.accruedRewardBalances accrual.recipient + accrual.recipientAmount) } ∧
      (accrual.recipientAmount ≠ 0 →
        self.accruedRewardBalances accrual.recipient + accrual.recipientAmount < uint256Size) := by
  simp only [chargePool, bind_eq_ok, checkedSub_eq_ok] at h
  obtain ⟨pool, ⟨-, rfl⟩, h⟩ := h
  split at h
  next hamount =>
    simp only [bind_eq_ok, checkedAdd_eq_ok, pure_eq_ok, Except.ok.injEq] at h
    obtain ⟨accrued, ⟨hlt, rfl⟩, rfl⟩ := h
    exact ⟨rfl, fun _ => hlt⟩
  next hzero =>
    obtain rfl := Except.ok.inj h
    rw [not_not.mp hzero, Nat.add_zero, Mapping.set_get_self]
    exact ⟨rfl, fun hamount => absurd rfl hamount⟩

/-- What a top-up checks, and what it leaves of the two contracts. -/
theorem eq_of_topUpBudget (h : self.topUpBudget ctx agentRegistry accrual = .ok (s, ar)) :
    (accrual.agentBudgetAmount ≤ self.balance ∧
        agentRegistry.balance + accrual.agentBudgetAmount < uint256Size ∧
        agentRegistry.entered = false ∧ (agentRegistry.agents accrual.agentId).agentId ≠ 0 ∧
        (agentRegistry.agents accrual.agentId).budgetBalance + accrual.agentBudgetAmount <
          uint256Size) ∧
      agentRegistry.depositsPaused = false ∧
      s = { self with balance := self.balance - accrual.agentBudgetAmount } ∧
      ∃ registryLogs, ar = { agentRegistry.toppedUp accrual.agentId accrual.agentBudgetAmount with
        logs := registryLogs } := by
  simp only [topUpBudget, AgentRegistry.fundAgentBudget, bind_eq_ok, revertIf_eq_ok,
    Ctx.receiveValue_eq_ok, nonReentrant_eq_ok, whenDepositsNotPaused_eq_ok, checkedAdd_eq_ok,
    pure_eq_ok, Except.ok.injEq, Prod.mk.injEq, Nat.not_lt] at h
  obtain ⟨-, hether, balance, ⟨-, hroom, rfl⟩, ar', ⟨-, hentered, -, hpaused, -, hexists, -, -,
    budget, ⟨hbudget, rfl⟩, rfl⟩, rfl, rfl⟩ := h
  exact ⟨⟨hether, hroom, hentered, hexists, hbudget⟩, hpaused, rfl, _, rfl⟩

/-- The checks of an accrual that come before anything is written. -/
theorem requireAccrual_eq_ok :
    self.requireAccrual claimRegistry agentRegistry accrual = .ok () ↔
      (claimRegistry.claims accrual.claimId).claimId ≠ 0 ∧ ¬accrual.workKind ≥ workKindCount ∧
        accrual.amount ≠ 0 ∧ self.settledRewards accrual.settlementId = false ∧
        ¬accrual.budgetTopUpBps > 10000 ∧
        ¬(accrual.agentId = 0 ∧ accrual.budgetTopUpBps ≠ 0) ∧
        ¬(accrual.agentId ≠ 0 ∧ ¬agentRegistry.agentExists accrual.agentId) ∧
        accrual.amount ≤ self.claimRewardPools accrual.claimId accrual.workKind ∧
        accrual.amount * accrual.budgetTopUpBps.toNat < uint256Size ∧
        ¬(accrual.recipientAmount ≠ 0 ∧ accrual.recipient = 0) ∧
        ¬(accrual.agentBudgetAmount ≠ 0 ∧ ¬agentRegistry.isActiveAgent accrual.agentId) := by
  simp only [requireAccrual, requireValidWorkKind, ClaimRegistry.claimExists, bind_eq_ok,
    revertIf_eq_ok, checkedMul_eq_ok, checkedSub_eq_ok, decide_eq_true_eq, not_not, Nat.not_lt,
    Bool.not_eq_true]
  constructor
  · rintro ⟨-, hclaim, -, hkind, -, hamount, -, hfresh, -, hbps, -, hnamed, -, hexists, -, hle, -,
      ⟨hproduct, -⟩, -, -, -, hrecipient, hactive⟩
    exact ⟨hclaim, hkind, hamount, hfresh, hbps, hnamed, hexists, hle, hproduct, hrecipient,
      hactive⟩
  · rintro ⟨hclaim, hkind, hamount, hfresh, hbps, hnamed, hexists, hle, hproduct, hrecipient,
      hactive⟩
    exact ⟨(), hclaim, (), hkind, (), hamount, (), hfresh, (), hbps, (), hnamed, (), hexists, (),
      hle, _, ⟨hproduct, rfl⟩, _, ⟨accrual.agentBudgetAmount_le hbps, rfl⟩, (), hrecipient, hactive⟩

/-- What a successful accrual checked, and what it left of the two contracts. -/
theorem eq_of_accrueWorkReward (hvalue : ctx.value = 0) (hbalance : self.balance < uint256Size)
    (h : self.accrueWorkReward ctx claimRegistry agentRegistry accrual = .ok (s, ar)) :
    Accruable ctx claimRegistry agentRegistry self accrual ∧
      (accrual.agentBudgetAmount ≠ 0 → agentRegistry.depositsPaused = false) ∧
      ∃ logs registryLogs, s = { self.accrued accrual with logs } ∧
        ar = { agentRegistry.toppedUp accrual.agentId accrual.agentBudgetAmount with
          logs := registryLogs } := by
  simp only [accrueWorkReward, bind_eq_ok, Ctx.onlyRole_eq_ok, nonReentrant_eq_ok] at h
  obtain ⟨-, hrole, -, hentered, u, hchecks, s₁, hcharge, h⟩ := h
  obtain ⟨hclaim, hkind, hamount, hfresh, hbps, hnamed, hexists, hle, hproduct, hrecipient,
    hactive⟩ := requireAccrual_eq_ok.mp hchecks
  obtain ⟨rfl, haccrued⟩ := eq_of_chargePool hcharge
  -- Without a budget part the registry is not called, and topping up by zero is the same.
  by_cases hbudget : accrual.agentBudgetAmount = 0
  · rw [if_neg (not_not.mpr hbudget)] at h
    obtain ⟨rfl, rfl⟩ := Prod.mk.inj (Except.ok.inj h)
    refine ⟨⟨hvalue, hbalance, hrole, hentered, hclaim, hkind, hamount, hfresh, hbps, hnamed,
      hexists, hle, hproduct, hrecipient, hactive, haccrued, fun hne => absurd hbudget hne⟩,
      fun hne => absurd hbudget hne, self.logs ++ [.workRewardAccrued accrual.claimId
        accrual.workKind accrual.settlementId accrual.agentId accrual.recipient
        accrual.recipientAmount accrual.agentBudgetAmount], agentRegistry.logs, ?_, ?_⟩
    · simp only [accrued, hbudget, Nat.sub_zero]
    · rw [hbudget, AgentRegistry.toppedUp_zero]
  · rw [if_pos hbudget] at h
    obtain ⟨⟨s₂, ar₂⟩, htop, heq⟩ := bind_eq_ok.mp h
    obtain ⟨rfl, rfl⟩ := Prod.mk.inj (Except.ok.inj heq)
    obtain ⟨htopUp, hpaused, rfl, registryLogs, rfl⟩ := eq_of_topUpBudget htop
    exact ⟨⟨hvalue, hbalance, hrole, hentered, hclaim, hkind, hamount, hfresh, hbps, hnamed,
      hexists, hle, hproduct, hrecipient, hactive, haccrued, fun _ => htopUp⟩, fun _ => hpaused, _,
      registryLogs, rfl, rfl⟩

theorem exists_chargePool
    (hle : accrual.amount ≤ self.claimRewardPools accrual.claimId accrual.workKind)
    (hlt : accrual.recipientAmount ≠ 0 →
      self.accruedRewardBalances accrual.recipient + accrual.recipientAmount < uint256Size) :
    ∃ s, self.chargePool accrual = .ok s := by
  simp only [chargePool, checkedSub_of_le hle, ok_bind]
  split
  next hamount => exact ⟨_, by rw [checkedAdd_of_lt (hlt hamount), ok_bind]; rfl⟩
  next => exact ⟨_, rfl⟩

theorem exists_topUpBudget (hamount : accrual.agentBudgetAmount ≠ 0)
    (htopUp : accrual.agentBudgetAmount ≤ self.balance ∧
      agentRegistry.balance + accrual.agentBudgetAmount < uint256Size ∧
      agentRegistry.entered = false ∧ (agentRegistry.agents accrual.agentId).agentId ≠ 0 ∧
      (agentRegistry.agents accrual.agentId).budgetBalance + accrual.agentBudgetAmount <
        uint256Size)
    (hpaused : agentRegistry.depositsPaused = false) :
    ∃ res, self.topUpBudget ctx agentRegistry accrual = .ok res := by
  obtain ⟨hether, hroom, hentered, hexists, hbudget⟩ := htopUp
  simp [topUpBudget, AgentRegistry.fundAgentBudget, Ctx.receiveValue, nonReentrant,
    whenDepositsNotPaused, revertIf, checkedAdd_of_lt hbudget, hentered, hpaused, hexists, hamount,
    Nat.not_lt.mpr hether, Nat.not_le.mpr hroom]

/-- **What the checks of an accrual ask for is enough**, if the pause switch of the
agent registry lets the top-up through. -/
theorem accrueWorkReward_of_accruable (h : Accruable ctx claimRegistry agentRegistry self accrual)
    (hpaused : accrual.agentBudgetAmount ≠ 0 → agentRegistry.depositsPaused = false) :
    ∃ res, self.accrueWorkReward ctx claimRegistry agentRegistry accrual = .ok res := by
  have hrole : ctx.onlyRole .rewardSettler = .ok () := ctx.onlyRole_eq_ok.mpr h.role
  have hguard : nonReentrant self.entered = .ok () := nonReentrant_eq_ok.mpr h.notEntered
  have hchecks := requireAccrual_eq_ok.mpr ⟨h.claim_exists, h.workKind_lt, h.amount_ne_zero,
    h.fresh, h.bps_le, h.named, h.agent_exists, h.amount_le, h.product_lt, h.recipient, h.active⟩
  obtain ⟨s, hcharge⟩ := exists_chargePool h.amount_le h.accrued_lt
  simp only [accrueWorkReward, hrole, hguard, hchecks, hcharge, ok_bind]
  split
  next hbudget =>
    have htopUp := h.topUp hbudget
    rw [show self.balance = s.balance by rw [(eq_of_chargePool hcharge).1]] at htopUp
    obtain ⟨⟨s', ar⟩, htop⟩ : ∃ res, s.topUpBudget ctx agentRegistry accrual = .ok res :=
      exists_topUpBudget hbudget htopUp (hpaused hbudget)
    exact ⟨_, by rw [htop, ok_bind]; rfl⟩
  next => exact ⟨_, rfl⟩

/-- **Every successful call of the vault is one of the steps above.** -/
theorem step_of_exec {call : Call} {o : Outcome (ClaimRewardVault × AgentRegistry) Pending}
    (h : self.exec ctx claimRegistry agentRegistry call = .ok o) :
    Step ctx claimRegistry agentRegistry self call o.state := by
  simp only [exec, bind_eq_ok, Ctx.receiveValue_eq_ok] at h
  obtain ⟨-, ⟨hpayable, hlt, rfl⟩, h⟩ := h
  -- A call that is not payable carries no value, and runs on the vault as it was.
  have hplain : call.payable = false → ctx.value = 0 ∧
      { self with balance := self.balance + ctx.value } = self := by
    intro hcall
    have hvalue : ctx.value = 0 := by simpa [hcall] using hpayable
    exact ⟨hvalue, by rw [hvalue, Nat.add_zero]⟩
  cases call with
  | fundClaimRewards claimId workKind =>
    obtain ⟨s, hrun, rfl⟩ := map_eq_ok.mp h
    simp only [fundClaimRewards, requireValidWorkKind, ClaimRegistry.claimExists, bind_eq_ok,
      whenDepositsNotPaused_eq_ok, revertIf_eq_ok, checkedAdd_eq_ok, pure_eq_ok, Except.ok.injEq,
      decide_eq_true_eq, not_not] at hrun
    obtain ⟨-, hpaused, -, hclaim, -, hkind, -, hvalue, pool, ⟨-, rfl⟩, rfl⟩ := hrun
    exact .fundClaimRewards hpaused hclaim hkind hvalue
  | accrueWorkReward accrual =>
    obtain ⟨hvalue, hself⟩ := hplain rfl
    obtain ⟨⟨s, ar⟩, hrun, rfl⟩ := map_eq_ok.mp h
    rw [hself] at hrun
    obtain ⟨haccruable, hpaused, logs, registryLogs, rfl, rfl⟩ :=
      eq_of_accrueWorkReward hvalue (by omega) hrun
    exact .accrueWorkReward haccruable hpaused
  | withdrawAccruedRewards amount recipient =>
    obtain ⟨hvalue, hself⟩ := hplain rfl
    obtain ⟨o, hrun, rfl⟩ := map_eq_ok.mp h
    rw [hself] at hrun
    simp only [withdrawAccruedRewards, safeTransferValue, bind_eq_ok, nonReentrant_eq_ok,
      revertIf_eq_ok, checkedSub_eq_ok, pure_eq_ok, Except.ok.injEq, not_or, Nat.not_lt] at hrun
    obtain ⟨-, hentered, -, hamount, -, hrecipient, -, -, accrued, ⟨haccrued, rfl⟩, -,
      ⟨hether, -⟩, rfl⟩ := hrun
    exact .withdrawAccruedRewards hvalue hentered hamount hrecipient haccrued hether
  | setDepositsPaused paused =>
    obtain ⟨hvalue, hself⟩ := hplain rfl
    obtain ⟨s, hrun, rfl⟩ := map_eq_ok.mp h
    rw [hself] at hrun
    simp only [setDepositsPaused, bind_eq_ok, Ctx.onlyRole_eq_ok, pure_eq_ok,
      Except.ok.injEq] at hrun
    obtain ⟨-, hrole, rfl⟩ := hrun
    exact .setDepositsPaused hvalue hrole

/-- **When an accrual succeeds**: if it passes its checks and, where it tops a budget
up, deposits into the agent registry are not paused. -/
theorem exists_accrueWorkReward_iff :
    (∃ o, self.exec ctx claimRegistry agentRegistry (.accrueWorkReward accrual) = .ok o) ↔
      Accruable ctx claimRegistry agentRegistry self accrual ∧
        (accrual.agentBudgetAmount ≠ 0 → agentRegistry.depositsPaused = false) := by
  constructor
  · rintro ⟨o, h⟩
    have hstep := step_of_exec h
    generalize o.state = s at hstep
    cases hstep with
    | accrueWorkReward haccruable hpaused => exact ⟨haccruable, hpaused⟩
  · rintro ⟨h, hpaused⟩
    obtain ⟨res, hrun⟩ := accrueWorkReward_of_accruable h hpaused
    have hvalue : ctx.receiveValue (Call.accrueWorkReward accrual).payable self.balance =
        .ok self.balance := ctx.receiveValue_of_zero _ h.value_eq h.balance_lt
    exact ⟨.done res, by simp only [exec, hvalue, ok_bind, hrun, map_ok]⟩

end

end ClaimRewardVault

/-! ### The vault in a step of the protocol -/

/-- The call of the vault a step runs, if it runs one. -/
def vaultCall : Action Message Suspended → Option ClaimRewardVault.Call
  | .exec m => match m.target with
    | .claimRewardVault call => some call
    | _ => none
  | _ => none

/-- **How the vault moves in a step of the protocol**: it stands still, it runs one of
its calls, or it finishes a withdrawal. -/
theorem World.Step.claimRewardVault_cases {D : Deployment} {a : Action Message Suspended}
    {w w' : World} (h : World.Step D a w w') :
    (vaultCall a = none ∧ w'.claimRewardVault = w.claimRewardVault) ∨
      (∃ m call, a = .exec m ∧ vaultCall a = some call ∧
        ClaimRewardVault.Step (w.context D m) w.claimRegistry w.agentRegistry w.claimRewardVault
          call (w'.claimRewardVault, w'.agentRegistry)) ∨
      ∃ p, a = .resume (.claimRewardVault p) ∧
        w' = { w with claimRewardVault := w.claimRewardVault.resume p } := by
  cases h with
  | claimRewardVault htarget hexec =>
    exact .inr (.inl ⟨_, _, rfl, by simp [vaultCall, htarget],
      ClaimRewardVault.step_of_exec hexec⟩)
  | resume p w =>
    cases p with
    | claimRewardVault p => exact .inr (.inr ⟨p, rfl, rfl⟩)
    | _ => exact .inl ⟨rfl, rfl⟩
  | foreign | tick => exact .inl ⟨rfl, rfl⟩
  | accessController htarget => exact .inl ⟨by simp [vaultCall, htarget], rfl⟩
  | protocolParameters htarget | resolutionModuleRegistry htarget | claimRegistry htarget
  | replicationRegistry htarget | agentRegistry htarget | bondEscrow htarget
  | epistemicMarket htarget | appealsRegistry htarget | artifactRegistry htarget
  | reputationCheckpointRegistry htarget => exact .inl ⟨by simp [vaultCall, htarget], rfl⟩

end ScientificProtocol
