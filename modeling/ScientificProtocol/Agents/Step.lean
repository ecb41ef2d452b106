import ScientificProtocol.Rewards.Step

/-!
# What a call of the agent registry does

`ScientificProtocol.AgentRegistry.Step` lists, entry point by entry point, the guards a
successful call passed and the registry it leaves. Only four of them touch a budget
without writing a new record: funding, consuming and withdrawing move ether, and a
reservation moves none. Of the two calls that send value it gives the registry the
recipient sees.

The registry is the one contract two parties write: its own callers, and the reward
vault, which tops a budget up in the middle of an accrual
(`ScientificProtocol.World.Step.agentRegistry_cases`).
-/

namespace ScientificProtocol

open Evm

namespace AgentRegistry

section

variable (ctx : Ctx) (self : AgentRegistry)

/-- **What a successful call of the registry did**, with the guards it passed. -/
inductive Step : Call → AgentRegistry → Prop
  | registerAgent {metadataHash : Bytes32} {uri : String} {spendLimit : ℕ} {logs : List Event} :
      self.depositsPaused = false →
      Step (.registerAgent metadataHash uri spendLimit) { self with
        balance := self.balance + ctx.value
        nextAgentId := self.nextAgentId + 1
        agents := self.agents.set self.nextAgentId
          { agentId := self.nextAgentId, operator := ctx.sender, metadataHash, uri,
            budgetBalance := ctx.value, reservedBudget := 0, spentBudget := 0, spendLimit,
            active := true }
        controllers := self.controllers.set self.nextAgentId
          ((self.controllers self.nextAgentId).set ctx.sender true)
        logs }
  | authorizeController {agentId : ℕ} {controller : Address} {authorized : Bool}
      {logs : List Event} :
      ctx.value = 0 → (self.agents agentId).agentId ≠ 0 →
      ctx.sender = (self.agents agentId).operator →
      Step (.authorizeController agentId controller authorized) { self with
        controllers := self.controllers.set agentId
          ((self.controllers agentId).set controller authorized)
        logs }
  | setSpendLimit {agentId spendLimit : ℕ} {logs : List Event} :
      ctx.value = 0 → (self.agents agentId).agentId ≠ 0 →
      ctx.sender = (self.agents agentId).operator →
      (self.agents agentId).spentBudget + (self.agents agentId).reservedBudget ≤ spendLimit →
      Step (.setSpendLimit agentId spendLimit) { self with
        agents := self.agents.set agentId { self.agents agentId with spendLimit }
        logs }
  | setAgentActive {agentId : ℕ} {active : Bool} {logs : List Event} :
      ctx.value = 0 → (self.agents agentId).agentId ≠ 0 →
      ctx.sender = (self.agents agentId).operator →
      Step (.setAgentActive agentId active) { self with
        agents := self.agents.set agentId { self.agents agentId with active }
        logs }
  | fundAgentBudget {agentId : ℕ} {logs : List Event} :
      self.entered = false → self.depositsPaused = false →
      (self.agents agentId).agentId ≠ 0 → ctx.value ≠ 0 →
      Step (.fundAgentBudget agentId)
        { self.toppedUp agentId ctx.value with logs }
  | reserveBudget {agentId amount : ℕ} {logs : List Event} :
      ctx.value = 0 → ctx.hasRole .agentBudgetManager ctx.sender = true →
      (self.agents agentId).agentId ≠ 0 → (self.agents agentId).active = true → amount ≠ 0 →
      (self.agents agentId).spentBudget + ((self.agents agentId).reservedBudget + amount) ≤
        (self.agents agentId).spendLimit →
      (self.agents agentId).reservedBudget + amount ≤ (self.agents agentId).budgetBalance →
      Step (.reserveBudget agentId amount) { self with
        agents := self.agents.set agentId { self.agents agentId with
          reservedBudget := (self.agents agentId).reservedBudget + amount }
        logs }
  | releaseBudget {agentId amount : ℕ} {logs : List Event} :
      ctx.value = 0 → ctx.hasRole .agentBudgetManager ctx.sender = true →
      (self.agents agentId).agentId ≠ 0 → amount ≠ 0 →
      amount ≤ (self.agents agentId).reservedBudget →
      Step (.releaseBudget agentId amount) { self with
        agents := self.agents.set agentId { self.agents agentId with
          reservedBudget := (self.agents agentId).reservedBudget - amount }
        logs }
  | consumeBudget {agentId amount : ℕ} {recipient : Address} {logs : List Event} :
      ctx.value = 0 → ctx.hasRole .agentBudgetManager ctx.sender = true → self.entered = false →
      (self.agents agentId).agentId ≠ 0 → (self.agents agentId).active = true → amount ≠ 0 →
      recipient ≠ 0 → amount ≤ (self.agents agentId).reservedBudget →
      amount ≤ (self.agents agentId).budgetBalance → amount ≤ self.balance →
      Step (.consumeBudget agentId amount recipient) { self with
        agents := self.agents.set agentId { self.agents agentId with
          reservedBudget := (self.agents agentId).reservedBudget - amount
          budgetBalance := (self.agents agentId).budgetBalance - amount
          spentBudget := (self.agents agentId).spentBudget + amount }
        balance := self.balance - amount
        entered := true
        logs }
  | withdrawBudget {agentId amount : ℕ} {recipient : Address} {logs : List Event} :
      ctx.value = 0 → self.entered = false → (self.agents agentId).agentId ≠ 0 →
      ctx.sender = (self.agents agentId).operator → amount ≠ 0 → recipient ≠ 0 →
      (self.agents agentId).reservedBudget + amount ≤ (self.agents agentId).budgetBalance →
      amount ≤ self.balance →
      Step (.withdrawBudget agentId amount recipient) { self with
        agents := self.agents.set agentId { self.agents agentId with
          budgetBalance := (self.agents agentId).budgetBalance - amount }
        balance := self.balance - amount
        entered := true
        logs }
  | setDepositsPaused {paused : Bool} {logs : List Event} :
      ctx.value = 0 → ctx.hasRole .pauser ctx.sender = true →
      Step (.setDepositsPaused paused) { self with depositsPaused := paused, logs }

end

section

variable {ctx : Ctx} {self s : AgentRegistry} {agentId amount : ℕ} {recipient : Address}

/-! ### The checks -/

@[simp] theorem requireExistingAgent_eq_ok {agent : AgentRecord} :
    self.requireExistingAgent agentId = .ok agent ↔
      (self.agents agentId).agentId ≠ 0 ∧ agent = self.agents agentId := by
  simp only [requireExistingAgent, bind_eq_ok, revertIf_eq_ok, pure_eq_ok, Except.ok.injEq]
  constructor
  · rintro ⟨-, hexists, rfl⟩
    exact ⟨hexists, rfl⟩
  · rintro ⟨hexists, rfl⟩
    exact ⟨(), hexists, rfl⟩

@[simp] theorem requireOperator_eq_ok {agent : AgentRecord} :
    self.requireOperator ctx agentId = .ok agent ↔
      (self.agents agentId).agentId ≠ 0 ∧ ctx.sender = (self.agents agentId).operator ∧
        agent = self.agents agentId := by
  simp only [requireOperator, bind_eq_ok, requireExistingAgent_eq_ok, revertIf_eq_ok, pure_eq_ok,
    Except.ok.injEq, not_not]
  constructor
  · rintro ⟨agent', ⟨hexists, rfl⟩, -, hoperator, rfl⟩
    exact ⟨hexists, hoperator, rfl⟩
  · rintro ⟨hexists, hoperator, rfl⟩
    exact ⟨_, ⟨hexists, rfl⟩, (), hoperator, rfl⟩

@[simp] theorem requireActiveAgent_eq_ok {agent : AgentRecord} {u : Unit} :
    requireActiveAgent agent = .ok u ↔ agent.active = true := by
  simp [requireActiveAgent]

@[simp] theorem requireValidRecipient_eq_ok {u : Unit} :
    requireValidRecipient recipient = .ok u ↔ recipient ≠ 0 := by
  simp [requireValidRecipient]

/-- A transfer is made if the ether is there and the recipient does not refuse it. -/
theorem safeTransferValue_eq_ok {p : Pending} {o : Outcome AgentRegistry Pending} :
    self.safeTransferValue ctx recipient amount p = .ok o ↔
      (amount ≤ self.balance ∧ ctx.refusesValue recipient = false) ∧
        o = .transfer recipient amount p
          { self with balance := self.balance - amount, entered := true } := by
  simp only [safeTransferValue, bind_eq_ok, revertIf_eq_ok, pure_eq_ok, Except.ok.injEq,
    not_or, Nat.not_lt, Bool.not_eq_true]
  constructor
  · rintro ⟨-, hchecks, rfl⟩
    exact ⟨hchecks, rfl⟩
  · rintro ⟨hchecks, rfl⟩
    exact ⟨(), hchecks, rfl⟩

/-! ### The entry points -/

theorem step_of_reserveBudget (hvalue : ctx.value = 0)
    (h : self.reserveBudget ctx agentId amount = .ok s) :
    Step ctx self (.reserveBudget agentId amount) s := by
  simp only [reserveBudget, bind_eq_ok, Ctx.onlyRole_eq_ok, requireExistingAgent_eq_ok,
    requireActiveAgent_eq_ok, revertIf_eq_ok, checkedAdd_eq_ok, pure_eq_ok, Except.ok.injEq,
    Nat.not_lt] at h
  obtain ⟨-, hrole, agent, ⟨hexists, rfl⟩, -, hactive, -, hamount, reserved, ⟨-, rfl⟩, committed,
    ⟨-, rfl⟩, -, hlimit, -, hbudget, rfl⟩ := h
  exact .reserveBudget hvalue hrole hexists hactive hamount hlimit hbudget

theorem step_of_releaseBudget (hvalue : ctx.value = 0)
    (h : self.releaseBudget ctx agentId amount = .ok s) :
    Step ctx self (.releaseBudget agentId amount) s := by
  simp only [releaseBudget, bind_eq_ok, Ctx.onlyRole_eq_ok, requireExistingAgent_eq_ok,
    revertIf_eq_ok, checkedSub_eq_ok, pure_eq_ok, Except.ok.injEq] at h
  obtain ⟨-, hrole, agent, ⟨hexists, rfl⟩, -, hamount, -, -, reserved, ⟨hreserved, rfl⟩, rfl⟩ := h
  exact .releaseBudget hvalue hrole hexists hamount hreserved

theorem step_of_consumeBudget {o : Outcome AgentRegistry Pending} (hvalue : ctx.value = 0)
    (h : self.consumeBudget ctx agentId amount recipient = .ok o) :
    Step ctx self (.consumeBudget agentId amount recipient) o.state := by
  simp only [consumeBudget, bind_eq_ok, Ctx.onlyRole_eq_ok, nonReentrant_eq_ok,
    requireExistingAgent_eq_ok, requireActiveAgent_eq_ok, requireValidRecipient_eq_ok,
    revertIf_eq_ok, checkedSub_eq_ok, checkedAdd_eq_ok, safeTransferValue_eq_ok] at h
  obtain ⟨-, hrole, -, hentered, agent, ⟨hexists, rfl⟩, -, hactive, -, hamount, -, hrecipient, -,
    -, reserved, ⟨hreserved, rfl⟩, budget, ⟨hbudget, rfl⟩, spent, ⟨-, rfl⟩, ⟨hether, -⟩, rfl⟩ := h
  exact .consumeBudget hvalue hrole hentered hexists hactive hamount hrecipient hreserved hbudget
    hether

theorem step_of_withdrawBudget {o : Outcome AgentRegistry Pending} (hvalue : ctx.value = 0)
    (h : self.withdrawBudget ctx agentId amount recipient = .ok o) :
    Step ctx self (.withdrawBudget agentId amount recipient) o.state := by
  simp only [withdrawBudget, bind_eq_ok, nonReentrant_eq_ok, requireOperator_eq_ok,
    requireValidRecipient_eq_ok, revertIf_eq_ok, checkedSub_eq_ok, safeTransferValue_eq_ok,
    Nat.not_lt] at h
  obtain ⟨-, hentered, agent, ⟨hexists, hoperator, rfl⟩, -, hamount, -, hrecipient, available,
    ⟨hreserved, rfl⟩, -, havailable, budget, ⟨-, rfl⟩, ⟨hether, -⟩, rfl⟩ := h
  exact .withdrawBudget hvalue hentered hexists hoperator hamount hrecipient (by omega) hether

/-- **Every successful call of the registry is one of the steps above.** -/
theorem step_of_exec {call : Call} {o : Outcome AgentRegistry Pending}
    (h : self.exec ctx call = .ok o) : Step ctx self call o.state := by
  simp only [exec, bind_eq_ok, Ctx.receiveValue_eq_ok] at h
  obtain ⟨-, ⟨hpayable, -, rfl⟩, h⟩ := h
  -- A call that is not payable carries no value, and runs on the registry as it was.
  have hplain : call.payable = false → ctx.value = 0 ∧
      { self with balance := self.balance + ctx.value } = self := by
    intro hcall
    have hvalue : ctx.value = 0 := by simpa [hcall] using hpayable
    exact ⟨hvalue, by rw [hvalue, Nat.add_zero]⟩
  cases call with
  | registerAgent metadataHash uri spendLimit =>
    obtain ⟨⟨agentId, s⟩, hrun, rfl⟩ := map_eq_ok.mp h
    simp only [registerAgent, bind_eq_ok, whenDepositsNotPaused_eq_ok, checkedAdd_eq_ok,
      pure_eq_ok, Except.ok.injEq, Prod.mk.injEq] at hrun
    obtain ⟨-, hpaused, next, ⟨-, rfl⟩, rfl, rfl⟩ := hrun
    exact .registerAgent hpaused
  | authorizeController agentId controller authorized =>
    obtain ⟨hvalue, hself⟩ := hplain rfl
    obtain ⟨s, hrun, rfl⟩ := map_eq_ok.mp h
    rw [hself] at hrun
    simp only [authorizeController, bind_eq_ok, requireOperator_eq_ok, pure_eq_ok,
      Except.ok.injEq] at hrun
    obtain ⟨agent, ⟨hexists, hoperator, rfl⟩, rfl⟩ := hrun
    exact .authorizeController hvalue hexists hoperator
  | setSpendLimit agentId spendLimit =>
    obtain ⟨hvalue, hself⟩ := hplain rfl
    obtain ⟨s, hrun, rfl⟩ := map_eq_ok.mp h
    rw [hself] at hrun
    simp only [setSpendLimit, bind_eq_ok, requireOperator_eq_ok, checkedAdd_eq_ok, revertIf_eq_ok,
      pure_eq_ok, Except.ok.injEq, Nat.not_lt] at hrun
    obtain ⟨agent, ⟨hexists, hoperator, rfl⟩, committed, ⟨-, rfl⟩, -, hlimit, rfl⟩ := hrun
    exact .setSpendLimit hvalue hexists hoperator hlimit
  | setAgentActive agentId active =>
    obtain ⟨hvalue, hself⟩ := hplain rfl
    obtain ⟨s, hrun, rfl⟩ := map_eq_ok.mp h
    rw [hself] at hrun
    simp only [setAgentActive, bind_eq_ok, requireOperator_eq_ok, pure_eq_ok,
      Except.ok.injEq] at hrun
    obtain ⟨agent, ⟨hexists, hoperator, rfl⟩, rfl⟩ := hrun
    exact .setAgentActive hvalue hexists hoperator
  | fundAgentBudget agentId =>
    obtain ⟨s, hrun, rfl⟩ := map_eq_ok.mp h
    simp only [fundAgentBudget, bind_eq_ok, nonReentrant_eq_ok, whenDepositsNotPaused_eq_ok,
      revertIf_eq_ok, checkedAdd_eq_ok, pure_eq_ok, Except.ok.injEq] at hrun
    obtain ⟨-, hentered, -, hpaused, -, hexists, -, hvalue, budget, ⟨-, rfl⟩, rfl⟩ := hrun
    exact .fundAgentBudget hentered hpaused hexists hvalue
  | reserveBudget agentId amount =>
    obtain ⟨hvalue, hself⟩ := hplain rfl
    obtain ⟨s, hrun, rfl⟩ := map_eq_ok.mp h
    exact step_of_reserveBudget hvalue (hself ▸ hrun)
  | releaseBudget agentId amount =>
    obtain ⟨hvalue, hself⟩ := hplain rfl
    obtain ⟨s, hrun, rfl⟩ := map_eq_ok.mp h
    exact step_of_releaseBudget hvalue (hself ▸ hrun)
  | consumeBudget agentId amount recipient =>
    obtain ⟨hvalue, hself⟩ := hplain rfl
    exact step_of_consumeBudget hvalue (hself ▸ h)
  | withdrawBudget agentId amount recipient =>
    obtain ⟨hvalue, hself⟩ := hplain rfl
    exact step_of_withdrawBudget hvalue (hself ▸ h)
  | setDepositsPaused paused =>
    obtain ⟨hvalue, hself⟩ := hplain rfl
    obtain ⟨s, hrun, rfl⟩ := map_eq_ok.mp h
    rw [hself] at hrun
    simp only [setDepositsPaused, bind_eq_ok, Ctx.onlyRole_eq_ok, pure_eq_ok,
      Except.ok.injEq] at hrun
    obtain ⟨-, hrole, rfl⟩ := hrun
    exact .setDepositsPaused hvalue hrole

end

end AgentRegistry

/-! ### The registry in a step of the protocol -/

/-- **How the registry moves in a step of the protocol**: it stands still, it runs one
of its calls, the vault tops a budget of an existing agent up, or it finishes a call. -/
theorem World.Step.agentRegistry_cases {D : Deployment} {a : Action Message Suspended}
    {w w' : World} (h : World.Step D a w w') :
    w'.agentRegistry = w.agentRegistry ∨
      (∃ m call, a = .exec m ∧ m.target = .agentRegistry call ∧
        AgentRegistry.Step (w.context D m) w.agentRegistry call w'.agentRegistry) ∨
      (∃ agentId amount logs, (amount ≠ 0 → (w.agentRegistry.agents agentId).agentId ≠ 0) ∧
        w'.agentRegistry = { w.agentRegistry.toppedUp agentId amount with logs }) ∨
      ∃ p, a = .resume (.agentRegistry p) ∧ w'.agentRegistry = w.agentRegistry.resume p := by
  cases h with
  | agentRegistry htarget hexec =>
    exact .inr (.inl ⟨_, _, rfl, htarget, AgentRegistry.step_of_exec hexec⟩)
  | @claimRewardVault w m call o _ hexec =>
    have hstep := ClaimRewardVault.step_of_exec hexec
    generalize o.state = s at hstep ⊢
    cases hstep with
    | fundClaimRewards | withdrawAccruedRewards | setDepositsPaused => exact .inl rfl
    | accrueWorkReward haccruable =>
      exact .inr (.inr (.inl ⟨_, _, _, fun hamount => (haccruable.topUp hamount).2.2.2.1, rfl⟩))
  | resume p w =>
    cases p with
    | agentRegistry p => exact .inr (.inr (.inr ⟨p, rfl, rfl⟩))
    | _ => exact .inl rfl
  | _ => exact .inl rfl

end ScientificProtocol
