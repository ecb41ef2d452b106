import ScientificProtocol.Agents.Step
import ScientificProtocol.Evm.Numbered

/-!
# Agent budgets are safe

The ether of the agent registry is in the budgets of the agents. Of a budget a part is
reserved, and two bounds hold of every agent at every moment: what is reserved is in the
budget, and what is spent and what is reserved together are below the ceiling of the
operator (`ScientificProtocol.Budgeted`). The two have to be carried together. Consuming
takes out of the reserved part and so keeps the first bound, and moves value from the
reserved part to the spent one and so keeps the second; lowering the ceiling is tested
against both parts.

What the source subtracts is then always there, and one of the two tests of
`consumeBudget` can never be the one that fails
(`ScientificProtocol.BudgetsSound.redundant`).
-/

namespace ScientificProtocol

open Evm

/-! ### One budget -/

/-- **The two bounds of one agent.** -/
structure Budgeted (agent : AgentRecord) : Prop where
  reserved_le : agent.reservedBudget ≤ agent.budgetBalance
  committed_le : agent.spentBudget + agent.reservedBudget ≤ agent.spendLimit

namespace Budgeted

variable {agent : AgentRecord} {amount : ℕ}

/-- A slot nobody registered. -/
theorem blank : Budgeted default := ⟨le_rfl, le_rfl⟩

theorem fund (h : Budgeted agent) (amount : ℕ) :
    Budgeted { agent with budgetBalance := agent.budgetBalance + amount } :=
  ⟨h.reserved_le.trans (Nat.le_add_right _ _), h.committed_le⟩

/-- The ceiling may come down to what is committed. -/
theorem setSpendLimit (h : Budgeted agent) {spendLimit : ℕ}
    (hlimit : agent.spentBudget + agent.reservedBudget ≤ spendLimit) :
    Budgeted { agent with spendLimit } := ⟨h.reserved_le, hlimit⟩

theorem setActive (h : Budgeted agent) (active : Bool) : Budgeted { agent with active } :=
  ⟨h.reserved_le, h.committed_le⟩

/-- A reservation is made below both bounds. -/
theorem reserve (hlimit : agent.spentBudget + (agent.reservedBudget + amount) ≤ agent.spendLimit)
    (hbudget : agent.reservedBudget + amount ≤ agent.budgetBalance) :
    Budgeted { agent with reservedBudget := agent.reservedBudget + amount } := ⟨hbudget, hlimit⟩

/-- Taking from the reserved part spends nothing. -/
theorem release (h : Budgeted agent) (amount : ℕ) :
    Budgeted { agent with reservedBudget := agent.reservedBudget - amount } :=
  ⟨(Nat.sub_le _ _).trans h.reserved_le,
    (Nat.add_le_add_left (Nat.sub_le _ _) _).trans h.committed_le⟩

/-- **Consuming a reservation** lowers the reserved part and the budget by the same amount,
and what is committed stays as it is. -/
theorem consume (h : Budgeted agent) (hamount : amount ≤ agent.reservedBudget) :
    Budgeted { agent with
      reservedBudget := agent.reservedBudget - amount
      budgetBalance := agent.budgetBalance - amount
      spentBudget := agent.spentBudget + amount } := by
  obtain ⟨hreserved, hcommitted⟩ := h
  exact ⟨Nat.sub_le_sub_right hreserved amount, by simp only; omega⟩

/-- The free part of a budget can be withdrawn. -/
theorem withdraw (h : Budgeted agent)
    (hfree : agent.reservedBudget + amount ≤ agent.budgetBalance) :
    Budgeted { agent with budgetBalance := agent.budgetBalance - amount } :=
  ⟨Nat.le_sub_of_add_le hfree, h.committed_le⟩

end Budgeted

/-! ### All budgets -/

/-- **The agents' budgets are what the registry holds**, and each is within its bounds. -/
structure BudgetsHeld (balance next : ℕ) (agents : Mapping ℕ AgentRecord) : Prop where
  balance_eq : balance = agents.total AgentRecord.budgetBalance
  budgeted : ∀ agentId, Budgeted (agents agentId)
  numbered : Numbered AgentRecord.agentId next agents

namespace BudgetsHeld

variable {balance next agentId : ℕ} {agents : Mapping ℕ AgentRecord} {agent : AgentRecord}

theorem empty : BudgetsHeld 0 1 default where
  balance_eq := (Mapping.total_default rfl).symm
  budgeted _ := .blank
  numbered := .empty

/-- What holds of every agent holds of them once one is overwritten. -/
theorem budgeted_set (h : BudgetsHeld balance next agents) (hagent : Budgeted agent) (k : ℕ) :
    Budgeted (agents.set agentId agent k) := by
  by_cases hk : k = agentId
  · rw [hk, Mapping.set_self]
    exact hagent
  · rw [Mapping.set_of_ne _ hk]
    exact h.budgeted k

/-- Registering an agent. -/
theorem register (h : BudgetsHeld balance next agents) (hagent : Budgeted agent)
    (hid : agent.agentId = next) {value : ℕ} (hvalue : agent.budgetBalance = value) :
    BudgetsHeld (balance + value) (next + 1) (agents.set next agent) where
  balance_eq := by
    rw [Mapping.total_set_blank rfl h.numbered.blank_next, h.balance_eq, hvalue]
  budgeted := h.budgeted_set hagent
  numbered := h.numbered.push hid

/-- **Writing a registered agent**: the ether moves by what its budget does. -/
theorem write (h : BudgetsHeld balance next agents) (hexists : (agents agentId).agentId ≠ 0)
    (hagent : Budgeted agent) (hid : agent.agentId = (agents agentId).agentId) {balance' : ℕ}
    (hbalance : balance' + (agents agentId).budgetBalance = balance + agent.budgetBalance) :
    BudgetsHeld balance' next (agents.set agentId agent) where
  balance_eq := by
    have htotal := agents.total_set (w := AgentRecord.budgetBalance) rfl agentId agent
    rw [h.balance_eq] at hbalance
    omega
  budgeted := h.budgeted_set hagent
  numbered := h.numbered.update rfl hexists hid

end BudgetsHeld

namespace AgentRegistry

/-- The registry owes what it holds. -/
def Conserved (s : AgentRegistry) : Prop := BudgetsHeld s.balance s.nextAgentId s.agents

section

variable {ctx : Ctx} {self s : AgentRegistry} {call : Call} {agentId amount : ℕ}
  {recipient : Address}

/-- Topping a budget up conserves. -/
theorem Conserved.toppedUp (h : self.Conserved)
    (hexists : amount ≠ 0 → (self.agents agentId).agentId ≠ 0) :
    (self.toppedUp agentId amount).Conserved := by
  by_cases hamount : amount = 0
  · rw [hamount, toppedUp_zero]
    exact h
  · refine BudgetsHeld.write h (hexists hamount) ((h.budgeted agentId).fund amount) rfl ?_
    simp only [AgentRegistry.toppedUp]
    omega

/-- **Every call conserves.** -/
theorem Step.conserved (h : Step ctx self call s) (hself : self.Conserved) : s.Conserved := by
  cases h with
  | authorizeController | setDepositsPaused => exact hself
  | registerAgent =>
    refine BudgetsHeld.register hself ?_ ?_ ?_
    · exact ⟨Nat.zero_le _, Nat.zero_le _⟩
    · rfl
    · rfl
  | @setSpendLimit agentId _ _ _ hexists _ hlimit =>
    exact BudgetsHeld.write hself hexists ((hself.budgeted agentId).setSpendLimit hlimit) rfl rfl
  | @setAgentActive agentId active _ _ hexists =>
    exact BudgetsHeld.write hself hexists ((hself.budgeted agentId).setActive active) rfl rfl
  | @fundAgentBudget agentId _ _ _ hexists => exact Conserved.toppedUp hself fun _ => hexists
  | reserveBudget _ _ hexists _ _ hlimit hbudget =>
    exact BudgetsHeld.write hself hexists (.reserve hlimit hbudget) rfl rfl
  | @releaseBudget agentId amount _ _ _ hexists =>
    exact BudgetsHeld.write hself hexists ((hself.budgeted agentId).release amount) rfl rfl
  | @consumeBudget agentId amount _ _ _ _ _ hexists _ _ _ hreserved hbudget hether =>
    refine BudgetsHeld.write hself hexists ((hself.budgeted agentId).consume hreserved) rfl ?_
    simp only
    omega
  | @withdrawBudget agentId amount _ _ _ _ hexists _ _ _ hfree hether =>
    refine BudgetsHeld.write hself hexists ((hself.budgeted agentId).withdraw hfree) rfl ?_
    simp only
    omega

/-- **No call takes back what was spent.** -/
theorem Step.spentBudget_le (h : Step ctx self call s) (hself : self.Conserved) (k : ℕ) :
    (self.agents k).spentBudget ≤ (s.agents k).spentBudget := by
  -- Whatever a call writes to an agent, it does not write a lower value here.
  have hset : ∀ {agentId : ℕ} {agent : AgentRecord},
      (self.agents agentId).spentBudget ≤ agent.spentBudget →
      (self.agents k).spentBudget ≤ (self.agents.set agentId agent k).spentBudget := by
    intro agentId agent hle
    by_cases hk : k = agentId
    · rw [hk, Mapping.set_self]
      exact hle
    · rw [Mapping.set_of_ne _ hk]
  cases h with
  | authorizeController | setDepositsPaused => exact le_rfl
  | registerAgent =>
    refine hset ?_
    rw [hself.numbered.blank_next]
    exact le_rfl
  | setSpendLimit | setAgentActive | fundAgentBudget | reserveBudget | releaseBudget
  | withdrawBudget => exact hset le_rfl
  | consumeBudget => exact hset (Nat.le_add_right _ _)

/-! ### No subtraction fails -/

@[simp] theorem noUnderflow_requireExistingAgent :
    NoUnderflow (self.requireExistingAgent agentId) := by
  simp [requireExistingAgent, noUnderflow_bind]

@[simp] theorem noUnderflow_requireOperator : NoUnderflow (self.requireOperator ctx agentId) := by
  simp [requireOperator, noUnderflow_bind]

@[simp] theorem noUnderflow_safeTransferValue {p : Pending} :
    NoUnderflow (self.safeTransferValue ctx recipient amount p) := by
  simp [safeTransferValue, noUnderflow_bind]

theorem noUnderflow_releaseBudget : NoUnderflow (self.releaseBudget ctx agentId amount) := by
  simp only [releaseBudget, noUnderflow_bind, noUnderflow_revertIf, revertIf_eq_ok,
    noUnderflow_requireExistingAgent, pure_eq_ok, noUnderflow_ok, implies_true, and_true, true_and]
  refine ⟨(ctx.noPanic_onlyRole _).noUnderflow, ?_⟩
  rintro - - agent - - - - hreserved
  exact noUnderflow_checkedSub (Nat.not_lt.mp hreserved)

theorem noUnderflow_consumeBudget :
    NoUnderflow (self.consumeBudget ctx agentId amount recipient) := by
  simp only [consumeBudget, requireActiveAgent, requireValidRecipient, nonReentrant,
    noUnderflow_bind, noUnderflow_revertIf, revertIf_eq_ok, noUnderflow_requireExistingAgent,
    noUnderflow_checkedAdd, noUnderflow_safeTransferValue, implies_true, and_true, true_and]
  refine ⟨(ctx.noPanic_onlyRole _).noUnderflow, ?_⟩
  rintro - - - - agent - - - - - - - - htests
  obtain ⟨hreserved, hbudget⟩ := not_or.mp htests
  exact ⟨noUnderflow_checkedSub (Nat.not_lt.mp hreserved),
    fun _ _ => noUnderflow_checkedSub (Nat.not_lt.mp hbudget)⟩

/-- The one subtraction the source does not test beforehand: what is reserved is in the
budget. -/
theorem noUnderflow_withdrawBudget (h : Budgeted (self.agents agentId)) :
    NoUnderflow (self.withdrawBudget ctx agentId amount recipient) := by
  simp only [withdrawBudget, requireValidRecipient, nonReentrant, noUnderflow_bind,
    noUnderflow_revertIf, revertIf_eq_ok, noUnderflow_requireOperator, requireOperator_eq_ok,
    checkedSub_eq_ok, noUnderflow_safeTransferValue, implies_true, and_true, true_and]
  rintro - - agent ⟨-, -, rfl⟩ - - - -
  refine ⟨noUnderflow_checkedSub h.reserved_le, ?_⟩
  rintro available ⟨-, rfl⟩ - havailable
  exact noUnderflow_checkedSub (by omega)

/-- **No subtraction of any call fails.** -/
theorem Conserved.noUnderflow_exec (h : self.Conserved) (call : Call) :
    NoUnderflow (self.exec ctx call) := by
  simp only [exec, noUnderflow_bind, (ctx.noPanic_receiveValue _ _).noUnderflow, true_and]
  rintro balance -
  cases call with
  | registerAgent metadataHash uri spendLimit =>
    refine NoUnderflow.map ?_ _
    simp [registerAgent, whenDepositsNotPaused, noUnderflow_bind]
  | authorizeController agentId controller authorized =>
    refine NoUnderflow.map ?_ _
    simp [authorizeController, noUnderflow_bind]
  | setSpendLimit agentId spendLimit =>
    refine NoUnderflow.map ?_ _
    simp [setSpendLimit, noUnderflow_bind]
  | setAgentActive agentId active =>
    refine NoUnderflow.map ?_ _
    simp [setAgentActive, noUnderflow_bind]
  | fundAgentBudget agentId =>
    refine NoUnderflow.map ?_ _
    simp [fundAgentBudget, nonReentrant, whenDepositsNotPaused, noUnderflow_bind]
  | reserveBudget agentId amount =>
    refine NoUnderflow.map ?_ _
    simp [reserveBudget, requireActiveAgent, Ctx.onlyRole, noUnderflow_bind]
  | releaseBudget agentId amount => exact NoUnderflow.map noUnderflow_releaseBudget _
  | consumeBudget agentId amount recipient => exact noUnderflow_consumeBudget
  | withdrawBudget agentId amount recipient =>
    exact noUnderflow_withdrawBudget (h.budgeted agentId)
  | setDepositsPaused paused =>
    refine NoUnderflow.map ?_ _
    simp [setDepositsPaused, Ctx.onlyRole, noUnderflow_bind]

end

/-! ### A test that never decides -/

/-- `consumeBudget` without its test of the budget: only the reserved part is looked at. -/
def consumeReserved (ctx : Ctx) (self : AgentRegistry) (agentId amount : ℕ)
    (recipient : Address) : Tx Revert (Outcome AgentRegistry Pending) := do
  ctx.onlyRole .agentBudgetManager
  nonReentrant self.entered
  let agent ← self.requireExistingAgent agentId
  requireActiveAgent agent
  revertIf (amount = 0) (.agentRegistryInvalidAmount amount)
  requireValidRecipient recipient
  revertIf (agent.reservedBudget < amount)
    (.agentRegistryInsufficientBudget agentId amount agent.budgetBalance)
  let reservedBudget ← checkedSub agent.reservedBudget amount
  let budgetBalance ← checkedSub agent.budgetBalance amount
  let spentBudget ← checkedAdd agent.spentBudget amount
  let self := { self with
    agents := self.agents.set agentId { agent with reservedBudget, budgetBalance, spentBudget } }
  self.safeTransferValue ctx recipient amount (.consumeBudget ctx.sender agentId amount recipient)

/-- **The test of the budget is redundant**: without it the call does the same. -/
theorem consumeBudget_eq_consumeReserved {ctx : Ctx} {self : AgentRegistry} {agentId amount : ℕ}
    {recipient : Address} (h : Budgeted (self.agents agentId)) :
    self.consumeBudget ctx agentId amount recipient =
      self.consumeReserved ctx agentId amount recipient := by
  have htest : ((self.agents agentId).reservedBudget < amount ∨
      (self.agents agentId).budgetBalance < amount) ↔
        (self.agents agentId).reservedBudget < amount :=
    or_iff_left_of_imp fun hbudget => h.reserved_le.trans_lt hbudget
  have hrevert : ∀ e : Revert, revertIf ((self.agents agentId).reservedBudget < amount ∨
      (self.agents agentId).budgetBalance < amount) e =
        revertIf ((self.agents agentId).reservedBudget < amount) e := by
    intro e
    simp only [revertIf, htest]
  simp only [consumeBudget, consumeReserved, requireExistingAgent]
  by_cases hexists : (self.agents agentId).agentId = 0
  · simp only [revertIf, hexists, if_true, error_bind]
  · simp only [revertIf_of_not hexists, ok_bind, pure_eq_ok, hrevert]

end AgentRegistry

/-! ### Every observable moment -/

section

variable {D : Deployment} {c : Config World Suspended} {tr : List ProtocolEvent}

theorem AgentRegistry.conserved_of_reachable (h : (protocol D).Reachable c) :
    c.world.agentRegistry.Conserved := by
  refine h.invariant (I := fun w => w.agentRegistry.Conserved) ?_ fun {c a w'} _ hc heffect => ?_
  · rintro _ ⟨now, hasRole, -, -, rfl⟩
    exact BudgetsHeld.empty
  · rcases (World.step_of_effect heffect).agentRegistry_cases with
      heq | ⟨m, call, -, -, hcall⟩ | ⟨agentId, amount, logs, hexists, heq⟩ | ⟨p, -, heq⟩
    · rw [heq]
      exact hc
    · exact hcall.conserved hc
    · rw [heq]
      exact hc.toppedUp hexists
    · rw [heq]
      exact hc

/-- What an agent has spent only grows. -/
theorem AgentRegistry.spentBudget_le_of_effect (h : (protocol D).Reachable c)
    {a : Action Message Suspended} {w' : World} (heffect : (protocol D).Effect a c.world w')
    (agentId : ℕ) : (c.world.agentRegistry.agents agentId).spentBudget ≤
      (w'.agentRegistry.agents agentId).spentBudget := by
  rcases (World.step_of_effect heffect).agentRegistry_cases with
    heq | ⟨m, call, -, -, hcall⟩ | ⟨toppedUpId, amount, logs, -, heq⟩ | ⟨p, -, heq⟩
  · rw [heq]
  · exact hcall.spentBudget_le (conserved_of_reachable h) agentId
  · rw [heq]
    simp only [toppedUp, Mapping.set_apply]
    split
    next hid => rw [hid]
    next => exact le_rfl
  · rw [heq]
    exact le_rfl

/-- **What a history tells of the agents' budgets**, up to the world `w` it has reached. -/
structure BudgetsSound (D : Deployment) (tr : List ProtocolEvent) (w : World) : Prop where
  /-- The balance is the sum of the budgets. -/
  balance_eq : w.agentRegistry.balance = w.agentRegistry.agents.total AgentRecord.budgetBalance
  /-- What is reserved is in the budget, -/
  reserved_le : ∀ agentId, (w.agentRegistry.agents agentId).reservedBudget ≤
    (w.agentRegistry.agents agentId).budgetBalance
  /-- and with what is spent below the ceiling. -/
  committed_le : ∀ agentId, (w.agentRegistry.agents agentId).spentBudget +
    (w.agentRegistry.agents agentId).reservedBudget ≤ (w.agentRegistry.agents agentId).spendLimit
  /-- What is spent only grew, in every step and since every step. -/
  spent_le : ∀ e ∈ tr, ∀ agentId,
    (e.before.agentRegistry.agents agentId).spentBudget ≤
        (e.after.agentRegistry.agents agentId).spentBudget ∧
      (e.after.agentRegistry.agents agentId).spentBudget ≤
        (w.agentRegistry.agents agentId).spentBudget
  /-- No call anybody could make now has a failing subtraction. -/
  noUnderflow : ∀ (m : Message) (call : AgentRegistry.Call),
    NoUnderflow (w.agentRegistry.exec (w.context D m) call)
  /-- The test of the budget in `consumeBudget` is redundant. -/
  redundant : ∀ (m : Message) (agentId amount : ℕ) (recipient : Address),
    w.agentRegistry.consumeBudget (w.context D m) agentId amount recipient =
      w.agentRegistry.consumeReserved (w.context D m) agentId amount recipient

/-- **The budgets are sound in every history**, also while a recipient runs. -/
theorem budgets_sound (h : (protocol D).Run tr c) : BudgetsSound D tr c.world where
  balance_eq := (AgentRegistry.conserved_of_reachable h.reachable).balance_eq
  reserved_le agentId :=
    ((AgentRegistry.conserved_of_reachable h.reachable).budgeted agentId).reserved_le
  committed_le agentId :=
    ((AgentRegistry.conserved_of_reachable h.reachable).budgeted agentId).committed_le
  spent_le e he agentId := by
    obtain ⟨heffect, tr', fs, hrun⟩ := h.event_effect e he
    refine ⟨AgentRegistry.spentBudget_le_of_effect hrun.reachable heffect agentId, ?_⟩
    exact (h.event_relation (R := fun w w' => (w.agentRegistry.agents agentId).spentBudget ≤
      (w'.agentRegistry.agents agentId).spentBudget) (fun _ => le_rfl) le_trans
      (fun hrun heffect =>
        AgentRegistry.spentBudget_le_of_effect hrun.reachable heffect agentId) e he).2
  noUnderflow _ call := (AgentRegistry.conserved_of_reachable h.reachable).noUnderflow_exec call
  redundant _ agentId _ _ := AgentRegistry.consumeBudget_eq_consumeReserved
    ((AgentRegistry.conserved_of_reachable h.reachable).budgeted agentId)

/-- A history that stops inside a consumption: the recipient has 12 of the 40 that are
reserved, and while it runs the operator lowers the ceiling to what is committed and a part
of the rest is released. -/
def reentrantConsumption : List (Move Message) :=
  [send 0xEE 60 (.agentRegistry (.registerAgent 5 "" 100)),
    send 0x0A 0 (.agentRegistry (.reserveBudget 1 40)),
    send 0x0A 0 (.agentRegistry (.consumeBudget 1 12 0xBB)),
    send 0xEE 0 (.agentRegistry (.setSpendLimit 1 40)),
    send 0x0A 0 (.agentRegistry (.releaseBudget 1 8))]

theorem playDevnet_reentrantConsumption : (playDevnet reentrantConsumption).isSome := by
  decide

/-- There, what is spent and what is reserved are within the lowered ceiling. -/
theorem budgets_sound_reentrantConsumption :
    12 + 20 ≤ ((((playDevnet reentrantConsumption).get
      playDevnet_reentrantConsumption).2.world.agentRegistry.agents 1).spendLimit) :=
  Eq.trans_le (by decide)
    ((budgets_sound (run_playDevnet playDevnet_reentrantConsumption)).committed_le 1)

end

end ScientificProtocol
