import ScientificProtocol.Evm.Mapping
import ScientificProtocol.AccessManaged

/-!
# `AgentRegistry`

`contracts/AgentRegistry.sol`: agent identities, their controllers and their
budgets. The registry holds the ether of every budget. Two of its functions send
value to a recipient somebody chose, and stop at that transfer
(`ScientificProtocol.AgentRegistry.Pending`).
-/

namespace ScientificProtocol

open Evm

structure AgentRecord where
  agentId : ℕ
  operator : Address
  metadataHash : Bytes32
  uri : String
  budgetBalance : ℕ
  reservedBudget : ℕ
  spentBudget : ℕ
  spendLimit : ℕ
  active : Bool
  deriving DecidableEq, Inhabited

namespace AgentRegistry

inductive Event where
  | agentRegistered (agentId : ℕ) (operator : Address) (metadataHash : Bytes32) (uri : String)
      (spendLimit : ℕ)
  | agentControllerAuthorization (agentId : ℕ) (controller : Address) (authorized : Bool)
  | agentBudgetDeposited (agentId : ℕ) (funder : Address) (amount : ℕ)
  | agentSpendLimitUpdated (agentId newSpendLimit : ℕ) (actor : Address)
  | agentBudgetReserved (agentId amount : ℕ) (actor : Address)
  | agentBudgetReleased (agentId amount : ℕ) (actor : Address)
  | agentBudgetConsumed (agentId amount : ℕ) (recipient actor : Address)
  | agentBudgetWithdrawn (agentId amount : ℕ) (recipient : Address)
  | agentStatusUpdated (agentId : ℕ) (active : Bool) (actor : Address)
  | depositsPauseSet (paused : Bool) (actor : Address)
  deriving DecidableEq

/-- A call that is at its transfer. -/
inductive Pending where
  | consumeBudget (sender : Address) (agentId amount : ℕ) (recipient : Address)
  | withdrawBudget (agentId amount : ℕ) (recipient : Address)
  deriving DecidableEq

/-- The entry points of the registry. -/
inductive Call where
  | registerAgent (metadataHash : Bytes32) (uri : String) (spendLimit : ℕ)
  | authorizeController (agentId : ℕ) (controller : Address) (authorized : Bool)
  | setSpendLimit (agentId spendLimit : ℕ)
  | setAgentActive (agentId : ℕ) (active : Bool)
  | fundAgentBudget (agentId : ℕ)
  | reserveBudget (agentId amount : ℕ)
  | releaseBudget (agentId amount : ℕ)
  | consumeBudget (agentId amount : ℕ) (recipient : Address)
  | withdrawBudget (agentId amount : ℕ) (recipient : Address)
  | setDepositsPaused (paused : Bool)
  deriving DecidableEq

/-- The `payable` entry points. -/
def Call.payable : Call → Bool
  | .registerAgent .. => true
  | .fundAgentBudget _ => true
  | _ => false

end AgentRegistry

/-- The storage of the registry, its ether and its log. -/
structure AgentRegistry where
  nextAgentId : ℕ
  agents : Mapping ℕ AgentRecord
  controllers : Mapping ℕ (Mapping Address Bool)
  depositsPaused : Bool
  entered : Bool
  balance : ℕ
  logs : List AgentRegistry.Event
  deriving Inhabited

namespace AgentRegistry

/-- The registry as it is deployed. -/
def deployed : AgentRegistry := { (default : AgentRegistry) with nextAgentId := 1 }

variable (ctx : Ctx) (self : AgentRegistry)

/-! ### Reads -/

def agentExists (agentId : ℕ) : Bool := decide ((self.agents agentId).agentId ≠ 0)

def isActiveAgent (agentId : ℕ) : Bool :=
  decide ((self.agents agentId).agentId ≠ 0) && (self.agents agentId).active

def isAuthorizedController (agentId : ℕ) (controller : Address) : Bool :=
  decide ((self.agents agentId).agentId ≠ 0) && (self.agents agentId).active &&
    self.controllers agentId controller

def requireExistingAgent (agentId : ℕ) : Tx Revert AgentRecord := do
  let agent := self.agents agentId
  revertIf (agent.agentId = 0) (.agentRegistryUnknownAgent agentId)
  return agent

def getAgent (agentId : ℕ) : Tx Revert AgentRecord := self.requireExistingAgent agentId

def requireOperator (agentId : ℕ) : Tx Revert AgentRecord := do
  let agent ← self.requireExistingAgent agentId
  revertIf (ctx.sender ≠ agent.operator) (.agentRegistryUnauthorizedAgent agentId ctx.sender)
  return agent

def requireActiveAgent (agent : AgentRecord) : Tx Revert Unit :=
  revertIf (¬agent.active) (.agentRegistryInactiveAgent agent.agentId)

def requireValidRecipient (recipient : Address) : Tx Revert Unit :=
  revertIf (recipient = 0) (.agentRegistryInvalidRecipient recipient)

/-! ### Entry points -/

def registerAgent (metadataHash : Bytes32) (uri : String) (spendLimit : ℕ) :
    Tx Revert (ℕ × AgentRegistry) := do
  whenDepositsNotPaused self.depositsPaused
  let agentId := self.nextAgentId
  let nextAgentId ← checkedAdd agentId 1
  let agent : AgentRecord :=
    { agentId, operator := ctx.sender, metadataHash, uri, budgetBalance := ctx.value,
      reservedBudget := 0, spentBudget := 0, spendLimit, active := true }
  return (agentId, { self with
    nextAgentId
    agents := self.agents.set agentId agent
    controllers := self.controllers.set agentId ((self.controllers agentId).set ctx.sender true)
    logs := self.logs ++
      .agentRegistered agentId ctx.sender metadataHash uri spendLimit ::
        if ctx.value ≠ 0 then [.agentBudgetDeposited agentId ctx.sender ctx.value] else [] })

def authorizeController (agentId : ℕ) (controller : Address) (authorized : Bool) :
    Tx Revert AgentRegistry := do
  let agent ← self.requireOperator ctx agentId
  return { self with
    controllers :=
      self.controllers.set agentId ((self.controllers agentId).set controller authorized)
    logs := self.logs ++ [.agentControllerAuthorization agent.agentId controller authorized] }

def setSpendLimit (agentId spendLimit : ℕ) : Tx Revert AgentRegistry := do
  let agent ← self.requireOperator ctx agentId
  let committed ← checkedAdd agent.spentBudget agent.reservedBudget
  revertIf (spendLimit < committed)
    (.agentRegistrySpendLimitBelowCommitted agentId spendLimit committed)
  return { self with
    agents := self.agents.set agentId { agent with spendLimit }
    logs := self.logs ++ [.agentSpendLimitUpdated agentId spendLimit ctx.sender] }

def setAgentActive (agentId : ℕ) (active : Bool) : Tx Revert AgentRegistry := do
  let agent ← self.requireOperator ctx agentId
  return { self with
    agents := self.agents.set agentId { agent with active }
    logs := self.logs ++ [.agentStatusUpdated agentId active ctx.sender] }

def fundAgentBudget (agentId : ℕ) : Tx Revert AgentRegistry := do
  nonReentrant self.entered
  whenDepositsNotPaused self.depositsPaused
  let agent := self.agents agentId
  revertIf (agent.agentId = 0) (.agentRegistryUnknownAgent agentId)
  revertIf (ctx.value = 0) (.agentRegistryInvalidAmount ctx.value)
  let budgetBalance ← checkedAdd agent.budgetBalance ctx.value
  return { self with
    agents := self.agents.set agentId { agent with budgetBalance }
    logs := self.logs ++ [.agentBudgetDeposited agentId ctx.sender ctx.value] }

def reserveBudget (agentId amount : ℕ) : Tx Revert AgentRegistry := do
  ctx.onlyRole .agentBudgetManager
  let agent ← self.requireExistingAgent agentId
  requireActiveAgent agent
  revertIf (amount = 0) (.agentRegistryInvalidAmount amount)
  let reservedAfter ← checkedAdd agent.reservedBudget amount
  let committedAfter ← checkedAdd agent.spentBudget reservedAfter
  revertIf (committedAfter > agent.spendLimit)
    (.agentRegistrySpendLimitExceeded agentId committedAfter agent.spendLimit)
  revertIf (agent.budgetBalance < reservedAfter)
    (.agentRegistryInsufficientBudget agentId reservedAfter agent.budgetBalance)
  return { self with
    agents := self.agents.set agentId { agent with reservedBudget := reservedAfter }
    logs := self.logs ++ [.agentBudgetReserved agentId amount ctx.sender] }

def releaseBudget (agentId amount : ℕ) : Tx Revert AgentRegistry := do
  ctx.onlyRole .agentBudgetManager
  let agent ← self.requireExistingAgent agentId
  revertIf (amount = 0) (.agentRegistryInvalidAmount amount)
  revertIf (agent.reservedBudget < amount)
    (.agentRegistryInsufficientBudget agentId amount agent.reservedBudget)
  let reservedBudget ← checkedSub agent.reservedBudget amount
  return { self with
    agents := self.agents.set agentId { agent with reservedBudget }
    logs := self.logs ++ [.agentBudgetReleased agentId amount ctx.sender] }

/-- `_safeTransferValue`, up to the recipient's code: the guard is taken and the
ether is gone. -/
def safeTransferValue (recipient : Address) (amount : ℕ) (pending : Pending) :
    Tx Revert (Outcome AgentRegistry Pending) := do
  revertIf (self.balance < amount ∨ ctx.refusesValue recipient)
    (.agentRegistryTransferFailed recipient amount)
  return .transfer recipient amount pending
    { self with balance := self.balance - amount, entered := true }

def consumeBudget (agentId amount : ℕ) (recipient : Address) :
    Tx Revert (Outcome AgentRegistry Pending) := do
  ctx.onlyRole .agentBudgetManager
  nonReentrant self.entered
  let agent ← self.requireExistingAgent agentId
  requireActiveAgent agent
  revertIf (amount = 0) (.agentRegistryInvalidAmount amount)
  requireValidRecipient recipient
  -- The error names the balance, also where it is the reserved part that is too small.
  revertIf (agent.reservedBudget < amount ∨ agent.budgetBalance < amount)
    (.agentRegistryInsufficientBudget agentId amount agent.budgetBalance)
  let reservedBudget ← checkedSub agent.reservedBudget amount
  let budgetBalance ← checkedSub agent.budgetBalance amount
  let spentBudget ← checkedAdd agent.spentBudget amount
  let self := { self with
    agents := self.agents.set agentId { agent with reservedBudget, budgetBalance, spentBudget } }
  self.safeTransferValue ctx recipient amount (.consumeBudget ctx.sender agentId amount recipient)

def withdrawBudget (agentId amount : ℕ) (recipient : Address) :
    Tx Revert (Outcome AgentRegistry Pending) := do
  nonReentrant self.entered
  let agent ← self.requireOperator ctx agentId
  revertIf (amount = 0) (.agentRegistryInvalidAmount amount)
  requireValidRecipient recipient
  let availableBudget ← checkedSub agent.budgetBalance agent.reservedBudget
  revertIf (availableBudget < amount)
    (.agentRegistryInsufficientBudget agentId amount availableBudget)
  let budgetBalance ← checkedSub agent.budgetBalance amount
  let self := { self with agents := self.agents.set agentId { agent with budgetBalance } }
  self.safeTransferValue ctx recipient amount (.withdrawBudget agentId amount recipient)

def setDepositsPaused (paused : Bool) : Tx Revert AgentRegistry := do
  ctx.onlyRole .pauser
  return { self with
    depositsPaused := paused
    logs := self.logs ++ [.depositsPauseSet paused ctx.sender] }

/-- What is left of a call after its transfer: the event, and the guard. -/
def resume (pending : Pending) : AgentRegistry :=
  let event : Event := match pending with
    | .consumeBudget sender agentId amount recipient =>
      .agentBudgetConsumed agentId amount recipient sender
    | .withdrawBudget agentId amount recipient => .agentBudgetWithdrawn agentId amount recipient
  { self with entered := false, logs := self.logs ++ [event] }

/-- A call from outside: `msg.value` arrives, and the entry point runs. -/
def exec (call : Call) : Tx Revert (Outcome AgentRegistry Pending) := do
  let balance ← ctx.receiveValue call.payable self.balance
  let self := { self with balance }
  match call with
  | .registerAgent metadataHash uri spendLimit =>
    (fun r => .done r.2) <$> self.registerAgent ctx metadataHash uri spendLimit
  | .authorizeController agentId controller authorized =>
    .done <$> self.authorizeController ctx agentId controller authorized
  | .setSpendLimit agentId spendLimit => .done <$> self.setSpendLimit ctx agentId spendLimit
  | .setAgentActive agentId active => .done <$> self.setAgentActive ctx agentId active
  | .fundAgentBudget agentId => .done <$> self.fundAgentBudget ctx agentId
  | .reserveBudget agentId amount => .done <$> self.reserveBudget ctx agentId amount
  | .releaseBudget agentId amount => .done <$> self.releaseBudget ctx agentId amount
  | .consumeBudget agentId amount recipient => self.consumeBudget ctx agentId amount recipient
  | .withdrawBudget agentId amount recipient => self.withdrawBudget ctx agentId amount recipient
  | .setDepositsPaused paused => .done <$> self.setDepositsPaused ctx paused

end AgentRegistry

end ScientificProtocol
