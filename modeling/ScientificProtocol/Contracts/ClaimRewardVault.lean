import ScientificProtocol.Contracts.ClaimRegistry

/-!
# `ClaimRewardVault`

`contracts/ClaimRewardVault.sol`: reward pools, one for each claim and class of
work, that accrue into the balances of recipients and into the budgets of
agents. The second half of an accrual is a call, with value, to the agent
registry, so an accrual changes two contracts or neither.
-/

namespace ScientificProtocol

open Evm

namespace ClaimRewardVault

inductive Event where
  | claimRewardFunded (claimId : ℕ) (workKind : UInt8) (funder : Address)
      (amount newPoolBalance : ℕ)
  | workRewardAccrued (claimId : ℕ) (workKind : UInt8) (settlementId : Bytes32) (agentId : ℕ)
      (recipient : Address) (recipientAmount agentBudgetAmount : ℕ)
  | rewardWithdrawn (account recipient : Address) (amount : ℕ)
  | depositsPauseSet (paused : Bool) (actor : Address)
  deriving DecidableEq

/-- A withdrawal that is at its transfer. -/
inductive Pending where
  | withdrawAccruedRewards (account recipient : Address) (amount : ℕ)
  deriving DecidableEq

/-- The arguments of an accrual. -/
structure Accrual where
  claimId : ℕ
  workKind : UInt8
  settlementId : Bytes32
  recipient : Address
  agentId : ℕ
  amount : ℕ
  budgetTopUpBps : UInt16
  deriving DecidableEq

/-- The entry points of the vault. -/
inductive Call where
  | fundClaimRewards (claimId : ℕ) (workKind : UInt8)
  | accrueWorkReward (accrual : Accrual)
  | withdrawAccruedRewards (amount : ℕ) (recipient : Address)
  | setDepositsPaused (paused : Bool)
  deriving DecidableEq

/-- The `payable` entry points. -/
def Call.payable : Call → Bool
  | .fundClaimRewards .. => true
  | _ => false

end ClaimRewardVault

/-- The storage of the vault, its ether and its log. -/
structure ClaimRewardVault where
  claimRewardPools : Mapping ℕ (Mapping UInt8 ℕ)
  accruedRewardBalances : Mapping Address ℕ
  settledRewards : Mapping Bytes32 Bool
  depositsPaused : Bool
  entered : Bool
  balance : ℕ
  logs : List ClaimRewardVault.Event
  deriving Inhabited

namespace ClaimRewardVault

/-- The vault as it is deployed. -/
def deployed : ClaimRewardVault := default

/-- `WORK_KIND_COUNT`. -/
def workKindCount : UInt8 := 6

/-- `_requireValidWorkKind`. -/
def requireValidWorkKind (workKind : UInt8) : Tx Revert Unit :=
  revertIf (workKind ≥ workKindCount) (.claimRewardVaultInvalidWorkKind workKind)

namespace Accrual

/-- The part of an accrual that tops an agent budget up, rounded down. -/
def agentBudgetAmount (accrual : Accrual) : ℕ :=
  accrual.amount * accrual.budgetTopUpBps.toNat / 10000

/-- The part of an accrual the recipient gets. -/
def recipientAmount (accrual : Accrual) : ℕ := accrual.amount - accrual.agentBudgetAmount

end Accrual

variable (ctx : Ctx) (self : ClaimRewardVault)

/-- Overwriting one pool. -/
def setPool (claimId : ℕ) (workKind : UInt8) (poolBalance : ℕ) : Mapping ℕ (Mapping UInt8 ℕ) :=
  self.claimRewardPools.set claimId ((self.claimRewardPools claimId).set workKind poolBalance)

/-! ### Entry points -/

def fundClaimRewards (claimRegistry : ClaimRegistry) (claimId : ℕ) (workKind : UInt8) :
    Tx Revert ClaimRewardVault := do
  whenDepositsNotPaused self.depositsPaused
  revertIf (¬claimRegistry.claimExists claimId) (.claimRewardVaultUnknownClaim claimId)
  requireValidWorkKind workKind
  revertIf (ctx.value = 0) (.claimRewardVaultInvalidAmount ctx.value)
  let newPoolBalance ← checkedAdd (self.claimRewardPools claimId workKind) ctx.value
  return { self with
    claimRewardPools := self.setPool claimId workKind newPoolBalance
    logs := self.logs ++
      [.claimRewardFunded claimId workKind ctx.sender ctx.value newPoolBalance] }

/-- The checks of an accrual, in the order the source makes them. -/
def requireAccrual (claimRegistry : ClaimRegistry) (agentRegistry : AgentRegistry)
    (accrual : Accrual) : Tx Revert Unit := do
  revertIf (¬claimRegistry.claimExists accrual.claimId)
    (.claimRewardVaultUnknownClaim accrual.claimId)
  requireValidWorkKind accrual.workKind
  revertIf (accrual.amount = 0) (.claimRewardVaultInvalidAmount accrual.amount)
  revertIf (self.settledRewards accrual.settlementId)
    (.claimRewardVaultDuplicateSettlement accrual.settlementId)
  revertIf (accrual.budgetTopUpBps > 10000)
    (.claimRewardVaultInvalidBudgetTopUpBps accrual.budgetTopUpBps)
  revertIf (accrual.agentId = 0 ∧ accrual.budgetTopUpBps ≠ 0)
    (.claimRewardVaultUnknownAgent accrual.agentId)
  revertIf (accrual.agentId ≠ 0 ∧ ¬agentRegistry.agentExists accrual.agentId)
    (.claimRewardVaultUnknownAgent accrual.agentId)
  let available := self.claimRewardPools accrual.claimId accrual.workKind
  revertIf (available < accrual.amount)
    (.claimRewardVaultInsufficientPoolBalance accrual.claimId accrual.workKind accrual.amount
      available)
  let _ ← checkedMul accrual.amount accrual.budgetTopUpBps.toNat
  let _ ← checkedSub accrual.amount accrual.agentBudgetAmount
  revertIf (accrual.recipientAmount ≠ 0 ∧ accrual.recipient = 0)
    (.claimRewardVaultInvalidRecipient accrual.recipient)
  revertIf (accrual.agentBudgetAmount ≠ 0 ∧ ¬agentRegistry.isActiveAgent accrual.agentId)
    (.claimRewardVaultInactiveAgent accrual.agentId)

/-- The vault's own writes of an accrual: the settlement is spent, the pool pays
and the recipient's balance grows. -/
def chargePool (accrual : Accrual) : Tx Revert ClaimRewardVault := do
  let poolBalance ←
    checkedSub (self.claimRewardPools accrual.claimId accrual.workKind) accrual.amount
  let self := { self with
    settledRewards := self.settledRewards.set accrual.settlementId true
    claimRewardPools := self.setPool accrual.claimId accrual.workKind poolBalance }
  if accrual.recipientAmount ≠ 0 then
    let accrued ←
      checkedAdd (self.accruedRewardBalances accrual.recipient) accrual.recipientAmount
    return { self with
      accruedRewardBalances := self.accruedRewardBalances.set accrual.recipient accrued }
  else
    return self

/-- `agentRegistry.fundAgentBudget{value: agentBudgetAmount}(agentId)`: the value
leaves the vault, and the registry runs with the vault as its caller. -/
def topUpBudget (agentRegistry : AgentRegistry) (accrual : Accrual) :
    Tx Revert (ClaimRewardVault × AgentRegistry) := do
  revertIf (self.balance < accrual.agentBudgetAmount)
    (.claimRewardVaultCallValueFailed accrual.agentBudgetAmount)
  let self := { self with balance := self.balance - accrual.agentBudgetAmount }
  -- The value arrives before the registry looks at its own guards.
  let callCtx := { ctx with
    sender := ctx.deployment.claimRewardVault, value := accrual.agentBudgetAmount }
  let balance ← callCtx.receiveValue true agentRegistry.balance
  let agentRegistry ← { agentRegistry with balance }.fundAgentBudget callCtx accrual.agentId
  return (self, agentRegistry)

def accrueWorkReward (claimRegistry : ClaimRegistry) (agentRegistry : AgentRegistry)
    (accrual : Accrual) : Tx Revert (ClaimRewardVault × AgentRegistry) := do
  ctx.onlyRole .rewardSettler
  nonReentrant self.entered
  self.requireAccrual claimRegistry agentRegistry accrual
  let self ← self.chargePool accrual
  let (self, agentRegistry) ←
    if accrual.agentBudgetAmount ≠ 0 then self.topUpBudget ctx agentRegistry accrual
    else pure (self, agentRegistry)
  return ({ self with
    logs := self.logs ++
      [.workRewardAccrued accrual.claimId accrual.workKind accrual.settlementId accrual.agentId
        accrual.recipient accrual.recipientAmount accrual.agentBudgetAmount] }, agentRegistry)

/-- `_safeTransferValue`, up to the recipient's code. -/
def safeTransferValue (recipient : Address) (amount : ℕ) (pending : Pending) :
    Tx Revert (Outcome ClaimRewardVault Pending) := do
  revertIf (self.balance < amount ∨ ctx.refusesValue recipient)
    (.claimRewardVaultTransferFailed recipient amount)
  return .transfer recipient amount pending
    { self with balance := self.balance - amount, entered := true }

def withdrawAccruedRewards (amount : ℕ) (recipient : Address) :
    Tx Revert (Outcome ClaimRewardVault Pending) := do
  nonReentrant self.entered
  revertIf (amount = 0) (.claimRewardVaultInvalidAmount amount)
  revertIf (recipient = 0) (.claimRewardVaultInvalidRecipient recipient)
  let available := self.accruedRewardBalances ctx.sender
  revertIf (available < amount) (.claimRewardVaultInvalidAmount amount)
  let accrued ← checkedSub available amount
  let self := { self with
    accruedRewardBalances := self.accruedRewardBalances.set ctx.sender accrued }
  self.safeTransferValue ctx recipient amount
    (.withdrawAccruedRewards ctx.sender recipient amount)

def setDepositsPaused (paused : Bool) : Tx Revert ClaimRewardVault := do
  ctx.onlyRole .pauser
  return { self with
    depositsPaused := paused
    logs := self.logs ++ [.depositsPauseSet paused ctx.sender] }

/-- What is left of a withdrawal after its transfer: the event, and the guard. -/
def resume (pending : Pending) : ClaimRewardVault :=
  let event : Event := match pending with
    | .withdrawAccruedRewards account recipient amount =>
      .rewardWithdrawn account recipient amount
  { self with entered := false, logs := self.logs ++ [event] }

/-- A call from outside: `msg.value` arrives, and the entry point runs. The state
is that of the vault and of the registry it may call. -/
def exec (claimRegistry : ClaimRegistry) (agentRegistry : AgentRegistry) (call : Call) :
    Tx Revert (Outcome (ClaimRewardVault × AgentRegistry) Pending) := do
  let balance ← ctx.receiveValue call.payable self.balance
  let self := { self with balance }
  match call with
  | .fundClaimRewards claimId workKind =>
    (fun vault => .done (vault, agentRegistry)) <$>
      self.fundClaimRewards ctx claimRegistry claimId workKind
  | .accrueWorkReward accrual =>
    .done <$> self.accrueWorkReward ctx claimRegistry agentRegistry accrual
  | .withdrawAccruedRewards amount recipient =>
    (Outcome.map (·, agentRegistry) id) <$> self.withdrawAccruedRewards ctx amount recipient
  | .setDepositsPaused paused =>
    (fun vault => .done (vault, agentRegistry)) <$> self.setDepositsPaused ctx paused

end ClaimRewardVault

end ScientificProtocol
