import Mathlib.Logic.Basic
import ScientificProtocol.Errors

/-!
# What a call carries, and the modifiers

`contracts/utils/AccessManaged.sol`, `contracts/utils/DepositPausable.sol`, and
the two facts about the environment every entry point depends on: the message it
was sent and the addresses the protocol was deployed at.

The role table itself is kept by a package outside the repository, so the model
knows only what the table answers, through `ScientificProtocol.Ctx.hasRole`; who
may change it, and when, is left open. A resolution module whose code is not one
of the three in the repository answers as it likes, call by call
(`ScientificProtocol.ModuleReply`).
-/

namespace ScientificProtocol

open Evm

/-- The code behind the address of a resolution module. -/
inductive ModuleCode where
  | computational
  | benchmark
  | wetLab
  /-- Anything else, including an address without code. -/
  | other
  deriving DecidableEq, Repr

/-- How a module whose code is not in the repository answers during one call;
`none` is a revert. -/
structure ModuleReply where
  moduleKind : Option ResolutionModuleKind
  moduleName : Option String
  validateResolution : Option Bool
  deriving Inhabited

/-- What is fixed once the protocol is deployed: the hash function, the code of
the resolution modules, the addresses of the contracts and the two immutable
recipients, which the constructors require to be nonzero. -/
structure Deployment where
  keccak256 : List UInt8 → Bytes32
  moduleCode : Address → ModuleCode
  bondEscrow : Address
  replicationRegistry : Address
  claimRewardVault : Address
  /-- The protocol contracts: none of them has a `receive` or `fallback` function,
  so a plain transfer to one of them fails. -/
  contracts : List Address
  slashRecipient : Address
  forfeitRecipient : Address
  bondEscrow_ne_zero : bondEscrow ≠ 0
  replicationRegistry_ne_zero : replicationRegistry ≠ 0
  slashRecipient_ne_zero : slashRecipient ≠ 0
  forfeitRecipient_ne_zero : forfeitRecipient ≠ 0

/-- The context of one call: `msg.sender`, `msg.value`, `block.timestamp` and
what the role table answers now. -/
structure Ctx where
  sender : Address
  value : ℕ
  timestamp : ℕ
  hasRole : Role → Address → Bool
  reply : ModuleReply
  deployment : Deployment

namespace Ctx

variable (ctx : Ctx)

/-- `onlyRole(role)`. -/
def onlyRole (role : Role) : Tx Revert Unit :=
  revertIf (¬ctx.hasRole role ctx.sender) (.accessManagedMissingRole role ctx.sender)

/-- The check the compiler puts at the head of a function that is not payable. -/
def nonPayable : Tx Revert Unit := if ctx.value = 0 then .ok () else .error .nonPayable

/-- What the balance of the called contract is once `msg.value` has arrived. An
account balance is a word, so nobody can send more than is left of one. -/
def receiveValue (payable : Bool) (balance : ℕ) : Tx Revert ℕ :=
  if ctx.value ≠ 0 ∧ ¬payable then .error .nonPayable
  else if uint256Size ≤ balance + ctx.value then .error .unfunded
  else .ok (balance + ctx.value)

/-- A plain transfer to `recipient` cannot succeed. -/
def refusesValue (recipient : Address) : Bool := decide (recipient ∈ ctx.deployment.contracts)

/-- Value that does not arrive is no error of the called code. -/
theorem avoids_receiveValue {payable : Bool} {balance : ℕ} {err : Revert} :
    Avoids err (ctx.receiveValue payable balance) := by
  unfold receiveValue
  split
  · simp [Avoids]
  · split <;> simp [Avoids]

@[simp] theorem onlyRole_eq_ok {role : Role} {u : Unit} :
    ctx.onlyRole role = .ok u ↔ ctx.hasRole role ctx.sender = true := by
  simp [onlyRole]

@[simp] theorem nonPayable_eq_ok {u : Unit} : ctx.nonPayable = .ok u ↔ ctx.value = 0 := by
  by_cases h : ctx.value = 0 <;> simp [nonPayable, h]

@[simp] theorem receiveValue_eq_ok {payable : Bool} {balance r : ℕ} :
    ctx.receiveValue payable balance = .ok r ↔
      (ctx.value = 0 ∨ payable = true) ∧ balance + ctx.value < uint256Size ∧
        r = balance + ctx.value := by
  unfold receiveValue
  split
  next h => simp [h]
  next h =>
    have hp : ctx.value = 0 ∨ payable = true := by
      simpa only [not_and, not_not, ← or_iff_not_imp_left] using h
    split
    next hfull => simp [Nat.not_lt.mpr hfull]
    next hfits => simp [hp, Nat.not_le.mp hfits, eq_comm]

/-- Without value nothing arrives. -/
theorem receiveValue_of_zero (payable : Bool) {balance : ℕ} (hvalue : ctx.value = 0)
    (hlt : balance < uint256Size) : ctx.receiveValue payable balance = .ok balance := by
  rw [receiveValue_eq_ok, hvalue]
  exact ⟨.inl rfl, hlt, rfl⟩

@[simp] theorem noPanic_onlyRole (role : Role) : NoPanic (ctx.onlyRole role) := by
  simp [onlyRole]

@[simp] theorem noPanic_receiveValue (payable : Bool) (balance : ℕ) :
    NoPanic (ctx.receiveValue payable balance) := by
  unfold receiveValue
  split
  · simp
  · split <;> simp

end Ctx

/-! ### Modifiers on a flag of the contract -/

/-- `whenDepositsNotPaused`. -/
def whenDepositsNotPaused (depositsPaused : Bool) : Tx Revert Unit :=
  revertIf depositsPaused .depositsPausedError

/-- The check of `nonReentrant`: the guard of the contract must be free. -/
def nonReentrant (entered : Bool) : Tx Revert Unit :=
  revertIf entered .reentrancyGuardReentrantCall

@[simp] theorem whenDepositsNotPaused_eq_ok {b : Bool} {u : Unit} :
    whenDepositsNotPaused b = .ok u ↔ b = false := by
  simp [whenDepositsNotPaused]

@[simp] theorem nonReentrant_eq_ok {b : Bool} {u : Unit} :
    nonReentrant b = .ok u ↔ b = false := by
  simp [nonReentrant]

@[simp] theorem noPanic_whenDepositsNotPaused (b : Bool) : NoPanic (whenDepositsNotPaused b) := by
  simp [whenDepositsNotPaused]

@[simp] theorem noPanic_nonReentrant (b : Bool) : NoPanic (nonReentrant b) := by
  simp [nonReentrant]

end ScientificProtocol
