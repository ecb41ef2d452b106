import ScientificProtocol.Evm.Mapping
import ScientificProtocol.AccessManaged

/-!
# The resolution modules and their registry

`contracts/modules/*.sol`, `contracts/ResolutionModuleRegistry.sol` and
`contracts/ProtocolParameters.sol`: the configuration a claim is created under.
The three modules of the repository share one validation and differ in the two
sets they accept, so each is `ScientificProtocol.BaseResolutionModule.validateResolution`
at its own pair of checks.
-/

namespace ScientificProtocol

open Evm

/-! ### The modules -/

namespace BaseResolutionModule

def validateConfidence (confidenceBps : UInt16) : Tx Revert Unit :=
  revertIf (confidenceBps = 0 ∨ confidenceBps > 10000)
    (.resolutionModuleInvalidConfidence confidenceBps)

def validateEvidence (evidenceHash : Bytes32) (evidenceURI : String) : Tx Revert Unit :=
  revertIf (evidenceHash = 0 ∧ evidenceURI.utf8ByteSize = 0) .resolutionModuleMissingEvidence

/-- The validation every module of the repository shares, at the statuses and
the resolver types it accepts. -/
def validateResolution (statuses : List ResolutionStatus) (resolverTypes : List ResolverType)
    (result : ResolutionResult) : Tx Revert Bool := do
  validateConfidence result.confidenceBps
  validateEvidence result.evidenceHash result.evidenceURI
  revertIf (result.status ∉ statuses) (.resolutionModuleInvalidStatus result.status)
  revertIf (result.resolverType ∉ resolverTypes)
    (.resolutionModuleInvalidResolverType result.resolverType)
  return true

end BaseResolutionModule

def ComputationalResolutionModule.validateResolution (result : ResolutionResult) :
    Tx Revert Bool :=
  BaseResolutionModule.validateResolution
    [.supported, .qualified, .inconclusive, .refuted, .fraudSignal]
    [.computationOracle, .agentWorker, .humanResolver] result

def BenchmarkResolutionModule.validateResolution (result : ResolutionResult) : Tx Revert Bool :=
  BaseResolutionModule.validateResolution
    [.supported, .qualified, .inconclusive, .refuted]
    [.benchmarkOracle, .humanResolver] result

def WetLabResolutionModule.validateResolution (result : ResolutionResult) : Tx Revert Bool :=
  BaseResolutionModule.validateResolution
    [.supported, .qualified, .inconclusive, .refuted, .fraudSignal, .escalated]
    [.wetLabCouncil, .humanResolver, .appealCourt] result

namespace Ctx

variable (ctx : Ctx)

/-- `IResolutionModule(module).validateResolution(..)`, a static call. -/
def validateResolution (module : Address) (result : ResolutionResult) : Tx Revert Bool :=
  match ctx.deployment.moduleCode module with
  | .computational => ComputationalResolutionModule.validateResolution result
  | .benchmark => BenchmarkResolutionModule.validateResolution result
  | .wetLab => WetLabResolutionModule.validateResolution result
  | .other => match ctx.reply.validateResolution with
    | some accepted => .ok accepted
    | none => .error (.custom (.resolutionModuleCallFailed module))

/-- `IResolutionModule(module).moduleKind()`. -/
def moduleKind (module : Address) : Tx Revert ResolutionModuleKind :=
  match ctx.deployment.moduleCode module with
  | .computational => .ok .computational
  | .benchmark => .ok .benchmark
  | .wetLab => .ok .wetLab
  | .other => match ctx.reply.moduleKind with
    | some kind => .ok kind
    | none => .error (.custom (.resolutionModuleCallFailed module))

/-- `IResolutionModule(module).moduleName()`. -/
def moduleName (module : Address) : Tx Revert String :=
  match ctx.deployment.moduleCode module with
  | .computational => .ok "Computational Reproducibility"
  | .benchmark => .ok "Benchmark And Performance"
  | .wetLab => .ok "Wet Lab And Human Review"
  | .other => match ctx.reply.moduleName with
    | some name => .ok name
    | none => .error (.custom (.resolutionModuleCallFailed module))

end Ctx

/-- **A module of the repository never lets a pending result through.** -/
theorem ne_pending_of_validateResolution {ctx : Ctx} {module : Address}
    {result : ResolutionResult} {accepted : Bool}
    (hcode : ctx.deployment.moduleCode module ≠ .other)
    (h : ctx.validateResolution module result = .ok accepted) : result.status ≠ .pending := by
  have hbase : ∀ {statuses resolverTypes}, ResolutionStatus.pending ∉ statuses →
      BaseResolutionModule.validateResolution statuses resolverTypes result = .ok accepted →
      result.status ≠ .pending := by
    intro statuses resolverTypes hpending hok heq
    simp only [BaseResolutionModule.validateResolution, bind_eq_ok, revertIf_eq_ok,
      not_not] at hok
    obtain ⟨-, -, -, -, -, hmem, -⟩ := hok
    exact hpending (heq ▸ hmem)
  unfold Ctx.validateResolution at h
  split at h
  next => exact hbase (by decide) h
  next => exact hbase (by decide) h
  next => exact hbase (by decide) h
  next hother => exact absurd hother hcode

/-! ### `ProtocolParameters` -/

structure ProtocolParameters where
  uintParameters : Mapping Bytes32 ℕ
  addressParameters : Mapping Bytes32 Address
  deriving Inhabited

namespace ProtocolParameters

inductive Call where
  | setUintParameter (key : Bytes32) (value : ℕ)
  | setAddressParameter (key : Bytes32) (value : Address)

def setUintParameter (ctx : Ctx) (self : ProtocolParameters) (key : Bytes32) (value : ℕ) :
    Tx Revert ProtocolParameters := do
  ctx.onlyRole .parameterAdmin
  return { self with uintParameters := self.uintParameters.set key value }

def setAddressParameter (ctx : Ctx) (self : ProtocolParameters) (key : Bytes32)
    (value : Address) : Tx Revert ProtocolParameters := do
  ctx.onlyRole .parameterAdmin
  return { self with addressParameters := self.addressParameters.set key value }

def getUintParameter (self : ProtocolParameters) (key : Bytes32) : ℕ := self.uintParameters key

def getAddressParameter (self : ProtocolParameters) (key : Bytes32) : Address :=
  self.addressParameters key

def exec (ctx : Ctx) (self : ProtocolParameters) (call : Call) :
    Tx Revert ProtocolParameters := do
  ctx.nonPayable
  match call with
  | .setUintParameter key value => self.setUintParameter ctx key value
  | .setAddressParameter key value => self.setAddressParameter ctx key value

end ProtocolParameters

/-! ### `ResolutionModuleRegistry` -/

structure ModuleRegistration where
  present : Bool
  enabled : Bool
  kind : ResolutionModuleKind
  name : String
  metadataURI : String
  deriving Inhabited

structure ResolutionModuleRegistry where
  modules : Mapping Address ModuleRegistration
  domainModules : Mapping UInt64 Address
  deriving Inhabited

namespace ResolutionModuleRegistry

inductive Call where
  | registerModule (module : Address) (metadataURI : String)
  | setModuleEnabled (module : Address) (enabled : Bool)
  | setDomainModule (domainId : UInt64) (module : Address)

def isRegisteredModule (self : ResolutionModuleRegistry) (module : Address) : Bool :=
  (self.modules module).enabled

def getDomainModule (self : ResolutionModuleRegistry) (domainId : UInt64) : Address :=
  self.domainModules domainId

def registerModule (ctx : Ctx) (self : ResolutionModuleRegistry) (module : Address)
    (metadataURI : String) : Tx Revert ResolutionModuleRegistry := do
  ctx.onlyRole .moduleAdmin
  revertIf (module = 0) .resolutionModuleRegistryZeroAddress
  let kind ← ctx.moduleKind module
  let name ← ctx.moduleName module
  let registration : ModuleRegistration :=
    { present := true, enabled := true, kind, name, metadataURI }
  return { self with modules := self.modules.set module registration }

def setModuleEnabled (ctx : Ctx) (self : ResolutionModuleRegistry) (module : Address)
    (enabled : Bool) : Tx Revert ResolutionModuleRegistry := do
  ctx.onlyRole .moduleAdmin
  let registration := self.modules module
  revertIf (¬registration.present) (.resolutionModuleRegistryUnregisteredModule module)
  return { self with modules := self.modules.set module { registration with enabled } }

def setDomainModule (ctx : Ctx) (self : ResolutionModuleRegistry) (domainId : UInt64)
    (module : Address) : Tx Revert ResolutionModuleRegistry := do
  ctx.onlyRole .moduleAdmin
  revertIf (¬self.isRegisteredModule module)
    (.resolutionModuleRegistryUnregisteredModule module)
  return { self with domainModules := self.domainModules.set domainId module }

def exec (ctx : Ctx) (self : ResolutionModuleRegistry) (call : Call) :
    Tx Revert ResolutionModuleRegistry := do
  ctx.nonPayable
  match call with
  | .registerModule module metadataURI => self.registerModule ctx module metadataURI
  | .setModuleEnabled module enabled => self.setModuleEnabled ctx module enabled
  | .setDomainModule domainId module => self.setDomainModule ctx domainId module

end ResolutionModuleRegistry

end ScientificProtocol
