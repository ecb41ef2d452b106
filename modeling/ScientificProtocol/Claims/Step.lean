import ScientificProtocol.System.World

/-!
# What a call of the two resolution registries does

`ScientificProtocol.ClaimRegistry.Step` and
`ScientificProtocol.ReplicationRegistry.Step` list, entry point by entry point,
the guards a successful call passed and the registry it leaves. The four ways to
create a claim write one and the same record
(`ScientificProtocol.ClaimRegistry.created`); the one way to record a decision
writes it in one place and lets it take effect in another
(`ScientificProtocol.ClaimRegistry.applyDecision`), and the three branches of the
second are the two cases of `ScientificProtocol.ClaimRegistry.withDecision`.
-/

namespace ScientificProtocol

open Evm

/-! ### The replication registry -/

namespace ReplicationRegistry

section

variable (ctx : Ctx) (claimRegistry : ClaimRegistry) (agentRegistry : AgentRegistry)
  (self : ReplicationRegistry)

/-- **What a successful call of the replication registry did**, with the guards it
passed. -/
inductive Step : Call → ReplicationRegistry → Prop
  | submitReplication {claimId : ℕ} {environmentHash resultHash evidenceHash : Bytes32}
      {agentId : ℕ} {logs : List Event} :
      (claimRegistry.claims claimId).claimId ≠ 0 →
      ¬(agentId ≠ 0 ∧ ¬agentRegistry.isAuthorizedController agentId ctx.sender) →
      self.nextReplicationId + 1 < uint256Size →
      Step (.submitReplication claimId environmentHash resultHash evidenceHash agentId) { self with
        nextReplicationId := self.nextReplicationId + 1
        replications := self.replications.set self.nextReplicationId
          (submitted ctx self.nextReplicationId claimId environmentHash resultHash evidenceHash
            agentId)
        claimReplications := self.claimReplications.set claimId
          (self.claimReplications claimId ++ [self.nextReplicationId])
        logs }
  | resolveReplicationOutcome {replicationId : ℕ} {result : ResolutionResult}
      {logs : List Event} :
      ctx.hasRole .resolver ctx.sender = true →
      (self.replications replicationId).replicationId ≠ 0 →
      (self.replications replicationId).resolvedAt = 0 →
      (claimRegistry.claims (self.replications replicationId).claimId).claimId ≠ 0 →
      ctx.validateResolution
        (claimRegistry.claims (self.replications replicationId).claimId).resolutionModule result =
          .ok true →
      Step (.resolveReplicationOutcome replicationId result) { self with
        replications := self.replications.set replicationId
          (resolved ctx (self.replications replicationId) result)
        logs }

end

/-- **Every successful call of the replication registry is one of the steps
above.** -/
theorem step_of_exec {ctx : Ctx} {claimRegistry : ClaimRegistry} {agentRegistry : AgentRegistry}
    {self s : ReplicationRegistry} {call : Call}
    (h : self.exec ctx claimRegistry.toIClaimRegistry agentRegistry call = .ok s) :
    Step ctx claimRegistry agentRegistry self call s := by
  simp only [exec, bind_eq_ok, Ctx.nonPayable_eq_ok] at h
  obtain ⟨-, -, h⟩ := h
  cases call with
  | submitReplication claimId environmentHash resultHash evidenceHash agentId =>
    obtain ⟨⟨id, s'⟩, hrun, rfl⟩ := map_eq_ok.mp h
    simp only [submitReplication, ClaimRegistry.toIClaimRegistry, ClaimRegistry.claimExists,
      bind_eq_ok, revertIf_eq_ok, checkedAdd_eq_ok, pure_eq_ok, Except.ok.injEq, Prod.mk.injEq,
      decide_eq_true_eq, not_not] at hrun
    obtain ⟨-, hclaim, -, hagent, next, ⟨hnext, rfl⟩, rfl, rfl⟩ := hrun
    exact .submitReplication hclaim hagent hnext
  | resolveReplicationOutcome replicationId result =>
    simp only [resolveReplicationOutcome, ClaimRegistry.toIClaimRegistry,
      ClaimRegistry.getClaimResolutionModule, ClaimRegistry.requireExistingClaim, bind_eq_ok,
      revertIf_eq_ok, Ctx.onlyRole_eq_ok, pure_eq_ok, Except.ok.injEq, not_not] at h
    obtain ⟨-, hrole, -, hexists, -, hresolved, module, ⟨claimRecord, ⟨-, hclaim, rfl⟩, rfl⟩,
      accepted, hvalidate, -, haccepted, rfl⟩ := h
    obtain rfl := haccepted
    exact .resolveReplicationOutcome hrole hexists hresolved hclaim hvalidate

end ReplicationRegistry

/-! ### The claim registry -/

namespace ClaimRegistry

/-- The registry with one more claim. -/
def created (ctx : Ctx) (moduleRegistry : ResolutionModuleRegistry) (self : ClaimRegistry)
    (summary : ClaimSummary) (authorBondAmount revisionOfClaimId : ℕ)
    (requestedResolutionModule : Address) : ClaimRegistry :=
  { self with
    nextClaimId := self.nextClaimId + 1
    claims := self.claims.set self.nextClaimId
      { claimId := self.nextClaimId, summary, status := .draft, revisionOfClaimId,
        createdAt := ctx.timestamp, requiredAuthorBond := authorBondAmount,
        resolutionModule :=
          resolvedModule moduleRegistry summary.domainId requestedResolutionModule } }

/-- What `_createClaim` checks. -/
structure Creatable (ctx : Ctx) (parameters : ProtocolParameters)
    (moduleRegistry : ResolutionModuleRegistry) (s : ClaimRegistry) (summary : ClaimSummary)
    (authorBondAmount : ℕ) (requestedResolutionModule : Address) : Prop where
  minimumBond_le :
    parameters.getUintParameter (minAuthorBondParameterKey ctx.deployment) ≤ authorBondAmount
  next_lt : s.nextClaimId + 1 < uint256Size
  module_ne_zero : resolvedModule moduleRegistry summary.domainId requestedResolutionModule ≠ 0
  registered : moduleRegistry.isRegisteredModule
    (resolvedModule moduleRegistry summary.domainId requestedResolutionModule) = true

/-- A decision takes effect if it advances the status of its claim, or if it is the
first and confirms it. -/
def TakesEffect (self : ClaimRegistry) (claimId : ℕ) (decisionStatus : ClaimStatus) : Prop :=
  isAllowedTransition (self.claims claimId).status decisionStatus = true ∨
    decisionStatus = (self.claims claimId).status ∧ self.effectiveClaimDecisionId claimId = 0

instance (self : ClaimRegistry) (claimId : ℕ) (decisionStatus : ClaimStatus) :
    Decidable (self.TakesEffect claimId decisionStatus) :=
  inferInstanceAs (Decidable (_ ∨ _))

/-- The registry once a decision has been recorded and applied: the status and the
pointer of its claim move if it takes effect. -/
def withDecision (self : ClaimRegistry) (decision : ResolutionDecision) : ClaimRegistry :=
  { self.recordDecision decision (self.nextResolutionDecisionId + 1) with
    claims :=
      if self.TakesEffect decision.claimId decision.claimStatus then
        self.claims.set decision.claimId
          { self.claims decision.claimId with status := decision.claimStatus }
      else self.claims
    effectiveClaimDecisionId :=
      if self.TakesEffect decision.claimId decision.claimStatus then
        self.effectiveClaimDecisionId.set decision.claimId decision.decisionId
      else self.effectiveClaimDecisionId }

@[simp] theorem withDecision_decisions (self : ClaimRegistry) (decision : ResolutionDecision) :
    (self.withDecision decision).decisions =
      self.decisions.set decision.decisionId decision := rfl

@[simp] theorem withDecision_replicationDecisionId (self : ClaimRegistry)
    (decision : ResolutionDecision) :
    (self.withDecision decision).replicationDecisionId =
      self.replicationDecisionId.set decision.replicationId decision.decisionId := rfl

theorem withDecision_claims_of_ne (self : ClaimRegistry) {decision : ResolutionDecision} {id : ℕ}
    (h : id ≠ decision.claimId) : (self.withDecision decision).claims id = self.claims id := by
  simp only [withDecision]
  split
  · exact Mapping.set_of_ne _ h _
  · rfl

theorem withDecision_effective_of_ne (self : ClaimRegistry) {decision : ResolutionDecision}
    {id : ℕ} (h : id ≠ decision.claimId) :
    (self.withDecision decision).effectiveClaimDecisionId id =
      self.effectiveClaimDecisionId id := by
  simp only [withDecision]
  split
  · exact Mapping.set_of_ne _ h _
  · rfl

theorem withDecision_of_takesEffect (self : ClaimRegistry) {decision : ResolutionDecision}
    (h : self.TakesEffect decision.claimId decision.claimStatus) :
    (self.withDecision decision).claims decision.claimId =
        { self.claims decision.claimId with status := decision.claimStatus } ∧
      (self.withDecision decision).effectiveClaimDecisionId decision.claimId =
        decision.decisionId := by
  simp only [withDecision, if_pos h, Mapping.set_self, and_self]

theorem withDecision_of_not_takesEffect (self : ClaimRegistry) {decision : ResolutionDecision}
    (h : ¬self.TakesEffect decision.claimId decision.claimStatus) :
    (self.withDecision decision).claims = self.claims ∧
      (self.withDecision decision).effectiveClaimDecisionId =
        self.effectiveClaimDecisionId := by
  simp only [withDecision, if_neg h, and_self]

theorem isAllowedTransition_self (status : ClaimStatus) :
    isAllowedTransition status status = false := by
  cases status <;> rfl

/-- **The three branches of `applyDecision` are two.** Confirming a status writes it
back. -/
theorem applyDecision_eq (self : ClaimRegistry) (decision : ResolutionDecision) :
    ∃ logs, (self.recordDecision decision (self.nextResolutionDecisionId + 1)).applyDecision
      decision = { self.withDecision decision with logs } := by
  unfold applyDecision
  simp only
  split
  next hadvance =>
    have htakes : self.TakesEffect decision.claimId decision.claimStatus := .inl hadvance.2
    exact ⟨_, by simp only [withDecision, if_pos htakes]; rfl⟩
  next hstays =>
    split
    next hconfirm =>
      -- The source moves the pointer alone here, since the status already agrees.
      have htakes : self.TakesEffect decision.claimId decision.claimStatus := .inr hconfirm
      have hclaims : self.claims.set decision.claimId
          { self.claims decision.claimId with status := decision.claimStatus } = self.claims := by
        rw [show decision.claimStatus = (self.claims decision.claimId).status from hconfirm.1,
          Mapping.set_get_self]
      exact ⟨_, by simp only [withDecision, if_pos htakes, hclaims]; rfl⟩
    next hweak =>
      have hnot : ¬self.TakesEffect decision.claimId decision.claimStatus := by
        rintro (hallowed | hconfirm)
        · refine hstays ⟨fun heq => ?_, hallowed⟩
          rw [show decision.claimStatus = (self.claims decision.claimId).status from heq,
            isAllowedTransition_self] at hallowed
          exact Bool.false_ne_true hallowed
        · exact hweak hconfirm
      exact ⟨_, by simp only [withDecision, if_neg hnot]; rfl⟩

section

variable (ctx : Ctx) (parameters : ProtocolParameters)
  (moduleRegistry : ResolutionModuleRegistry) (replicationRegistry : ReplicationRegistry)
  (bondEscrow : IBondEscrow) (self : ClaimRegistry)

/-- **What a successful call of the claim registry did**, with the guards it
passed. -/
inductive Step : Call → ClaimRegistry → Prop
  | configureProtocolDependencies {bondEscrow replicationRegistry : Address}
      {logs : List Event} :
      ctx.hasRole .defaultAdmin ctx.sender = true →
      self.bondEscrow = 0 → self.replicationRegistry = 0 →
      bondEscrow ≠ 0 → replicationRegistry ≠ 0 →
      Step (.configureProtocolDependencies bondEscrow replicationRegistry)
        { self with bondEscrow, replicationRegistry, logs }
  | createClaim {summary : ClaimSummary} {authorBondAmount : ℕ} {resolutionModule : Address}
      {logs : List Event} :
      summary.author = ctx.sender →
      self.Creatable ctx parameters moduleRegistry summary authorBondAmount resolutionModule →
      Step (.createClaim summary authorBondAmount resolutionModule)
        { created ctx moduleRegistry self summary authorBondAmount 0 resolutionModule with logs }
  | createClaimOnBehalf {summary : ClaimSummary} {authorBondAmount : ℕ}
      {resolutionModule : Address} {logs : List Event} :
      ctx.hasRole .claimSubmitter ctx.sender = true → summary.author ≠ 0 →
      self.Creatable ctx parameters moduleRegistry summary authorBondAmount resolutionModule →
      Step (.createClaimOnBehalf summary authorBondAmount resolutionModule)
        { created ctx moduleRegistry self summary authorBondAmount 0 resolutionModule with logs }
  /-- The request was served before. -/
  | requestServed {summary : ClaimSummary} {authorBondAmount : ℕ} {resolutionModule : Address}
      {requestHash : Bytes32} :
      ctx.hasRole .claimSubmitter ctx.sender = true → summary.author ≠ 0 → requestHash ≠ 0 →
      self.delegatedClaimRequestIds requestHash ≠ 0 →
      Step (.createClaimOnBehalfWithRequestHash summary authorBondAmount resolutionModule
        requestHash) self
  | createClaimOnBehalfWithRequestHash {summary : ClaimSummary} {authorBondAmount : ℕ}
      {resolutionModule : Address} {requestHash : Bytes32} {logs : List Event} :
      ctx.hasRole .claimSubmitter ctx.sender = true → summary.author ≠ 0 → requestHash ≠ 0 →
      self.delegatedClaimRequestIds requestHash = 0 →
      self.Creatable ctx parameters moduleRegistry summary authorBondAmount resolutionModule →
      Step (.createClaimOnBehalfWithRequestHash summary authorBondAmount resolutionModule
        requestHash)
        { created ctx moduleRegistry self summary authorBondAmount 0 resolutionModule with
          delegatedClaimRequestIds :=
            self.delegatedClaimRequestIds.set requestHash self.nextClaimId
          logs }
  | reviseClaim {priorClaimId : ℕ} {summary : ClaimSummary} {authorBondAmount : ℕ}
      {resolutionModule : Address} {logs : List Event} :
      (self.claims priorClaimId).claimId ≠ 0 → summary.author = ctx.sender →
      (self.claims priorClaimId).summary.author = ctx.sender →
      isTerminalStatus (self.claims priorClaimId).status = false →
      self.Creatable ctx parameters moduleRegistry summary authorBondAmount resolutionModule →
      Step (.reviseClaim priorClaimId summary authorBondAmount resolutionModule)
        { created ctx moduleRegistry self summary authorBondAmount priorClaimId
            resolutionModule with logs }
  | setClaimStatus {claimId : ℕ} {newStatus : ClaimStatus} {logs : List Event} :
      ctx.hasRole .resolver ctx.sender = true → (self.claims claimId).claimId ≠ 0 →
      isResolutionDerivedStatus newStatus = false →
      isAllowedTransition (self.claims claimId).status newStatus = true →
      (newStatus = .published → self.requireAuthorBond bondEscrow claimId = .ok ()) →
      Step (.setClaimStatus claimId newStatus) { self with
        claims := self.claims.set claimId { self.claims claimId with status := newStatus }
        logs }
  | finalizeClaimResolution {claimId replicationId : ℕ} {decision : ResolutionDecision}
      {logs : List Event} :
      ctx.hasRole .resolver ctx.sender = true →
      self.bondEscrow ≠ 0 → self.replicationRegistry ≠ 0 →
      (self.claims claimId).claimId ≠ 0 →
      (replicationRegistry.replications replicationId).replicationId ≠ 0 →
      (replicationRegistry.replications replicationId).claimId = claimId →
      (replicationRegistry.replications replicationId).resolvedAt ≠ 0 →
      self.replicationDecisionId replicationId = 0 →
      getClaimStatusForResolution
        (replicationRegistry.replications replicationId).resolutionStatus =
          .ok decision.claimStatus →
      self.nextResolutionDecisionId + 1 < uint256Size →
      decision = decisionOf ctx self.nextResolutionDecisionId (self.claims claimId)
        (replicationRegistry.replications replicationId) claimId replicationId
        decision.claimStatus →
      Step (.finalizeClaimResolution claimId replicationId)
        { self.withDecision decision with logs }

end

section

variable {ctx : Ctx} {parameters : ProtocolParameters}
  {moduleRegistry : ResolutionModuleRegistry} {replicationRegistry : ReplicationRegistry}
  {bondEscrow : IBondEscrow} {self s : ClaimRegistry}

theorem eq_created_of_createClaimRecord {summary : ClaimSummary}
    {authorBondAmount revisionOfClaimId id : ℕ} {resolutionModule : Address}
    (h : self.createClaimRecord ctx parameters moduleRegistry summary authorBondAmount
      revisionOfClaimId resolutionModule = .ok (id, s)) :
    self.Creatable ctx parameters moduleRegistry summary authorBondAmount resolutionModule ∧
      id = self.nextClaimId ∧ ∃ logs, s = { created ctx moduleRegistry self summary
        authorBondAmount revisionOfClaimId resolutionModule with logs } := by
  simp only [createClaimRecord, bind_eq_ok, revertIf_eq_ok, checkedAdd_eq_ok, pure_eq_ok,
    Except.ok.injEq, Prod.mk.injEq, not_not] at h
  obtain ⟨-, hbond, next, ⟨hnext, rfl⟩, -, hmodule, -, hregistered, rfl, rfl⟩ := h
  exact ⟨⟨Nat.not_lt.mp hbond, hnext, hmodule, hregistered⟩, rfl, _, rfl⟩

theorem step_of_createClaimOnBehalfWithRequestHash {summary : ClaimSummary}
    {authorBondAmount id : ℕ} {resolutionModule : Address} {requestHash : Bytes32}
    (h : self.createClaimOnBehalfWithRequestHash ctx parameters moduleRegistry summary
      authorBondAmount resolutionModule requestHash = .ok (id, s)) :
    Step ctx parameters moduleRegistry replicationRegistry bondEscrow self
      (.createClaimOnBehalfWithRequestHash summary authorBondAmount resolutionModule requestHash)
      s := by
  simp only [createClaimOnBehalfWithRequestHash, requireNonzeroClaimAuthor, bind_eq_ok,
    revertIf_eq_ok, Ctx.onlyRole_eq_ok] at h
  obtain ⟨-, hrole, -, hauthor, -, hhash, h⟩ := h
  split at h
  next hserved =>
    obtain ⟨rfl, rfl⟩ := Prod.mk.inj (Except.ok.inj h)
    exact .requestServed hrole hauthor hhash hserved
  next hfresh =>
    obtain ⟨⟨id', s'⟩, hcreate, heq⟩ := bind_eq_ok.mp h
    obtain ⟨rfl, rfl⟩ := Prod.mk.inj (Except.ok.inj heq)
    obtain ⟨hcreatable, rfl, logs, rfl⟩ := eq_created_of_createClaimRecord hcreate
    exact .createClaimOnBehalfWithRequestHash hrole hauthor hhash (not_not.mp hfresh) hcreatable

theorem step_of_setClaimStatus {claimId : ℕ} {newStatus : ClaimStatus}
    (h : self.setClaimStatus ctx bondEscrow claimId newStatus = .ok s) :
    Step ctx parameters moduleRegistry replicationRegistry bondEscrow self
      (.setClaimStatus claimId newStatus) s := by
  simp only [setClaimStatus, bind_eq_ok, revertIf_eq_ok, Ctx.onlyRole_eq_ok, pure_eq_ok,
    Bool.not_eq_true, Bool.not_eq_false] at h
  obtain ⟨-, hrole, -, hexists, -, hderived, -, hallowed, h⟩ := h
  split at h
  next hpublished =>
    obtain ⟨u, hbond, heq⟩ := bind_eq_ok.mp h
    obtain rfl := Except.ok.inj heq
    exact .setClaimStatus hrole hexists hderived hallowed fun _ => hbond
  next hother =>
    obtain rfl := Except.ok.inj h
    exact .setClaimStatus hrole hexists hderived hallowed fun hpublished =>
      absurd hpublished hother

theorem step_of_finalizeClaimResolution {claimId replicationId id : ℕ}
    (h : self.finalizeClaimResolution ctx replicationRegistry claimId replicationId =
      .ok (id, s)) :
    Step ctx parameters moduleRegistry replicationRegistry bondEscrow self
      (.finalizeClaimResolution claimId replicationId) s := by
  simp only [finalizeClaimResolution, requireProtocolDependencies,
    ReplicationRegistry.getReplication, bind_eq_ok, revertIf_eq_ok, Ctx.onlyRole_eq_ok,
    checkedAdd_eq_ok, pure_eq_ok, Except.ok.injEq, Prod.mk.injEq, not_not, not_or] at h
  obtain ⟨-, hrole, -, ⟨hescrow, hregistry⟩, -, hclaim, -, -, replication, ⟨-, hexists, rfl⟩, -,
    hmatch, -, hresolved, -, hundecided, decisionStatus, hstatus, next, ⟨hnext, rfl⟩, rfl, rfl⟩ := h
  obtain ⟨logs, heq⟩ := applyDecision_eq self (decisionOf ctx self.nextResolutionDecisionId
    (self.claims claimId) (replicationRegistry.replications replicationId) claimId replicationId
    decisionStatus)
  rw [heq]
  exact .finalizeClaimResolution hrole hescrow hregistry hclaim hexists hmatch hresolved
    hundecided hstatus hnext rfl

/-- **Every successful call of the claim registry is one of the steps above.** -/
theorem step_of_exec {call : Call}
    (h : self.exec ctx parameters moduleRegistry replicationRegistry bondEscrow call = .ok s) :
    Step ctx parameters moduleRegistry replicationRegistry bondEscrow self call s := by
  simp only [exec, bind_eq_ok, Ctx.nonPayable_eq_ok] at h
  obtain ⟨-, -, h⟩ := h
  cases call with
  | configureProtocolDependencies bondEscrow replicationRegistry =>
    simp only [configureProtocolDependencies, bind_eq_ok, revertIf_eq_ok, Ctx.onlyRole_eq_ok,
      pure_eq_ok, Except.ok.injEq, not_or, not_not] at h
    obtain ⟨-, hrole, -, ⟨hescrow, hregistry⟩, -, hescrow', -, hregistry', rfl⟩ := h
    exact .configureProtocolDependencies hrole hescrow hregistry hescrow' hregistry'
  | createClaim summary authorBondAmount resolutionModule =>
    obtain ⟨⟨id, s⟩, hrun, rfl⟩ := map_eq_ok.mp h
    simp only [createClaim, requireClaimAuthor, bind_eq_ok, revertIf_eq_ok, not_not] at hrun
    obtain ⟨-, hauthor, hcreate⟩ := hrun
    obtain ⟨hcreatable, rfl, logs, rfl⟩ := eq_created_of_createClaimRecord hcreate
    exact .createClaim hauthor hcreatable
  | createClaimOnBehalf summary authorBondAmount resolutionModule =>
    obtain ⟨⟨id, s⟩, hrun, rfl⟩ := map_eq_ok.mp h
    simp only [createClaimOnBehalf, requireNonzeroClaimAuthor, bind_eq_ok, revertIf_eq_ok,
      Ctx.onlyRole_eq_ok] at hrun
    obtain ⟨-, hrole, -, hauthor, hcreate⟩ := hrun
    obtain ⟨hcreatable, rfl, logs, rfl⟩ := eq_created_of_createClaimRecord hcreate
    exact .createClaimOnBehalf hrole hauthor hcreatable
  | createClaimOnBehalfWithRequestHash summary authorBondAmount resolutionModule requestHash =>
    obtain ⟨⟨id, s⟩, hrun, rfl⟩ := map_eq_ok.mp h
    exact step_of_createClaimOnBehalfWithRequestHash hrun
  | reviseClaim priorClaimId summary authorBondAmount resolutionModule =>
    obtain ⟨⟨id, s⟩, hrun, rfl⟩ := map_eq_ok.mp h
    simp only [reviseClaim, requireExistingClaim, requireClaimAuthor, bind_eq_ok, revertIf_eq_ok,
      pure_eq_ok, Except.ok.injEq, not_not, Bool.not_eq_true] at hrun
    obtain ⟨priorClaim, ⟨-, hexists, rfl⟩, -, hauthor, -, howner, -, hterminal, ⟨id', s'⟩, hcreate,
      heq⟩ := hrun
    obtain ⟨rfl, rfl⟩ := Prod.mk.inj heq
    obtain ⟨hcreatable, rfl, logs, rfl⟩ := eq_created_of_createClaimRecord hcreate
    exact .reviseClaim hexists hauthor howner hterminal hcreatable
  | setClaimStatus claimId newStatus => exact step_of_setClaimStatus h
  | finalizeClaimResolution claimId replicationId =>
    obtain ⟨⟨id, s⟩, hrun, rfl⟩ := map_eq_ok.mp h
    exact step_of_finalizeClaimResolution hrun

end

end ClaimRegistry

/-! ### The two registries in a step of the protocol -/

/-- **How the two registries move in a step of the protocol**: both stand still, or
one of them runs one of its calls. -/
theorem World.Step.registries_cases {D : Deployment} {a : Action Message Suspended}
    {w w' : World} (h : World.Step D a w w') :
    (w'.claimRegistry = w.claimRegistry ∧ w'.replicationRegistry = w.replicationRegistry) ∨
      (∃ m call, a = .exec m ∧ m.target = .claimRegistry call ∧
        ClaimRegistry.Step (w.context D m) w.protocolParameters w.resolutionModuleRegistry
          w.replicationRegistry (w.bondEscrow.toIBondEscrow w.claimRegistry) w.claimRegistry
          (call.linked D) w'.claimRegistry ∧
        w' = { w with claimRegistry := w'.claimRegistry }) ∨
      ∃ m call, a = .exec m ∧ m.target = .replicationRegistry call ∧
        ReplicationRegistry.Step (w.context D m) w.claimRegistry w.agentRegistry
          w.replicationRegistry call w'.replicationRegistry ∧
        w' = { w with replicationRegistry := w'.replicationRegistry } := by
  cases h with
  | claimRegistry htarget hexec =>
    exact .inr (.inl ⟨_, _, rfl, htarget, ClaimRegistry.step_of_exec hexec, rfl⟩)
  | replicationRegistry htarget hexec =>
    exact .inr (.inr ⟨_, _, rfl, htarget, ReplicationRegistry.step_of_exec hexec, rfl⟩)
  | resume p w => cases p <;> exact .inl ⟨rfl, rfl⟩
  | _ => exact .inl ⟨rfl, rfl⟩

/-- The claim registry stands still, or runs one of its calls. -/
theorem World.Step.claimRegistry_cases {D : Deployment} {a : Action Message Suspended}
    {w w' : World} (h : World.Step D a w w') :
    w'.claimRegistry = w.claimRegistry ∨
      ∃ m call, a = .exec m ∧ m.target = .claimRegistry call ∧
        ClaimRegistry.Step (w.context D m) w.protocolParameters w.resolutionModuleRegistry
          w.replicationRegistry (w.bondEscrow.toIBondEscrow w.claimRegistry) w.claimRegistry
          (call.linked D) w'.claimRegistry := by
  rcases h.registries_cases with ⟨heq, -⟩ | ⟨m, call, hexec, htarget, hstep, -⟩ |
    ⟨m, call, -, -, -, heq⟩
  · exact .inl heq
  · exact .inr ⟨m, call, hexec, htarget, hstep⟩
  · exact .inl (by rw [heq])

/-- The replication registry stands still, or runs one of its calls. -/
theorem World.Step.replicationRegistry_cases {D : Deployment} {a : Action Message Suspended}
    {w w' : World} (h : World.Step D a w w') :
    w'.replicationRegistry = w.replicationRegistry ∨
      ∃ m call, a = .exec m ∧ m.target = .replicationRegistry call ∧
        ReplicationRegistry.Step (w.context D m) w.claimRegistry w.agentRegistry
          w.replicationRegistry call w'.replicationRegistry := by
  rcases h.registries_cases with ⟨-, heq⟩ | ⟨m, call, -, -, -, heq⟩ |
    ⟨m, call, hexec, htarget, hstep, -⟩
  · exact .inl heq
  · exact .inl (by rw [heq])
  · exact .inr ⟨m, call, hexec, htarget, hstep⟩

end ScientificProtocol
