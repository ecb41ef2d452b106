import ScientificProtocol.Evm.Numbered
import ScientificProtocol.Claims.Step

/-!
# Decisions copy replications

Three facts about the records of the two resolution registries, in the order they
need each other. Claims, decisions and replications are numbered tables. A
decision is the copy of a resolved replication, and each replication has at most
one (`ScientificProtocol.Decided`). The pointer of a claim to its effective
decision agrees with the status of the claim
(`ScientificProtocol.ClaimRegistry.EffectiveAgrees`), although two functions move
that status and only one of them moves the pointer: the other can only leave a
status that a decision established for `Deprecated`.
-/

namespace ScientificProtocol

open Evm

/-! ### Invariants of the two registries -/

section

variable {D : Deployment} {c : Config World Suspended}

/-- A property of the two registries that deployment establishes and every call of
either keeps holds at every observable moment. -/
theorem registries_invariant {I : ClaimRegistry → ReplicationRegistry → Prop}
    (hdeployed : I ClaimRegistry.deployed ReplicationRegistry.deployed)
    (hclaim : ∀ {c : Config World Suspended} {m call s}, (protocol D).Reachable c →
      ClaimRegistry.Step (c.world.context D m) c.world.protocolParameters
        c.world.resolutionModuleRegistry c.world.replicationRegistry
        (c.world.bondEscrow.toIBondEscrow c.world.claimRegistry) c.world.claimRegistry call s →
      I c.world.claimRegistry c.world.replicationRegistry → I s c.world.replicationRegistry)
    (hreplication : ∀ {c : Config World Suspended} {m call s}, (protocol D).Reachable c →
      ReplicationRegistry.Step (c.world.context D m) c.world.claimRegistry c.world.agentRegistry
        c.world.replicationRegistry call s →
      I c.world.claimRegistry c.world.replicationRegistry → I c.world.claimRegistry s)
    (h : (protocol D).Reachable c) : I c.world.claimRegistry c.world.replicationRegistry := by
  refine h.invariant (I := fun w => I w.claimRegistry w.replicationRegistry) ?_
    fun {c a w'} hc hI heffect => ?_
  · rintro _ ⟨now, hasRole, -, -, rfl⟩
    exact hdeployed
  · rcases (World.step_of_effect heffect).registries_cases with
      ⟨hclaims, hreplications⟩ | ⟨m, call, -, -, hstep, heq⟩ | ⟨m, call, -, -, hstep, heq⟩
    · rw [hclaims, hreplications]
      exact hI
    · rw [heq]
      exact hclaim hc hstep hI
    · rw [heq]
      exact hreplication hc hstep hI

end

/-! ### Numbered records -/

structure ReplicationRegistry.Indexed (s : ReplicationRegistry) : Prop where
  replications : Numbered ReplicationRecord.replicationId s.nextReplicationId s.replications
  next_lt : s.nextReplicationId < uint256Size

structure ClaimRegistry.Indexed (s : ClaimRegistry) : Prop where
  claims : Numbered ClaimRecord.claimId s.nextClaimId s.claims
  decisions : Numbered ResolutionDecision.decisionId s.nextResolutionDecisionId s.decisions

theorem ReplicationRegistry.Step.indexed {ctx : Ctx} {claimRegistry : ClaimRegistry}
    {agentRegistry : AgentRegistry} {self s : ReplicationRegistry} {call : Call}
    (h : Step ctx claimRegistry agentRegistry self call s) (hself : self.Indexed) :
    s.Indexed := by
  obtain ⟨hreplications, hnext⟩ := hself
  cases h with
  | submitReplication _ _ hnext' => exact ⟨hreplications.push rfl, hnext'⟩
  | resolveReplicationOutcome _ hexists => exact ⟨hreplications.update rfl hexists rfl, hnext⟩

/-- Recording a decision under the next number keeps the tables numbered. -/
theorem ClaimRegistry.Indexed.withDecision {self : ClaimRegistry} {decision : ResolutionDecision}
    (hself : self.Indexed) (hclaim : (self.claims decision.claimId).claimId ≠ 0)
    (hid : decision.decisionId = self.nextResolutionDecisionId) :
    (self.withDecision decision).Indexed := by
  constructor
  · simp only [ClaimRegistry.withDecision]
    split
    · exact hself.claims.update rfl hclaim rfl
    · exact hself.claims
  · rw [ClaimRegistry.withDecision_decisions, hid]
    exact hself.decisions.push hid

theorem ClaimRegistry.Step.indexed {ctx : Ctx} {parameters : ProtocolParameters}
    {moduleRegistry : ResolutionModuleRegistry} {replicationRegistry : ReplicationRegistry}
    {bondEscrow : IBondEscrow} {self s : ClaimRegistry} {call : Call}
    (h : Step ctx parameters moduleRegistry replicationRegistry bondEscrow self call s)
    (hself : self.Indexed) : s.Indexed := by
  obtain ⟨hclaims, hdecisions⟩ := hself
  cases h with
  | configureProtocolDependencies | requestServed => exact ⟨hclaims, hdecisions⟩
  | createClaim | createClaimOnBehalf | createClaimOnBehalfWithRequestHash | reviseClaim =>
    exact ⟨hclaims.push rfl, hdecisions⟩
  | setClaimStatus _ hexists => exact ⟨hclaims.update rfl hexists rfl, hdecisions⟩
  | @finalizeClaimResolution _ _ decision _ _ _ _ hclaim _ _ _ _ _ _ hdecision =>
    have hid : decision.decisionId = self.nextResolutionDecisionId := by rw [hdecision]; rfl
    have hexists : (self.claims decision.claimId).claimId ≠ 0 := by rw [hdecision]; exact hclaim
    obtain ⟨hclaims', hdecisions'⟩ :=
      ClaimRegistry.Indexed.withDecision ⟨hclaims, hdecisions⟩ hexists hid
    exact ⟨hclaims', hdecisions'⟩

theorem registries_indexed {D : Deployment} {c : Config World Suspended}
    (h : (protocol D).Reachable c) :
    c.world.claimRegistry.Indexed ∧ c.world.replicationRegistry.Indexed :=
  registries_invariant (I := fun claimRegistry replicationRegistry =>
      claimRegistry.Indexed ∧ replicationRegistry.Indexed)
    ⟨⟨.empty, .empty⟩, .empty, by decide⟩
    (fun _ hstep hI => ⟨hstep.indexed hI.1, hI.2⟩)
    (fun _ hstep hI => ⟨hI.1, hstep.indexed hI.2⟩) h

/-! ### Decisions and the replications they copy -/

/-- The decision is the copy of a resolved replication. -/
structure Copies (decision : ResolutionDecision) (replication : ReplicationRecord) : Prop where
  replication_exists : replication.replicationId ≠ 0
  resolved : replication.resolvedAt ≠ 0
  claimId : decision.claimId = replication.claimId
  status : decision.status = replication.resolutionStatus
  confidenceBps : decision.confidenceBps = replication.confidenceBps
  resolutionHash : decision.resolutionHash = replication.resolutionHash
  evidenceHash : decision.evidenceHash = replication.resolutionEvidenceHash
  resolverType : decision.resolverType = replication.resolverType
  claimStatus : ClaimRegistry.getClaimStatusForResolution replication.resolutionStatus =
    .ok decision.claimStatus

/-- **Every decision copies its own replication, and every replication has at most
one decision.** -/
structure Decided (claimRegistry : ClaimRegistry) (replicationRegistry : ReplicationRegistry) :
    Prop where
  copies : ∀ d, (claimRegistry.decisions d).decisionId ≠ 0 →
    Copies (claimRegistry.decisions d)
      (replicationRegistry.replications (claimRegistry.decisions d).replicationId)
  claim_exists : ∀ d, (claimRegistry.decisions d).decisionId ≠ 0 →
    (claimRegistry.claims (claimRegistry.decisions d).claimId).claimId ≠ 0
  recorded : ∀ d, (claimRegistry.decisions d).decisionId ≠ 0 →
    claimRegistry.replicationDecisionId (claimRegistry.decisions d).replicationId = d
  decided : ∀ r, claimRegistry.replicationDecisionId r ≠ 0 →
    (claimRegistry.decisions (claimRegistry.replicationDecisionId r)).decisionId ≠ 0 ∧
      (claimRegistry.decisions (claimRegistry.replicationDecisionId r)).replicationId = r

/-- A resolved replication never changes. -/
theorem ReplicationRegistry.Step.frozen {ctx : Ctx} {claimRegistry : ClaimRegistry}
    {agentRegistry : AgentRegistry} {self s : ReplicationRegistry} {call : Call}
    (h : Step ctx claimRegistry agentRegistry self call s) (hself : self.Indexed) {r : ℕ}
    (hresolved : (self.replications r).resolvedAt ≠ 0) :
    s.replications r = self.replications r := by
  cases h with
  | submitReplication =>
    refine Mapping.set_of_ne _ (fun heq => hresolved ?_) _
    rw [heq, hself.replications.blank_next]
    rfl
  | resolveReplicationOutcome _ _ hunresolved =>
    refine Mapping.set_of_ne _ (fun heq => hresolved ?_) _
    rw [heq]
    exact hunresolved

theorem ReplicationRegistry.Step.decided {ctx : Ctx} {claimRegistry : ClaimRegistry}
    {agentRegistry : AgentRegistry} {self s : ReplicationRegistry} {call : Call}
    (h : Step ctx claimRegistry agentRegistry self call s) (hself : self.Indexed)
    (hdecided : Decided claimRegistry self) : Decided claimRegistry s where
  copies d hd := by
    have hcopies := hdecided.copies d hd
    rwa [h.frozen hself hcopies.resolved]
  claim_exists := hdecided.claim_exists
  recorded := hdecided.recorded
  decided := hdecided.decided

/-- The claim registry keeps the claims it has. -/
theorem ClaimRegistry.Step.claim_kept {ctx : Ctx} {parameters : ProtocolParameters}
    {moduleRegistry : ResolutionModuleRegistry} {replicationRegistry : ReplicationRegistry}
    {bondEscrow : IBondEscrow} {self s : ClaimRegistry} {call : Call}
    (h : Step ctx parameters moduleRegistry replicationRegistry bondEscrow self call s)
    (hself : self.Indexed) {id : ℕ} (hexists : (self.claims id).claimId ≠ 0) :
    s.claims id = { self.claims id with status := (s.claims id).status } := by
  have hlt := hself.claims.lt_next rfl hexists
  have hcreated : ∀ v : ClaimRecord, self.claims.set self.nextClaimId v id =
      { self.claims id with status := (self.claims.set self.nextClaimId v id).status } := by
    intro v
    rw [Mapping.set_of_ne _ (Nat.ne_of_lt hlt)]
  have hupdated : ∀ (id' : ℕ) (status : ClaimStatus),
      self.claims.set id' { self.claims id' with status } id = { self.claims id with
        status := (self.claims.set id' { self.claims id' with status } id).status } := by
    intro id' status
    by_cases heq : id = id'
    · rw [heq, Mapping.set_self]
    · rw [Mapping.set_of_ne _ heq]
  cases h with
  -- A delegated request that was served before returns the old claim and writes nothing.
  | configureProtocolDependencies | requestServed => rfl
  | createClaim | createClaimOnBehalf | createClaimOnBehalfWithRequestHash | reviseClaim =>
    exact hcreated _
  | setClaimStatus => exact hupdated _ _
  | finalizeClaimResolution =>
    simp only [withDecision]
    split
    · exact hupdated _ _
    · rfl

/-- What a call of the claim registry does to the decisions: nothing, or it records
the copy of one resolved replication that had none. -/
theorem ClaimRegistry.Step.decision_cases {ctx : Ctx} {parameters : ProtocolParameters}
    {moduleRegistry : ResolutionModuleRegistry} {replicationRegistry : ReplicationRegistry}
    {bondEscrow : IBondEscrow} {self s : ClaimRegistry} {call : Call}
    (h : Step ctx parameters moduleRegistry replicationRegistry bondEscrow self call s) :
    (s.decisions = self.decisions ∧ s.replicationDecisionId = self.replicationDecisionId ∧
        s.claimDecisionIds = self.claimDecisionIds ∧
        s.nextResolutionDecisionId = self.nextResolutionDecisionId ∧
        s.effectiveClaimDecisionId = self.effectiveClaimDecisionId) ∨
      ∃ r decision logs, self.replicationDecisionId r = 0 ∧
        (self.claims decision.claimId).claimId ≠ 0 ∧
        decision.decisionId = self.nextResolutionDecisionId ∧ decision.replicationId = r ∧
        Copies decision (replicationRegistry.replications r) ∧
        call = .finalizeClaimResolution decision.claimId r ∧
        s = { self.withDecision decision with logs } := by
  cases h with
  | @finalizeClaimResolution claimId r decision logs _ _ _ hclaim hexists hmatch hresolved
      hundecided hstatus _ hdecision =>
    have hclaimId : decision.claimId = claimId := by rw [hdecision]; rfl
    refine .inr ⟨r, decision, logs, hundecided, hclaimId ▸ hclaim, by rw [hdecision]; rfl,
      by rw [hdecision]; rfl, ?_, by rw [hclaimId], rfl⟩
    refine ⟨hexists, hresolved, hclaimId.trans hmatch.symm, ?_, ?_, ?_, ?_, ?_, hstatus⟩ <;>
    · rw [hdecision]
      rfl
  | _ => exact .inl ⟨rfl, rfl, rfl, rfl, rfl⟩

theorem ClaimRegistry.Step.decided {ctx : Ctx} {parameters : ProtocolParameters}
    {moduleRegistry : ResolutionModuleRegistry} {replicationRegistry : ReplicationRegistry}
    {bondEscrow : IBondEscrow} {self s : ClaimRegistry} {call : Call}
    (h : Step ctx parameters moduleRegistry replicationRegistry bondEscrow self call s)
    (hself : self.Indexed) (hdecided : Decided self replicationRegistry) :
    Decided s replicationRegistry := by
  have hclaims : ∀ id, (self.claims id).claimId ≠ 0 → (s.claims id).claimId ≠ 0 := by
    intro id hexists
    rw [h.claim_kept hself hexists]
    exact hexists
  rcases h.decision_cases with ⟨hdecisions, hreplicationDecision, -⟩ |
    ⟨r, decision, logs, hundecided, hclaim, hid, hr, hcopies, -, rfl⟩
  · refine ⟨?_, ?_, ?_, ?_⟩ <;> simp only [hdecisions, hreplicationDecision]
    · exact hdecided.copies
    · exact fun d hd => hclaims _ (hdecided.claim_exists d hd)
    · exact hdecided.recorded
    · exact hdecided.decided
  · subst hr
    -- The new decision has the next number, and its replication had none before.
    have hne : ∀ d, (self.decisions d).decisionId ≠ 0 →
        (self.decisions d).replicationId ≠ decision.replicationId := by
      intro d hd heq
      have hrecorded := hdecided.recorded d hd
      rw [heq, hundecided] at hrecorded
      exact ((hself.decisions.ne_zero_iff rfl).mp hd).1.ne hrecorded
    have hold : ∀ r, self.replicationDecisionId r ≠ 0 →
        self.replicationDecisionId r ≠ decision.decisionId := by
      intro r hdecision
      have hlt := hself.decisions.lt_next rfl (hdecided.decided r hdecision).1
      omega
    -- Each clause is about the new decision, where it is what was just checked, or an old one.
    refine ⟨fun d hd => ?_, fun d hd => hclaims _ ?_, fun d hd => ?_, fun r hr => ?_⟩
    · simp only [ClaimRegistry.withDecision_decisions, Mapping.set_apply] at hd ⊢
      by_cases hnew : d = decision.decisionId
      · simpa only [hnew, if_true] using hcopies
      · simp only [hnew, if_false] at hd ⊢
        exact hdecided.copies d hd
    · simp only [ClaimRegistry.withDecision_decisions, Mapping.set_apply] at hd ⊢
      by_cases hnew : d = decision.decisionId
      · simpa only [hnew, if_true] using hclaim
      · simp only [hnew, if_false] at hd ⊢
        exact hdecided.claim_exists d hd
    · simp only [ClaimRegistry.withDecision_decisions,
        ClaimRegistry.withDecision_replicationDecisionId, Mapping.set_apply] at hd ⊢
      by_cases hnew : d = decision.decisionId
      · simp only [hnew, if_true]
      · simp only [hnew, if_false] at hd ⊢
        rw [if_neg (hne d hd)]
        exact hdecided.recorded d hd
    · simp only [ClaimRegistry.withDecision_decisions,
        ClaimRegistry.withDecision_replicationDecisionId, Mapping.set_apply] at hr ⊢
      by_cases hnew : r = decision.replicationId
      · simp only [hnew, if_true, and_true]
        rw [hid]
        exact hself.decisions.next_pos.ne'
      · simp only [hnew, if_false] at hr ⊢
        rw [if_neg (hold r hr)]
        exact hdecided.decided r hr

/-- **Decisions copy replications at every observable moment.** -/
theorem decided_of_reachable {D : Deployment} {c : Config World Suspended}
    (h : (protocol D).Reachable c) :
    Decided c.world.claimRegistry c.world.replicationRegistry :=
  registries_invariant (I := Decided)
    ⟨fun _ hd => absurd rfl hd, fun _ hd => absurd rfl hd, fun _ hd => absurd rfl hd,
      fun _ hr => absurd rfl hr⟩
    (fun hc hstep hI => hstep.decided (registries_indexed hc).1 hI)
    (fun hc hstep hI => hstep.decided (registries_indexed hc).2 hI) h

/-! ### The effective decision of a claim -/

namespace ClaimRegistry

/-- **The pointer of a claim agrees with its status.** -/
structure EffectiveAgrees (s : ClaimRegistry) (id : ℕ) : Prop where
  /-- The effective decision is a decision of the claim. -/
  owned : s.effectiveClaimDecisionId id ≠ 0 →
    (s.decisions (s.effectiveClaimDecisionId id)).decisionId = s.effectiveClaimDecisionId id ∧
      (s.decisions (s.effectiveClaimDecisionId id)).claimId = id
  /-- It established the status, unless the claim was deprecated since. -/
  agrees : s.effectiveClaimDecisionId id ≠ 0 →
    (s.claims id).status = (s.decisions (s.effectiveClaimDecisionId id)).claimStatus ∨
      (s.claims id).status = .deprecated
  /-- A status only a decision can establish was established by one. -/
  derived : isResolutionDerivedStatus (s.claims id).status = true →
    s.effectiveClaimDecisionId id ≠ 0

/-- What a replication can say about a claim. -/
theorem claimStatus_cases {status : ResolutionStatus} {claimStatus : ClaimStatus}
    (h : getClaimStatusForResolution status = .ok claimStatus) :
    claimStatus = .underReplication ∨ isResolutionDerivedStatus claimStatus = true := by
  cases status <;> simp_all [getClaimStatusForResolution] <;> subst h <;>
    simp [isResolutionDerivedStatus]

/-- By hand, a status that a decision established can only be deprecated. -/
theorem eq_deprecated_of_isAllowedTransition {source target : ClaimStatus}
    (hsource : source = .underReplication ∨ isResolutionDerivedStatus source = true ∨
      source = .deprecated)
    (hderived : isResolutionDerivedStatus target = false)
    (hallowed : isAllowedTransition source target = true) : target = .deprecated := by
  cases source <;> cases target <;>
    first
    | rfl
    | exact absurd hallowed (by decide)
    | exact absurd hderived (by decide)
    | exact absurd hsource (by decide)

section

variable {ctx : Ctx} {parameters : ProtocolParameters}
  {moduleRegistry : ResolutionModuleRegistry} {replicationRegistry : ReplicationRegistry}
  {bondEscrow : IBondEscrow} {self s : ClaimRegistry} {call : Call} {id : ℕ}

/-- An effective decision exists. -/
theorem EffectiveAgrees.decision_exists (h : self.EffectiveAgrees id)
    (he : self.effectiveClaimDecisionId id ≠ 0) :
    (self.decisions (self.effectiveClaimDecisionId id)).decisionId ≠ 0 := by
  rw [(h.owned he).1]
  exact he

/-- A claim with an effective decision exists. -/
theorem EffectiveAgrees.claim_exists (h : self.EffectiveAgrees id)
    (hdecided : Decided self replicationRegistry) (he : self.effectiveClaimDecisionId id ≠ 0) :
    (self.claims id).claimId ≠ 0 := by
  have hclaim := hdecided.claim_exists _ (h.decision_exists he)
  rwa [(h.owned he).2] at hclaim

/-- A new claim has no effective decision. -/
theorem EffectiveAgrees.created (h : self.EffectiveAgrees id) (hself : self.Indexed)
    (hdecided : Decided self replicationRegistry) {moduleRegistry : ResolutionModuleRegistry}
    {summary : ClaimSummary} {authorBondAmount revisionOfClaimId : ℕ} {module : Address} :
    (ClaimRegistry.created ctx moduleRegistry self summary authorBondAmount revisionOfClaimId
      module).EffectiveAgrees id := by
  by_cases hid : id = self.nextClaimId
  · have hzero : self.effectiveClaimDecisionId id = 0 := by
      by_contra he
      have hlt := hself.claims.lt_next rfl (h.claim_exists hdecided he)
      omega
    subst hid
    refine ⟨fun he => absurd hzero he, fun he => absurd hzero he, fun hderived => ?_⟩
    simp [ClaimRegistry.created, isResolutionDerivedStatus] at hderived
  · obtain ⟨howned, hagrees, hderived⟩ := h
    refine ⟨howned, ?_, ?_⟩ <;> simp only [ClaimRegistry.created, Mapping.set_of_ne _ hid]
    · exact hagrees
    · exact hderived

/-- A decision that takes effect sets the status and the pointer together, and one
that does not touches neither. -/
theorem EffectiveAgrees.withDecision (h : self.EffectiveAgrees id) (hself : self.Indexed)
    {decision : ResolutionDecision}
    (hid : decision.decisionId = self.nextResolutionDecisionId) :
    (self.withDecision decision).EffectiveAgrees id := by
  have hnext := hself.decisions.next_pos
  have hpos : decision.decisionId ≠ 0 := by omega
  have hold : self.effectiveClaimDecisionId id ≠ 0 →
      (self.withDecision decision).decisions (self.effectiveClaimDecisionId id) =
        self.decisions (self.effectiveClaimDecisionId id) := by
    intro he
    have hlt := hself.decisions.lt_next rfl (h.decision_exists he)
    exact Mapping.set_of_ne _ (by omega) _
  -- Where neither moves, the new record is not the one the pointer is at.
  have hsame : (self.withDecision decision).claims id = self.claims id →
      (self.withDecision decision).effectiveClaimDecisionId id =
        self.effectiveClaimDecisionId id → (self.withDecision decision).EffectiveAgrees id := by
    intro hclaims heffective
    refine ⟨fun he => ?_, fun he => ?_, fun hderived => ?_⟩ <;>
      rw [heffective] at *
    · rw [hold he]
      exact h.owned he
    · rw [hold he, hclaims]
      exact h.agrees he
    · rw [hclaims] at hderived
      exact h.derived hderived
  by_cases hclaim : id = decision.claimId
  · subst hclaim
    -- Only a decision that takes effect moves the pointer, and then the status goes with it.
    by_cases htakes : self.TakesEffect decision.claimId decision.claimStatus
    · obtain ⟨hclaims, heffective⟩ := self.withDecision_of_takesEffect htakes
      refine ⟨fun _ => ?_, fun _ => .inl ?_, fun _ => ?_⟩ <;> rw [heffective]
      · rw [withDecision_decisions, Mapping.set_self]
        exact ⟨rfl, rfl⟩
      · rw [withDecision_decisions, Mapping.set_self, hclaims]
      · exact hpos
    · obtain ⟨hclaims, heffective⟩ := self.withDecision_of_not_takesEffect htakes
      exact hsame (by rw [hclaims]) (by rw [heffective])
  · exact hsame (self.withDecision_claims_of_ne hclaim) (self.withDecision_effective_of_ne hclaim)

/-- **By hand, the status a decision established can only be deprecated**, so moving
it by hand keeps it and the pointer in agreement. -/
theorem EffectiveAgrees.setStatus (h : self.EffectiveAgrees id)
    (hdecided : Decided self replicationRegistry) {claimId : ℕ} {newStatus : ClaimStatus}
    (hderived : isResolutionDerivedStatus newStatus = false)
    (hallowed : isAllowedTransition (self.claims claimId).status newStatus = true) :
    { self with claims := self.claims.set claimId { self.claims claimId with
      status := newStatus } }.EffectiveAgrees id := by
  by_cases hclaim : id = claimId
  · subst hclaim
    -- With an effective decision the transition table leaves one target, `Deprecated`.
    refine ⟨h.owned, fun he => .inr ?_, fun hderived' => ?_⟩
    · have hcopies := (hdecided.copies _ (h.decision_exists he)).claimStatus
      simp only [Mapping.set_self]
      refine eq_deprecated_of_isAllowedTransition ?_ hderived hallowed
      rcases h.agrees he with heq | hdeprecated
      · rw [heq]
        rcases claimStatus_cases hcopies with hunder | hdecision
        · exact .inl hunder
        · exact .inr (.inl hdecision)
      · exact .inr (.inr hdeprecated)
    · simp only [Mapping.set_self] at hderived'
      exact absurd hderived' (by simp [hderived])
  · refine ⟨h.owned, ?_, ?_⟩ <;> simp only [Mapping.set_of_ne _ hclaim]
    · exact h.agrees
    · exact h.derived

/-- **Every call keeps the pointers in agreement with the statuses.** -/
theorem Step.effectiveAgrees
    (h : Step ctx parameters moduleRegistry replicationRegistry bondEscrow self call s)
    (hself : self.Indexed) (hdecided : Decided self replicationRegistry)
    (hagrees : self.EffectiveAgrees id) : s.EffectiveAgrees id := by
  cases h with
  | configureProtocolDependencies | requestServed =>
    exact ⟨hagrees.owned, hagrees.agrees, hagrees.derived⟩
  | createClaim | createClaimOnBehalf | createClaimOnBehalfWithRequestHash | reviseClaim =>
    obtain ⟨howned, hagrees, hderived⟩ := hagrees.created hself hdecided
    exact ⟨howned, hagrees, hderived⟩
  | setClaimStatus _ _ hderived hallowed =>
    obtain ⟨howned, hagrees, hderived⟩ := hagrees.setStatus hdecided hderived hallowed
    exact ⟨howned, hagrees, hderived⟩
  | @finalizeClaimResolution _ _ decision _ _ _ _ _ _ _ _ _ _ _ hdecision =>
    have hid : decision.decisionId = self.nextResolutionDecisionId := by rw [hdecision]; rfl
    obtain ⟨howned, hagrees, hderived⟩ := hagrees.withDecision hself hid
    exact ⟨howned, hagrees, hderived⟩

end

end ClaimRegistry

theorem effectiveAgrees_of_reachable {D : Deployment} {c : Config World Suspended}
    (h : (protocol D).Reachable c) (id : ℕ) : c.world.claimRegistry.EffectiveAgrees id :=
  registries_invariant (I := fun claimRegistry _ => claimRegistry.EffectiveAgrees id)
    ⟨fun he => absurd rfl he, fun he => absurd rfl he,
      fun hderived => absurd hderived Bool.false_ne_true⟩
    (fun hc hstep hI =>
      hstep.effectiveAgrees (registries_indexed hc).1 (decided_of_reachable hc) hI)
    (fun _ _ hI => hI) h

/-- **A claim is where its effective decision put it, or deprecated**, and it is not
where only a decision can put it unless one did. -/
theorem effective_decision_of_reachable {D : Deployment} {c : Config World Suspended}
    (h : (protocol D).Reachable c) (id : ℕ) :
    (c.world.claimRegistry.effectiveClaimDecisionId id ≠ 0 →
      (c.world.claimRegistry.decisions
          (c.world.claimRegistry.effectiveClaimDecisionId id)).decisionId =
        c.world.claimRegistry.effectiveClaimDecisionId id ∧
      (c.world.claimRegistry.decisions
          (c.world.claimRegistry.effectiveClaimDecisionId id)).claimId = id ∧
      ((c.world.claimRegistry.claims id).status = (c.world.claimRegistry.decisions
          (c.world.claimRegistry.effectiveClaimDecisionId id)).claimStatus ∨
        (c.world.claimRegistry.claims id).status = .deprecated)) ∧
    ((c.world.claimRegistry.claims id).status ∈
        [.provisionallySupported, .qualified, .refuted, .fraudulent] →
      c.world.claimRegistry.effectiveClaimDecisionId id ≠ 0) := by
  have hagrees := effectiveAgrees_of_reachable h id
  refine ⟨fun he => ⟨(hagrees.owned he).1, (hagrees.owned he).2, hagrees.agrees he⟩,
    fun hstatus => hagrees.derived ?_⟩
  simpa [ClaimRegistry.isResolutionDerivedStatus] using hstatus

/-- A history in which claim 1 is supported by a replication and then deprecated. -/
def supportedThenDeprecated : List (Move Message) :=
  opening ++
  [send 0xBB 0 (.replicationRegistry (.submitReplication 1 1 2 3 0)),
    send 0x0A 0 (.replicationRegistry (.resolveReplicationOutcome 1 (devnetResult .supported))),
    send 0x0A 0 (.claimRegistry (.finalizeClaimResolution 1 1)),
    send 0x0A 0 (.claimRegistry (.setClaimStatus 1 .deprecated))]

theorem playDevnet_supportedThenDeprecated : (playDevnet supportedThenDeprecated).isSome := by
  decide

/-- There, the effective decision of claim 1 is a decision of claim 1. -/
theorem effective_decision_of_supportedThenDeprecated :
    (((playDevnet supportedThenDeprecated).get
      playDevnet_supportedThenDeprecated).2.world.claimRegistry.decisions 1).claimId = 1 :=
  ((effective_decision_of_reachable
    (run_playDevnet playDevnet_supportedThenDeprecated).reachable 1).1 (by decide)).2.1

end ScientificProtocol
