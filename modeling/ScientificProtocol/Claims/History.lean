import Mathlib.Data.Finset.Card
import Mathlib.Order.Interval.Finset.Nat
import ScientificProtocol.Claims.Decisions

/-!
# The resolution history only grows

What a later moment of a history says about a claim, a replication or a decision
extends what an earlier one said (`ScientificProtocol.HistoryExtends`): a status
only moves up its order, the effective decision only moves to a later one,
resolved replications and recorded decisions stay as they are, and the lists of a
claim only grow at their ends.

The last section is about liveness. A resolved replication of a claim that is
bound to a module of the repository can be finalized, whatever the claim's status
has become. Two things could go wrong in `finalizeClaimResolution` besides its
caller. The result could be pending, which the modules never accept
(`ScientificProtocol.ResolvedByModule`); or the decisions could have run out of
numbers, but each is the decision of another replication, and replications are
numbered by words too (`ScientificProtocol.nextResolutionDecisionId_lt`).
-/

namespace ScientificProtocol

open Evm

/-! ### The order of the statuses -/

namespace ClaimRegistry

/-- Where a status stands in the life of a claim. -/
def rank : ClaimStatus → ℕ
  | .draft => 0
  | .published => 1
  | .underReplication => 2
  | .provisionallySupported => 3
  | .qualified => 4
  | .refuted => 5
  | .fraudulent => 5
  | .deprecated => 6

/-- **Every allowed transition moves up.** -/
theorem rank_lt_of_isAllowedTransition {source target : ClaimStatus}
    (h : isAllowedTransition source target = true) : rank source < rank target := by
  cases source <;> cases target <;> first | exact absurd h (by decide) | decide

/-- A status stays or moves up. -/
def Advances (source target : ClaimStatus) : Prop := target = source ∨ rank source < rank target

theorem Advances.trans {s₁ s₂ s₃ : ClaimStatus} (h₁₂ : Advances s₁ s₂) (h₂₃ : Advances s₂ s₃) :
    Advances s₁ s₃ := by
  rcases h₁₂ with rfl | h₁₂
  · exact h₂₃
  · rcases h₂₃ with rfl | h₂₃
    · exact .inr h₁₂
    · exact .inr (h₁₂.trans h₂₃)

section

variable {ctx : Ctx} {parameters : ProtocolParameters}
  {moduleRegistry : ResolutionModuleRegistry} {replicationRegistry : ReplicationRegistry}
  {bondEscrow : IBondEscrow} {self s : ClaimRegistry} {call : Call} {id : ℕ}

/-- A decision that takes effect does not move the status down. -/
theorem TakesEffect.advances {decisionStatus : ClaimStatus}
    (h : self.TakesEffect id decisionStatus) : Advances (self.claims id).status decisionStatus := by
  rcases h with hallowed | ⟨hconfirms, -⟩
  · exact .inr (rank_lt_of_isAllowedTransition hallowed)
  · exact .inl hconfirms

/-- **No call moves the status of a claim down.** -/
theorem Step.advances
    (h : Step ctx parameters moduleRegistry replicationRegistry bondEscrow self call s)
    (hself : self.Indexed) (hexists : (self.claims id).claimId ≠ 0) :
    Advances (self.claims id).status (s.claims id).status := by
  have hne : id ≠ self.nextClaimId := (hself.claims.lt_next rfl hexists).ne
  cases h with
  | configureProtocolDependencies | requestServed => exact .inl rfl
  | createClaim | createClaimOnBehalf | createClaimOnBehalfWithRequestHash | reviseClaim =>
    exact .inl (by simp only [created, Mapping.set_of_ne _ hne])
  | @setClaimStatus claimId newStatus _ _ _ _ hallowed =>
    by_cases hid : id = claimId
    · subst hid
      simp only [Mapping.set_self]
      exact .inr (rank_lt_of_isAllowedTransition hallowed)
    · exact .inl (by simp only [Mapping.set_of_ne _ hid])
  | @finalizeClaimResolution _ _ decision =>
    by_cases hid : id = decision.claimId
    · subst hid
      by_cases htakes : self.TakesEffect decision.claimId decision.claimStatus
      · rw [(self.withDecision_of_takesEffect htakes).1]
        exact htakes.advances
      · rw [(self.withDecision_of_not_takesEffect htakes).1]
        exact .inl rfl
    · rw [self.withDecision_claims_of_ne hid]
      exact .inl rfl

/-- **No call moves the pointer of a claim back.** -/
theorem Step.effective_le
    (h : Step ctx parameters moduleRegistry replicationRegistry bondEscrow self call s)
    (hself : self.Indexed) (hagrees : self.EffectiveAgrees id) :
    s.effectiveClaimDecisionId id = self.effectiveClaimDecisionId id ∨
      self.effectiveClaimDecisionId id < s.effectiveClaimDecisionId id := by
  rcases h.decision_cases with ⟨-, -, -, -, heffective⟩ |
    ⟨r, decision, logs, -, -, hid, -, -, -, rfl⟩
  · rw [heffective]
    exact .inl rfl
  · by_cases hclaim : id = decision.claimId
    · subst hclaim
      by_cases htakes : self.TakesEffect decision.claimId decision.claimStatus
      · -- The pointer moves to the newest decision, which is above whatever it was at.
        have hlt : self.effectiveClaimDecisionId decision.claimId <
            self.nextResolutionDecisionId := by
          by_cases hzero : self.effectiveClaimDecisionId decision.claimId = 0
          · rw [hzero]
            exact hself.decisions.next_pos
          · exact hself.decisions.lt_next rfl (hagrees.decision_exists hzero)
        right
        rwa [(self.withDecision_of_takesEffect htakes).2, hid]
      · left
        rw [(self.withDecision_of_not_takesEffect htakes).2]
    · left
      rw [self.withDecision_effective_of_ne hclaim]

/-- **No call changes a recorded decision.** -/
theorem Step.decision_kept
    (h : Step ctx parameters moduleRegistry replicationRegistry bondEscrow self call s)
    (hself : self.Indexed) {d : ℕ} (hexists : (self.decisions d).decisionId ≠ 0) :
    s.decisions d = self.decisions d := by
  have hlt := hself.decisions.lt_next rfl hexists
  rcases h.decision_cases with ⟨hdecisions, -⟩ | ⟨r, decision, logs, -, -, hid, -, -, -, rfl⟩
  · rw [hdecisions]
  · exact Mapping.set_of_ne _ (by omega) _

/-- The list of decisions of a claim only grows at its end. -/
theorem Step.claimDecisionIds_prefix
    (h : Step ctx parameters moduleRegistry replicationRegistry bondEscrow self call s) :
    self.claimDecisionIds id <+: s.claimDecisionIds id := by
  rcases h.decision_cases with ⟨-, -, hlists, -⟩ | ⟨r, decision, logs, -, -, -, -, -, -, rfl⟩
  · rw [hlists]
  · simp only [withDecision, recordDecision, Mapping.set_apply]
    split
    next heq => exact heq ▸ List.prefix_append _ _
    next => exact List.prefix_rfl

end

end ClaimRegistry

/-- The list of replications of a claim only grows at its end. -/
theorem ReplicationRegistry.Step.claimReplications_prefix {ctx : Ctx}
    {claimRegistry : ClaimRegistry} {agentRegistry : AgentRegistry}
    {self s : ReplicationRegistry} {call : Call}
    (h : Step ctx claimRegistry agentRegistry self call s) (id : ℕ) :
    self.claimReplications id <+: s.claimReplications id := by
  cases h with
  | submitReplication =>
    simp only [Mapping.set_apply]
    split
    next heq => exact heq ▸ List.prefix_append _ _
    next => exact List.prefix_rfl
  | resolveReplicationOutcome => exact List.prefix_rfl

/-! ### Later moments extend earlier ones -/

/-- **A later moment extends an earlier one.** -/
structure HistoryExtends (w w' : World) : Prop where
  /-- The status of a claim stays or moves up. -/
  status : ∀ id, (w.claimRegistry.claims id).claimId ≠ 0 →
    (w'.claimRegistry.claims id).claimId ≠ 0 ∧
      ClaimRegistry.Advances (w.claimRegistry.claims id).status (w'.claimRegistry.claims id).status
  /-- The effective decision of a claim stays or moves to a later one. -/
  effective : ∀ id, w'.claimRegistry.effectiveClaimDecisionId id =
      w.claimRegistry.effectiveClaimDecisionId id ∨
    w.claimRegistry.effectiveClaimDecisionId id < w'.claimRegistry.effectiveClaimDecisionId id
  /-- A resolved replication stays as it is. -/
  replication : ∀ r, (w.replicationRegistry.replications r).resolvedAt ≠ 0 →
    w'.replicationRegistry.replications r = w.replicationRegistry.replications r
  /-- A decision stays as it is. -/
  decision : ∀ d, (w.claimRegistry.decisions d).decisionId ≠ 0 →
    w'.claimRegistry.decisions d = w.claimRegistry.decisions d
  /-- The lists of a claim grow at their ends. -/
  decisionIds : ∀ id, w.claimRegistry.claimDecisionIds id <+: w'.claimRegistry.claimDecisionIds id
  replicationIds : ∀ id,
    w.replicationRegistry.claimReplications id <+: w'.replicationRegistry.claimReplications id

theorem HistoryExtends.refl (w : World) : HistoryExtends w w where
  status _ hexists := ⟨hexists, .inl rfl⟩
  effective _ := .inl rfl
  replication _ _ := rfl
  decision _ _ := rfl
  decisionIds _ := List.prefix_rfl
  replicationIds _ := List.prefix_rfl

theorem HistoryExtends.trans {w₁ w₂ w₃ : World} (h₁₂ : HistoryExtends w₁ w₂)
    (h₂₃ : HistoryExtends w₂ w₃) : HistoryExtends w₁ w₃ where
  status id hexists := by
    obtain ⟨hexists₂, hadvances⟩ := h₁₂.status id hexists
    obtain ⟨hexists₃, hadvances'⟩ := h₂₃.status id hexists₂
    exact ⟨hexists₃, hadvances.trans hadvances'⟩
  effective id := by
    have h := h₁₂.effective id
    have h' := h₂₃.effective id
    omega
  replication r hresolved := by
    have heq := h₁₂.replication r hresolved
    exact (h₂₃.replication r (heq ▸ hresolved)).trans heq
  decision d hexists := by
    have heq := h₁₂.decision d hexists
    exact (h₂₃.decision d (heq ▸ hexists)).trans heq
  decisionIds id := (h₁₂.decisionIds id).trans (h₂₃.decisionIds id)
  replicationIds id := (h₁₂.replicationIds id).trans (h₂₃.replicationIds id)

section

variable {D : Deployment} {c : Config World Suspended} {tr : List ProtocolEvent}
  {a : Action Message Suspended} {w' : World}

/-- **Every step extends the resolution history.** -/
theorem historyExtends_of_effect (hc : (protocol D).Reachable c)
    (h : (protocol D).Effect a c.world w') : HistoryExtends c.world w' := by
  obtain ⟨hclaims, hreplications⟩ := registries_indexed hc
  rcases (World.step_of_effect h).registries_cases with ⟨hclaim, hreplication⟩ |
    ⟨m, call, -, -, hstep, heq⟩ | ⟨m, call, -, -, hstep, heq⟩
  · refine ⟨fun id hexists => ?_, fun _ => .inl ?_, fun _ _ => ?_, fun _ _ => ?_, fun _ => ?_,
      fun _ => ?_⟩ <;> simp only [hclaim, hreplication]
    · exact ⟨hexists, .inl rfl⟩
    · exact List.prefix_rfl
    · exact List.prefix_rfl
  · rw [heq]
    refine ⟨fun id hexists => ⟨?_, hstep.advances hclaims hexists⟩,
      fun id => hstep.effective_le hclaims (effectiveAgrees_of_reachable hc id), fun _ _ => rfl,
      fun d hexists => hstep.decision_kept hclaims hexists,
      fun id => hstep.claimDecisionIds_prefix, fun _ => List.prefix_rfl⟩
    rw [hstep.claim_kept hclaims hexists]
    exact hexists
  · rw [heq]
    exact ⟨fun id hexists => ⟨hexists, .inl rfl⟩, fun _ => .inl rfl,
      fun r hresolved => hstep.frozen hreplications hresolved, fun _ _ => rfl,
      fun _ => List.prefix_rfl, hstep.claimReplications_prefix⟩

theorem historyExtends_of_run (h : (protocol D).Run tr c) :
    ∀ e ∈ tr, HistoryExtends e.before c.world ∧ HistoryExtends e.after c.world :=
  h.event_relation (R := HistoryExtends) .refl HistoryExtends.trans fun hrun heffect =>
    historyExtends_of_effect hrun.reachable heffect

/-! ### Replications are resolved once -/

/-- The replication numbered `r` is resolved. -/
def replicationResolved (r : ℕ) (w : World) : Bool :=
  decide ((w.replicationRegistry.replications r).resolvedAt ≠ 0)

theorem latched_replicationResolved (r : ℕ) : (protocol D).Latched (replicationResolved r) := by
  refine ⟨?_, fun {tr c a w'} hrun heffect hresolved => ?_⟩
  · rintro _ ⟨now, hasRole, -, -, rfl⟩
    rfl
  · have hextends := historyExtends_of_effect hrun.reachable heffect
    simp only [replicationResolved, hextends.replication r (of_decide_eq_true hresolved)]
    exact hresolved

/-- **A call that resolves a replication finds it unresolved and leaves it
resolved.** -/
theorem raises_of_resolve (hc : (protocol D).Reachable c)
    (h : (protocol D).Effect a c.world w') {m : Message} (ha : a = .exec m) {r : ℕ}
    {result : ResolutionResult}
    (htarget : m.target = .replicationRegistry (.resolveReplicationOutcome r result)) :
    Event.raises (⟨c.world, a, w'⟩ : ProtocolEvent) (replicationResolved r) = true := by
  subst ha
  have hpos := now_pos hc
  generalize c.world = w at h hpos ⊢
  have hstep := World.step_of_effect h
  cases hstep with
  | replicationRegistry htarget' hexec =>
    obtain rfl := Target.replicationRegistry.inj (htarget'.symm.trans htarget)
    have hcall := ReplicationRegistry.step_of_exec hexec
    cases hcall with
    | resolveReplicationOutcome _ _ hunresolved =>
      simp [Event.raises, replicationResolved, hunresolved, ReplicationRegistry.resolved,
        World.context, hpos.ne']
  | _ htarget' => exact absurd (htarget'.symm.trans htarget) (by simp)

/-! ### The lists of a claim are increasing -/

/-- The decisions and the replications of every claim are listed in increasing
order. -/
structure ListsAscending (claimRegistry : ClaimRegistry)
    (replicationRegistry : ReplicationRegistry) : Prop where
  decisionIds : ∀ id, Ascending claimRegistry.nextResolutionDecisionId
    (claimRegistry.claimDecisionIds id)
  replicationIds : ∀ id, Ascending replicationRegistry.nextReplicationId
    (replicationRegistry.claimReplications id)

theorem listsAscending_of_reachable (h : (protocol D).Reachable c) :
    ListsAscending c.world.claimRegistry c.world.replicationRegistry := by
  refine registries_invariant (I := ListsAscending) ⟨fun _ => .nil, fun _ => .nil⟩
    (fun {c m call s} _ hstep hI => ⟨fun id => ?_, hI.replicationIds⟩)
    (fun {c m call s} _ hstep hI => ⟨hI.decisionIds, fun id => ?_⟩) h
  · have hids := hI.decisionIds id
    rcases hstep.decision_cases with ⟨-, -, hlists, hnext, -⟩ |
      ⟨r, decision, logs, -, -, hid, -, -, -, rfl⟩
    · rwa [hlists, hnext]
    · simp only [ClaimRegistry.withDecision, ClaimRegistry.recordDecision, Mapping.set_apply]
      split
      next heq =>
        subst heq
        rw [hid]
        exact hids.push
      next => exact hids.succ
  · have hids := hI.replicationIds id
    generalize c.world.replicationRegistry = self at hstep hids
    cases hstep with
    | submitReplication =>
      simp only [Mapping.set_apply]
      split
      next heq =>
        subst heq
        exact hids.push
      next => exact hids.succ
    | resolveReplicationOutcome => exact hids

/-! ### Every resolved replication can be finalized -/

/-- A resolved replication belongs to a claim, and a module of the repository did
not let it be pending. -/
def ResolvedByModule (D : Deployment) (claimRegistry : ClaimRegistry)
    (replicationRegistry : ReplicationRegistry) : Prop :=
  ∀ r, (replicationRegistry.replications r).resolvedAt ≠ 0 →
    (replicationRegistry.replications r).replicationId ≠ 0 ∧
      (claimRegistry.claims (replicationRegistry.replications r).claimId).claimId ≠ 0 ∧
      (D.moduleCode (claimRegistry.claims
          (replicationRegistry.replications r).claimId).resolutionModule ≠ .other →
        (replicationRegistry.replications r).resolutionStatus ≠ .pending)

theorem resolvedByModule_of_reachable (h : (protocol D).Reachable c) :
    ResolvedByModule D c.world.claimRegistry c.world.replicationRegistry := by
  refine registries_invariant (I := ResolvedByModule D) (fun _ hresolved => absurd rfl hresolved)
    (fun {c m call s} hc hstep hI r hresolved => ?_)
    (fun {c m call s} hc hstep hI r hresolved => ?_) h
  · obtain ⟨hexists, hclaim, hstatus⟩ := hI r hresolved
    rw [hstep.claim_kept (registries_indexed hc).1 hclaim]
    exact ⟨hexists, hclaim, hstatus⟩
  · by_cases hold : (c.world.replicationRegistry.replications r).resolvedAt = 0
    · -- The replication is resolved by this very call, whose module has accepted the result.
      generalize c.world.replicationRegistry = self at hstep hold hresolved
      cases hstep with
      | submitReplication =>
        refine absurd ?_ hresolved
        simp only [Mapping.set_apply]
        split
        · rfl
        · exact hold
      | @resolveReplicationOutcome r' result _ _ hexists _ hclaim hvalidate =>
        by_cases hr : r = r'
        · subst hr
          simp only [Mapping.set_self]
          exact ⟨hexists, hclaim, fun hcode => ne_pending_of_validateResolution hcode hvalidate⟩
        · simp only [Mapping.set_of_ne _ hr] at hresolved
          exact absurd hold hresolved
    · rw [hstep.frozen (registries_indexed hc).2 hold]
      exact hI r hold

/-- **Decisions do not run out of numbers**: each belongs to another replication, so
while a replication has none, there are fewer decisions than replications. -/
theorem nextResolutionDecisionId_lt (h : (protocol D).Reachable c) {r : ℕ}
    (hexists : (c.world.replicationRegistry.replications r).replicationId ≠ 0)
    (hundecided : c.world.claimRegistry.replicationDecisionId r = 0) :
    c.world.claimRegistry.nextResolutionDecisionId + 1 < uint256Size := by
  obtain ⟨hclaims, hreplications⟩ := registries_indexed h
  have hdecided := decided_of_reachable h
  generalize c.world.claimRegistry = cr at *
  generalize c.world.replicationRegistry = rr at *
  have hrow : ∀ d, d ∈ Finset.Ico 1 cr.nextResolutionDecisionId → (cr.decisions d).decisionId ≠ 0 :=
    fun d hd => (hclaims.decisions.ne_zero_iff rfl).mpr
      ⟨(Finset.mem_Ico.mp hd).1, (Finset.mem_Ico.mp hd).2⟩
  -- Decisions go injectively into the replications other than `r`.
  have hcard := Finset.card_le_card_of_injOn (s := Finset.Ico 1 cr.nextResolutionDecisionId)
    (t := (Finset.Ico 1 rr.nextReplicationId).erase r)
    (fun d => (cr.decisions d).replicationId) ?_ ?_
  · have hr := (hreplications.replications.ne_zero_iff rfl).mp hexists
    have hlt := hreplications.next_lt
    rw [Finset.card_erase_of_mem (Finset.mem_Ico.mpr ⟨hr.1, hr.2⟩), Nat.card_Ico,
      Nat.card_Ico] at hcard
    omega
  · intro d hd
    have hcopied := (hreplications.replications.ne_zero_iff rfl).mp
      (hdecided.copies d (hrow d hd)).replication_exists
    refine Finset.mem_erase.mpr ⟨fun heq => ?_, Finset.mem_Ico.mpr ⟨hcopied.1, hcopied.2⟩⟩
    have hrecorded := hdecided.recorded d (hrow d hd)
    rw [show (cr.decisions d).replicationId = r from heq, hundecided] at hrecorded
    exact absurd (Finset.mem_Ico.mp hd).1 (by omega)
  · intro d hd d' hd' heq
    rw [← hdecided.recorded d (hrow d hd), ← hdecided.recorded d' (hrow d' hd')]
    exact congrArg cr.replicationDecisionId heq

/-- Every result but a pending one says something about the claim. -/
theorem exists_claimStatus {status : ResolutionStatus} (h : status ≠ .pending) :
    ∃ claimStatus, ClaimRegistry.getClaimStatusForResolution status = .ok claimStatus := by
  cases status <;> first | exact absurd rfl h | exact ⟨_, rfl⟩

/-- What `finalizeClaimResolution` asks for is enough. -/
theorem ClaimRegistry.finalizeClaimResolution_of_checks {ctx : Ctx} {self : ClaimRegistry}
    {rr : ReplicationRegistry} {r : ℕ} {claimStatus : ClaimStatus}
    (hrole : ctx.hasRole .resolver ctx.sender = true)
    (hconfigured : self.requireProtocolDependencies = .ok ())
    (hclaim : (self.claims (rr.replications r).claimId).claimId ≠ 0)
    (hexists : (rr.replications r).replicationId ≠ 0)
    (hresolved : (rr.replications r).resolvedAt ≠ 0) (hundecided : self.replicationDecisionId r = 0)
    (hstatus : getClaimStatusForResolution (rr.replications r).resolutionStatus = .ok claimStatus)
    (hnext : self.nextResolutionDecisionId + 1 < uint256Size) :
    ∃ res, self.finalizeClaimResolution ctx rr (rr.replications r).claimId r = .ok res := by
  simp [finalizeClaimResolution, ReplicationRegistry.replicationExists,
    ReplicationRegistry.getReplication, Ctx.onlyRole, revertIf, hrole, hconfigured, hclaim, hexists,
    hresolved, hundecided, hstatus, checkedAdd_of_lt hnext]

/-- **A resolved replication without a decision can be finalized**, whatever the
status of its claim, if a module of the repository resolved it. -/
theorem finalizeClaimResolution_succeeds (h : (protocol D).Reachable c) {r : ℕ}
    (hresolved : (c.world.replicationRegistry.replications r).resolvedAt ≠ 0)
    (hundecided : c.world.claimRegistry.replicationDecisionId r = 0)
    (hcode : D.moduleCode (c.world.claimRegistry.claims
      (c.world.replicationRegistry.replications r).claimId).resolutionModule ≠ .other)
    (hconfigured : c.world.claimRegistry.requireProtocolDependencies = .ok ()) {m : Message}
    (htarget : m.target = .claimRegistry (.finalizeClaimResolution
      (c.world.replicationRegistry.replications r).claimId r))
    (hvalue : m.value = 0) (hrole : c.world.hasRole .resolver m.sender = true) :
    ∃ o, World.exec D m c.world = .ok o := by
  obtain ⟨hexists, hclaim, hstatus⟩ := resolvedByModule_of_reachable h r hresolved
  obtain ⟨claimStatus, hclaimStatus⟩ := exists_claimStatus (hstatus hcode)
  obtain ⟨res, hfinalize⟩ := ClaimRegistry.finalizeClaimResolution_of_checks
    (show (c.world.context D m).hasRole .resolver (c.world.context D m).sender = true from hrole)
    hconfigured hclaim hexists hresolved hundecided hclaimStatus
    (nextResolutionDecisionId_lt h hexists hundecided)
  refine ⟨.done { c.world with claimRegistry := res.2 }, ?_⟩
  have hpayable : (c.world.context D m).nonPayable = .ok () :=
    (Ctx.nonPayable_eq_ok _).mpr hvalue
  simp only [World.exec, htarget, ClaimRegistry.Call.linked, ClaimRegistry.exec, hpayable, ok_bind,
    hfinalize, map_ok]

/-- **What a history of the protocol tells of its resolutions**, up to the world `w`
it has reached. -/
structure ResolutionsAppendOnly (D : Deployment) (tr : List ProtocolEvent) (w : World) :
    Prop where
  /-- Every step extends what came before it, and the end extends every step. -/
  extends_before : ∀ e ∈ tr, HistoryExtends e.before e.after ∧ HistoryExtends e.after w
  /-- A replication is resolved by one step, or not at all. -/
  resolved_once : ∀ r,
    tr.countP (·.raises (replicationResolved r)) = if replicationResolved r w then 1 else 0
  /-- Every call that resolves a replication is such a step. -/
  resolved_by : ∀ e ∈ tr, ∀ m r result, e.action = .exec m →
    m.target = .replicationRegistry (.resolveReplicationOutcome r result) →
    e.raises (replicationResolved r) = true
  /-- A decision is the copy of its replication. -/
  copies : ∀ d, (w.claimRegistry.decisions d).decisionId ≠ 0 →
    Copies (w.claimRegistry.decisions d)
      (w.replicationRegistry.replications (w.claimRegistry.decisions d).replicationId)
  /-- A replication has at most one decision. -/
  one_decision : ∀ d d', (w.claimRegistry.decisions d).decisionId ≠ 0 →
    (w.claimRegistry.decisions d').decisionId ≠ 0 →
    (w.claimRegistry.decisions d).replicationId = (w.claimRegistry.decisions d').replicationId →
    d = d'
  /-- The lists of a claim are increasing and free of duplicates. -/
  decisionIds : ∀ id, (w.claimRegistry.claimDecisionIds id).Pairwise (· < ·) ∧
    (w.claimRegistry.claimDecisionIds id).Nodup
  replicationIds : ∀ id, (w.replicationRegistry.claimReplications id).Pairwise (· < ·) ∧
    (w.replicationRegistry.claimReplications id).Nodup
  /-- Every resolved replication that has no decision can be finalized by a resolver,
  whatever the status of its claim, if the claim is bound to a module of the
  repository. -/
  finalizable : ∀ r, (w.replicationRegistry.replications r).resolvedAt ≠ 0 →
    w.claimRegistry.replicationDecisionId r = 0 →
    D.moduleCode (w.claimRegistry.claims
      (w.replicationRegistry.replications r).claimId).resolutionModule ≠ .other →
    w.claimRegistry.requireProtocolDependencies = .ok () →
    ∀ m : Message, m.target = .claimRegistry (.finalizeClaimResolution
        (w.replicationRegistry.replications r).claimId r) →
      m.value = 0 → w.hasRole .resolver m.sender = true → ∃ o, World.exec D m w = .ok o

/-- **The resolution history of the protocol only grows.** -/
theorem resolutions_append_only (h : (protocol D).Run tr c) :
    ResolutionsAppendOnly D tr c.world where
  extends_before e he := by
    obtain ⟨heffect, tr', fs, hrun⟩ := h.event_effect e he
    exact ⟨historyExtends_of_effect hrun.reachable heffect, (historyExtends_of_run h e he).2⟩
  resolved_once r := h.countP_raises (latched_replicationResolved r)
  resolved_by e he m r result ha htarget := by
    obtain ⟨heffect, tr', fs, hrun⟩ := h.event_effect e he
    exact raises_of_resolve hrun.reachable heffect ha htarget
  copies := (decided_of_reachable h.reachable).copies
  one_decision d d' hd hd' heq := by
    have hdecided := decided_of_reachable h.reachable
    rw [← hdecided.recorded d hd, heq, hdecided.recorded d' hd']
  decisionIds id :=
    let hids := (listsAscending_of_reachable h.reachable).decisionIds id
    ⟨hids.pairwise, hids.nodup⟩
  replicationIds id :=
    let hids := (listsAscending_of_reachable h.reachable).replicationIds id
    ⟨hids.pairwise, hids.nodup⟩
  finalizable _ hresolved hundecided hcode hconfigured _ htarget hvalue hrole :=
    finalizeClaimResolution_succeeds h.reachable hresolved hundecided hcode hconfigured htarget
      hvalue hrole

/-- In the history of a supported and then deprecated claim, replication 1 is resolved
once. -/
theorem resolutions_append_only_supportedThenDeprecated :
    ((playDevnet supportedThenDeprecated).get playDevnet_supportedThenDeprecated).1.countP
      (·.raises (replicationResolved 1)) = 1 :=
  ((resolutions_append_only (run_playDevnet playDevnet_supportedThenDeprecated)).resolved_once
    1).trans (by decide)

end

end ScientificProtocol
