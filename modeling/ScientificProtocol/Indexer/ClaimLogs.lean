import ScientificProtocol.Claims.Step
import ScientificProtocol.Indexer.Emitted

/-!
# What the claim registry tells

Claims and decisions are numbered one after the other, and each number is told when it is
given out (`ScientificProtocol.Indexer.Emits.createdClaims`,
`ScientificProtocol.Indexer.Emits.decisions`). A claim is told of when it is created and
whenever its status moves, and a decision when it is recorded; nothing else changes.
-/

namespace ScientificProtocol

open Evm Indexer

namespace ClaimRegistry

/-- What logs say of the claims and the decisions. -/
structure Told (before : ClaimRegistry) (events : List ChainEvent) (after : ClaimRegistry) :
    Prop where
  created : Numbers before.nextClaimId (events.filterMap ChainEvent.createdClaimId?)
    after.nextClaimId
  decided : Numbers before.nextResolutionDecisionId (events.filterMap ChainEvent.decisionId?)
    after.nextResolutionDecisionId
  revisions : Tells (fun k => (before.claims k).revisionOfClaimId) Nothing
    (events.filterMap ChainEvent.createdClaimId?)
    (fun k => (after.claims k).revisionOfClaimId) Nothing
  statuses : Tells (fun k => (before.claims k).status) Nothing
    (events.filterMap ChainEvent.statusClaimId?) (fun k => (after.claims k).status) Nothing
  decisions : Tells before.decisions Nothing (events.filterMap ChainEvent.decisionId?)
    after.decisions Nothing

/-- What one call adds to the logs. -/
def Adds (before after : ClaimRegistry) : Prop :=
  ∃ new, after.logs = before.logs ++ new ∧ Told before (new.map .claimRegistry) after

variable {ctx : Ctx} {parameters : ProtocolParameters} {moduleRegistry : ResolutionModuleRegistry}
  {replicationRegistry : ReplicationRegistry} {bondEscrow : IBondEscrow}
  {self s s' : ClaimRegistry} {events events' : List ChainEvent}

theorem Told.refl (self : ClaimRegistry) : Told self [] self where
  created := .refl _
  decided := .refl _
  revisions := .refl _ _
  statuses := .refl _ _
  decisions := .refl _ _

theorem Told.trans (h : Told self events s) (h' : Told s events' s') :
    Told self (events ++ events') s' where
  created := List.filterMap_append ▸ h.created.trans h'.created
  decided := List.filterMap_append ▸ h.decided.trans h'.decided
  revisions := List.filterMap_append ▸ h.revisions.trans h'.revisions
  statuses := List.filterMap_append ▸ h.statuses.trans h'.statuses
  decisions := List.filterMap_append ▸ h.decisions.trans h'.decisions

theorem Adds.refl (self : ClaimRegistry) : self.Adds self :=
  ⟨[], (List.append_nil _).symm, .refl self⟩

theorem Adds.trans (h : self.Adds s) (h' : s.Adds s') : self.Adds s' := by
  obtain ⟨new, hlogs, htold⟩ := h
  obtain ⟨new', hlogs', htold'⟩ := h'
  refine ⟨new ++ new', by rw [hlogs', hlogs, List.append_assoc], ?_⟩
  rw [List.map_append]
  exact htold.trans htold'

/-- A log that is not indexed, of a call that changes nothing that is. -/
theorem Adds.other {event : Event} (hevent : (ChainEvent.claimRegistry event).filter? = none)
    (hlogs : s.logs = self.logs ++ [event]) (hnext : s.nextClaimId = self.nextClaimId)
    (hnext' : s.nextResolutionDecisionId = self.nextResolutionDecisionId)
    (hclaims : s.claims = self.claims) (hdecisions : s.decisions = self.decisions) :
    self.Adds s := by
  refine ⟨[event], hlogs, ?_⟩
  cases event <;> simp only [ChainEvent.filter?, reduceCtorEq] at hevent <;>
    exact
      { created := hnext ▸ .refl _
        decided := hnext' ▸ .refl _
        revisions := .same (fun _ => by rw [hclaims]) fun _ => id
        statuses := .same (fun _ => by rw [hclaims]) fun _ => id
        decisions := .same (fun _ => by rw [hdecisions]) fun _ => id }

theorem adds_createClaimRecord {summary : ClaimSummary}
    {authorBondAmount revisionOfClaimId claimId : ℕ} {resolutionModule : Address}
    (h : self.createClaimRecord ctx parameters moduleRegistry summary authorBondAmount
      revisionOfClaimId resolutionModule = .ok (claimId, s)) : self.Adds s := by
  simp only [createClaimRecord, bind_eq_ok, revertIf_eq_ok, checkedAdd_eq_ok, pure_eq_ok,
    Except.ok.injEq, Prod.mk.injEq, not_not] at h
  obtain ⟨-, -, next, ⟨-, rfl⟩, -, -, -, -, -, rfl⟩ := h
  exact ⟨_, rfl,
    { created := .succ _
      decided := .refl _
      revisions := .one (fun k hk => by simp only [Mapping.set_of_ne _ hk]) fun _ _ => id
      statuses := .one (fun k hk => by simp only [Mapping.set_of_ne _ hk]) fun _ _ => id
      decisions := .refl _ _ }⟩

/-- Moving a status leaves the rest of the claim. -/
theorem revisionOfClaimId_set_status (claims : Mapping ℕ ClaimRecord) (claimId k : ℕ)
    (status : ClaimStatus) :
    (claims.set claimId { claims claimId with status } k).revisionOfClaimId =
      (claims k).revisionOfClaimId := by
  rw [Mapping.set_apply]
  split
  next heq => rw [heq]
  next => rfl

theorem adds_setClaimStatus {claimId : ℕ} {newStatus : ClaimStatus}
    (h : self.setClaimStatus ctx bondEscrow claimId newStatus = .ok s) :
    self.Adds s := by
  simp only [setClaimStatus, bind_eq_ok, revertIf_eq_ok, Ctx.onlyRole_eq_ok, pure_eq_ok] at h
  obtain ⟨-, -, -, -, -, -, -, -, h⟩ := h
  have htold : Told self
      [.claimRegistry (.claimStatusUpdated claimId (self.claims claimId).status newStatus
        ctx.sender)]
      { self with
        claims := self.claims.set claimId { self.claims claimId with status := newStatus }
        logs := self.logs ++
          [.claimStatusUpdated claimId (self.claims claimId).status newStatus ctx.sender] } :=
      { created := .refl _
        decided := .refl _
        revisions := .same (revisionOfClaimId_set_status self.claims claimId · newStatus)
          fun _ => id
        statuses := .one (fun k hk => by simp only [Mapping.set_of_ne _ hk]) fun _ _ => id
        decisions := .refl _ _ }
  split at h
  next =>
    obtain ⟨-, -, heq⟩ := bind_eq_ok.mp h
    obtain rfl := Except.ok.inj heq
    exact ⟨_, rfl, htold⟩
  next =>
    obtain rfl := Except.ok.inj h
    exact ⟨_, rfl, htold⟩

/-- A decision is told of whether or not it takes effect. -/
theorem adds_applyDecision (self : ClaimRegistry) {decision : ResolutionDecision}
    (hid : decision.decisionId = self.nextResolutionDecisionId) :
    self.Adds ((self.recordDecision decision (self.nextResolutionDecisionId + 1)).applyDecision
      decision) := by
  have hdecided : Numbers self.nextResolutionDecisionId [decision.decisionId]
      (self.nextResolutionDecisionId + 1) := hid ▸ .succ _
  have hdecisions : Tells self.decisions Nothing [decision.decisionId]
      (self.decisions.set decision.decisionId decision) Nothing := .set _ _ _
  unfold applyDecision
  simp only
  split
  next =>
    exact ⟨_, rfl,
      { created := .refl _
        decided := hdecided
        revisions := .same (revisionOfClaimId_set_status self.claims decision.claimId ·
          decision.claimStatus) fun _ => id
        statuses := .one (fun k hk => by
          simp only [recordDecision, Mapping.set_of_ne _ hk]) fun _ _ => id
        decisions := hdecisions }⟩
  next =>
    have htold : ∀ {effectiveClaimDecisionId : Mapping ℕ ℕ} {new : List Event},
        (new.map ChainEvent.claimRegistry).filterMap ChainEvent.createdClaimId? = [] →
        (new.map ChainEvent.claimRegistry).filterMap ChainEvent.statusClaimId? = [] →
        (new.map ChainEvent.claimRegistry).filterMap ChainEvent.decisionId? =
          [decision.decisionId] →
        self.Adds { self.recordDecision decision (self.nextResolutionDecisionId + 1) with
          effectiveClaimDecisionId, logs := self.logs ++ new } := by
      intro effectiveClaimDecisionId new hcreated hstatus hdecision
      exact ⟨new, rfl,
        { created := hcreated ▸ .refl _
          decided := hdecision ▸ hdecided
          revisions := hcreated ▸ .refl _ _
          statuses := hstatus ▸ .refl _ _
          decisions := hdecision ▸ hdecisions }⟩
    split
    next => exact htold rfl rfl rfl
    next => exact htold rfl rfl rfl

/-- **What the logs of any call say.** -/
theorem adds_of_exec {call : Call}
    (h : self.exec ctx parameters moduleRegistry replicationRegistry bondEscrow call = .ok s) :
    self.Adds s := by
  simp only [exec, bind_eq_ok, Ctx.nonPayable_eq_ok] at h
  obtain ⟨-, -, h⟩ := h
  cases call with
  | configureProtocolDependencies bondEscrow replicationRegistry =>
    simp only [configureProtocolDependencies, bind_eq_ok, revertIf_eq_ok, Ctx.onlyRole_eq_ok,
      pure_eq_ok, Except.ok.injEq] at h
    obtain ⟨-, -, -, -, -, -, -, -, rfl⟩ := h
    exact .other rfl rfl rfl rfl rfl rfl
  | createClaim summary authorBondAmount resolutionModule =>
    obtain ⟨⟨id, s⟩, hrun, rfl⟩ := map_eq_ok.mp h
    simp only [createClaim, requireClaimAuthor, bind_eq_ok, revertIf_eq_ok] at hrun
    obtain ⟨-, -, hcreate⟩ := hrun
    exact adds_createClaimRecord hcreate
  | createClaimOnBehalf summary authorBondAmount resolutionModule =>
    obtain ⟨⟨id, s⟩, hrun, rfl⟩ := map_eq_ok.mp h
    simp only [createClaimOnBehalf, requireNonzeroClaimAuthor, bind_eq_ok, revertIf_eq_ok,
      Ctx.onlyRole_eq_ok] at hrun
    obtain ⟨-, -, -, -, hcreate⟩ := hrun
    exact adds_createClaimRecord hcreate
  | createClaimOnBehalfWithRequestHash summary authorBondAmount resolutionModule requestHash =>
    obtain ⟨⟨id, s⟩, hrun, rfl⟩ := map_eq_ok.mp h
    simp only [createClaimOnBehalfWithRequestHash, requireNonzeroClaimAuthor, bind_eq_ok,
      revertIf_eq_ok, Ctx.onlyRole_eq_ok] at hrun
    obtain ⟨-, -, -, -, -, -, hrun⟩ := hrun
    split at hrun
    next =>
      obtain ⟨rfl, rfl⟩ := Prod.mk.inj (Except.ok.inj hrun)
      exact .refl _
    next =>
      obtain ⟨⟨id', s'⟩, hcreate, heq⟩ := bind_eq_ok.mp hrun
      obtain ⟨rfl, rfl⟩ := Prod.mk.inj (Except.ok.inj heq)
      exact (adds_createClaimRecord hcreate).trans (Adds.other rfl rfl rfl rfl rfl rfl)
  | reviseClaim priorClaimId summary authorBondAmount resolutionModule =>
    obtain ⟨⟨id, s⟩, hrun, rfl⟩ := map_eq_ok.mp h
    simp only [reviseClaim, requireExistingClaim, requireClaimAuthor, bind_eq_ok, revertIf_eq_ok,
      pure_eq_ok, Except.ok.injEq] at hrun
    obtain ⟨-, -, -, -, -, -, -, -, ⟨id', s'⟩, hcreate, heq⟩ := hrun
    obtain ⟨rfl, rfl⟩ := Prod.mk.inj heq
    exact (adds_createClaimRecord hcreate).trans (Adds.other rfl rfl rfl rfl rfl rfl)
  | setClaimStatus claimId newStatus => exact adds_setClaimStatus h
  | finalizeClaimResolution claimId replicationId =>
    obtain ⟨⟨id, s⟩, hrun, rfl⟩ := map_eq_ok.mp h
    simp only [finalizeClaimResolution, requireProtocolDependencies,
      ReplicationRegistry.getReplication, bind_eq_ok, revertIf_eq_ok, Ctx.onlyRole_eq_ok,
      checkedAdd_eq_ok, pure_eq_ok, Except.ok.injEq, Prod.mk.injEq] at hrun
    obtain ⟨-, -, -, -, -, -, -, -, -, -, -, -, -, -, -, -, decisionStatus, -, next, ⟨-, rfl⟩,
      -, rfl⟩ := hrun
    exact adds_applyDecision self rfl

end ClaimRegistry

variable {D : Deployment}

theorem World.Step.claimRegistry_adds {a : Action Message Suspended} {w w' : World}
    (h : World.Step D a w w') : w.claimRegistry.Adds w'.claimRegistry := by
  cases h with
  | claimRegistry _ hexec => exact ClaimRegistry.adds_of_exec hexec
  | resume p w => cases p <;> exact .refl _
  | _ => exact .refl _

namespace Indexer

/-- **What a stretch tells of claims and decisions.** -/
theorem Emits.claims {c c' : Config World Suspended} {events : List ChainEvent}
    (h : Emits D c events c') (hc : (protocol D).Reachable c) :
    ClaimRegistry.Told c.world.claimRegistry events c'.world.claimRegistry := by
  refine h.relation (Q := fun c events c' => ClaimRegistry.Told c.world.claimRegistry events
    c'.world.claimRegistry) (fun _ => .refl _) .trans (fun {c a c'} _ hfwd => ?_) hc
  obtain ⟨new, hlogs, htold⟩ := (World.step_of_effect hfwd.effect).claimRegistry_adds
  have hemitted : ∀ f : ChainEvent → Option ℕ,
      (∀ e, f e ≠ none → ∃ event, e = .claimRegistry event) →
      (new.map .claimRegistry).filterMap f = (emitted c.world c'.world).filterMap f := by
    intro f hf
    rw [filterMap_emitted_claimRegistry hlogs hf, List.filterMap_map]
  have hcreated := hemitted ChainEvent.createdClaimId? fun e he => by
    unfold ChainEvent.createdClaimId? at he
    split at he
    · exact ⟨_, rfl⟩
    · exact absurd rfl he
  have hdecision := hemitted ChainEvent.decisionId? fun e he => by
    unfold ChainEvent.decisionId? at he
    split at he
    · exact ⟨_, rfl⟩
    · exact absurd rfl he
  have hstatus := hemitted ChainEvent.statusClaimId? fun e he => by
    cases e <;> simp_all [ChainEvent.statusClaimId?, ChainEvent.createdClaimId?,
      ChainEvent.movedClaimId?]
  exact
    { created := hcreated ▸ htold.created
      decided := hdecision ▸ htold.decided
      revisions := hcreated ▸ htold.revisions
      statuses := hstatus ▸ htold.statuses
      decisions := hdecision ▸ htold.decisions }

end Indexer

end ScientificProtocol
