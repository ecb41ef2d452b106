import ScientificProtocol.Evm.Listener
import ScientificProtocol.Indexer.Records
import ScientificProtocol.Indexer.Sync
import ScientificProtocol.Subgraph.Handlers

/-!
# The subgraph follows the contracts

The subgraph never reads a contract, and adds up the amounts it is told of. **After any
block its entities are the records of the contracts** (`ScientificProtocol.Subgraph.follows`):
there is an entity for each claim, artifact, replication, resolution decision, checkpoint
and agent that exists and none besides, with its columns. In particular the budgets that
are added up and subtracted from are those of the agent registry, and never below zero.

The argument is a simulation, registry by registry: the events of each call lead the
entities from those of the records before to those of the records after
(`Evm.Leads`). An agent registry that waits for a transfer has already debited a payment
it has not told of, so that in the middle of a transaction the entities are those of the
records and of the payments that are owed to the log.
-/

/-- What is written last is there. -/
theorem Evm.Mapping.set_set {V : Type} [Inhabited V] (m : Evm.Mapping ℕ V) (k : ℕ) (v v' : V) :
    (m.set k v).set k v' = m.set k v' := by
  refine ext fun k' => ?_
  simp only [set_apply]
  split <;> rfl

namespace ScientificProtocol

open Evm Indexer Sql

namespace Subgraph

/-! ### What the entities are to be -/

def ClaimColumns.ofRecord (effectiveClaimDecisionId : Mapping ℕ ℕ) (record : ClaimRecord) :
    ClaimColumns where
  id := record.claimId
  author := record.summary.author
  domainId := record.summary.domainId
  metadataHash := record.summary.metadataHash
  resolutionModule := record.resolutionModule
  requiredAuthorBond := record.requiredAuthorBond
  status := record.status
  revisionOf := nullIfZero record.revisionOfClaimId
  effectiveResolutionDecision := nullIfZero (effectiveClaimDecisionId record.claimId)

def ResolutionDecisionColumns.ofRecord (record : ScientificProtocol.ResolutionDecision) :
    ResolutionDecisionColumns where
  id := record.decisionId
  claim := record.claimId
  replication := record.replicationId
  resolutionModule := record.resolutionModule
  status := record.status
  claimStatus := record.claimStatus
  confidenceBps := record.confidenceBps
  resolutionHash := record.resolutionHash
  evidenceHash := record.evidenceHash
  resolverType := record.resolverType
  actor := record.actor

def ArtifactColumns.ofRecord (record : ArtifactCommitment) : ArtifactColumns where
  id := record.artifactId
  claim := record.claimId
  artifactType := record.artifactType
  contentDigest := record.contentDigest
  uri := record.uri
  submitter := record.submitter

/-- A replication has a resolution once it is resolved. -/
def ReplicationColumns.ofRecord (record : ReplicationRecord) : ReplicationColumns where
  id := record.replicationId
  claim := record.claimId
  replicator := record.replicator
  agentId := record.agentId
  resultHash := record.resultHash
  outcome := if record.resolvedAt = 0 then none else some record.outcome
  resolutionStatus := if record.resolvedAt = 0 then none else some record.resolutionStatus
  resolutionHash := if record.resolvedAt = 0 then none else some record.resolutionHash
  resolver := if record.resolvedAt = 0 then none else some record.resolver
  confidenceBps := if record.resolvedAt = 0 then none else some record.confidenceBps
  resolverType := if record.resolvedAt = 0 then none else some record.resolverType
  evidenceHash := if record.resolvedAt = 0 then none else some record.resolutionEvidenceHash
  evidenceURI := if record.resolvedAt = 0 then none else some record.resolutionEvidenceURI

def ReputationCheckpointColumns.ofRecord (record : CheckpointRecord) :
    ReputationCheckpointColumns where
  id := record.checkpointId
  domainId := record.domainId
  subjectType := record.subjectType
  subjectActor := record.subjectActor
  subjectClaimId := record.subjectClaimId
  subjectAgentId := record.subjectAgentId
  subjectModule := record.subjectModule
  scoreVectorHash := record.scoreVectorHash
  payloadHash := record.payloadHash
  uri := record.uri

/-- The agent a payment is for. -/
def payer : AgentRegistry.Pending → ℕ
  | .consumeBudget _ agentId _ _ => agentId
  | .withdrawBudget agentId _ _ => agentId

/-- What a payment takes out of the budget. -/
def payout : AgentRegistry.Pending → ℕ
  | .consumeBudget _ _ amount _ => amount
  | .withdrawBudget _ amount _ => amount

/-- How much of it was reserved. -/
def consumption : AgentRegistry.Pending → ℕ
  | .consumeBudget _ _ amount _ => amount
  | .withdrawBudget .. => 0

/-- The sum over the payments for an agent. -/
def owedBy (amount : AgentRegistry.Pending → ℕ) (owed : List AgentRegistry.Pending) (k : ℕ) : ℕ :=
  (owed.map fun p => if payer p = k then amount p else 0).sum

/-- An agent, before the payments that are owed to the log. -/
def AgentColumns.ofRecord (owed : List AgentRegistry.Pending) (record : AgentRecord) :
    AgentColumns where
  id := record.agentId
  operator := record.operator
  metadataHash := record.metadataHash
  uri := record.uri
  spendLimit := record.spendLimit
  budgetBalance := record.budgetBalance + owedBy payout owed record.agentId
  reservedBudget := record.reservedBudget + owedBy consumption owed record.agentId
  spentBudget := record.spentBudget - owedBy consumption owed record.agentId
  active := record.active

/-- **The entities follow the contracts**: all but the blocks is what the records say. -/
structure Follows (s : Store) (w : World) : Prop where
  claims : s.claimRegistry.claims.map Claim.toClaimColumns =
    rowsOf ClaimRecord.claimId (.ofRecord w.claimRegistry.effectiveClaimDecisionId)
      w.claimRegistry.claims
  resolutionDecisions :
    s.claimRegistry.resolutionDecisions.map ResolutionDecision.toResolutionDecisionColumns =
      rowsOf ScientificProtocol.ResolutionDecision.decisionId .ofRecord w.claimRegistry.decisions
  artifacts : s.artifacts.map Artifact.toArtifactColumns =
    rowsOf ArtifactCommitment.artifactId .ofRecord w.artifactRegistry.artifacts
  replications : s.replications.map Replication.toReplicationColumns =
    rowsOf ReplicationRecord.replicationId .ofRecord w.replicationRegistry.replications
  reputationCheckpoints :
    s.reputationCheckpoints.map ReputationCheckpoint.toReputationCheckpointColumns =
      rowsOf CheckpointRecord.checkpointId .ofRecord w.reputationCheckpointRegistry.checkpoints
  agents : s.agents.map Agent.toAgentColumns =
    rowsOf AgentRecord.agentId (.ofRecord []) w.agentRegistry.agents

/-! ### Entities that are written -/

section

variable {V ρ ε : Type} [Inhabited V] {idOf : V → ℕ} {view : V → ρ} {m : Mapping ℕ V} {k : ℕ}
  {v : V} {t : Table ℕ ε} {columns : ε → ρ}

/-- An entity is saved with the record it is of. -/
theorem follows_set {e : ε} (ht : t.map columns = rowsOf idOf view m) (hv : idOf v ≠ 0)
    (he : columns e = view v) : (t.set k e).map columns = rowsOf idOf view (m.set k v) := by
  rw [Table.map_set, ht, he, rowsOf_set hv]

/-- An entity is loaded and saved as its record changes. -/
theorem follows_update {g : ε → ε} {f : ρ → ρ} (ht : t.map columns = rowsOf idOf view m)
    (hexists : idOf (m k) ≠ 0) (hv : idOf v ≠ 0) (hg : ∀ e, columns (g e) = f (columns e))
    (hf : view v = f (view (m k))) :
    (t.update k g).map columns = rowsOf idOf view (m.set k v) := by
  rw [Table.map_update hg, ht, rowsOf_update hexists hv hf]

/-- An entity is loaded and saved as something else is said of its record. -/
theorem follows_view {g : ε → ε} {f : ρ → ρ} {view' : V → ρ}
    (ht : t.map columns = rowsOf idOf view m) (hexists : idOf (m k) ≠ 0)
    (hother : ∀ k', k' ≠ k → idOf (m k') ≠ 0 → view' (m k') = view (m k'))
    (hg : ∀ e, columns (g e) = f (columns e)) (hf : view' (m k) = f (view (m k))) :
    (t.update k g).map columns = rowsOf idOf view' m := by
  rw [Table.map_update hg, ht, rowsOf_view hexists hother hf]

end

/-! ### Claims and decisions -/

/-- The entities of the claim registry follow its records. -/
structure ClaimsFollow (records : Mapping ℕ ClaimRecord)
    (decisions : Mapping ℕ ScientificProtocol.ResolutionDecision) (effective : Mapping ℕ ℕ)
    (s : ClaimEntities) : Prop where
  claims : s.claims.map Claim.toClaimColumns =
    rowsOf ClaimRecord.claimId (.ofRecord effective) records
  resolutionDecisions :
    s.resolutionDecisions.map ResolutionDecision.toResolutionDecisionColumns =
      rowsOf ScientificProtocol.ResolutionDecision.decisionId .ofRecord decisions
  /-- What is no claim has no effective decision. -/
  unclaimed : ∀ k, (records k).claimId = 0 → effective k = 0

/-- `ClaimCreated` of a record. -/
def createdEvent (record : ClaimRecord) : ClaimRegistry.Event :=
  .claimCreated record.claimId record.summary.author record.summary.domainId
    record.summary.metadataHash record.resolutionModule record.requiredAuthorBond

namespace ClaimsFollow

variable {records : Mapping ℕ ClaimRecord}
  {decisions : Mapping ℕ ScientificProtocol.ResolutionDecision} {effective : Mapping ℕ ℕ}
  {s : ClaimEntities}

/-- A claim is created. What it revises is told later. -/
theorem created (h : ClaimsFollow records decisions effective s) {r : ClaimRecord}
    (hblank : (records r.claimId).claimId = 0) (hid : r.claimId ≠ 0) (hdraft : r.status = .draft)
    (hfirst : r.revisionOfClaimId = 0) (x : EventContext) :
    ClaimsFollow (records.set r.claimId r) decisions effective
      (handleClaimRegistry x (createdEvent r) s) where
  claims := by
    have hnone : effective r.claimId = 0 := h.unclaimed _ hblank
    refine follows_set h.claims hid ?_
    simp only [ClaimColumns.ofRecord, hdraft, hfirst, hnone]
    rfl
  resolutionDecisions := h.resolutionDecisions
  unclaimed k hk := by
    rw [Mapping.set_apply] at hk
    split at hk
    next => exact absurd hk hid
    next => exact h.unclaimed k hk

/-- A claim that exists changes. -/
theorem changed (h : ClaimsFollow records decisions effective s) {k : ℕ} {r : ClaimRecord}
    {g : Claim → Claim} {f : ClaimColumns → ClaimColumns} (hexists : (records k).claimId ≠ 0)
    (hid : r.claimId = (records k).claimId)
    (hg : ∀ claim, (g claim).toClaimColumns = f claim.toClaimColumns)
    (hf : ClaimColumns.ofRecord effective r = f (.ofRecord effective (records k))) :
    ClaimsFollow (records.set k r) decisions effective
      { s with claims := s.claims.update k g } where
  claims := follows_update h.claims hexists (hid ▸ hexists) hg hf
  resolutionDecisions := h.resolutionDecisions
  unclaimed k' hk' := by
    rw [Mapping.set_apply] at hk'
    split at hk'
    next => exact absurd hk' (hid ▸ hexists)
    next => exact h.unclaimed k' hk'

/-- The status of a claim moves. -/
theorem moved (h : ClaimsFollow records decisions effective s) {k : ℕ}
    {oldStatus newStatus : ClaimStatus} {actor : Address} (hexists : (records k).claimId ≠ 0)
    (x : EventContext) :
    ClaimsFollow (records.set k { records k with status := newStatus }) decisions effective
      (handleClaimRegistry x (.claimStatusUpdated k oldStatus newStatus actor) s) :=
  h.changed (f := fun claim => { claim with status := newStatus }) hexists rfl (fun _ => rfl) rfl

/-- A decision is recorded. -/
theorem recorded (h : ClaimsFollow records decisions effective s)
    {decision : ScientificProtocol.ResolutionDecision} (hid : decision.decisionId ≠ 0)
    (x : EventContext) :
    ClaimsFollow records (decisions.set decision.decisionId decision) effective
      (handleClaimRegistry x (ClaimRegistry.recordedEvent decision) s) where
  claims := h.claims
  resolutionDecisions := follows_set h.resolutionDecisions hid rfl
  unclaimed := h.unclaimed

/-- A decision becomes the effective one of its claim. -/
theorem becomesEffective (h : ClaimsFollow records decisions effective s)
    (hnumbered : ∀ k, (records k).claimId ≠ 0 → (records k).claimId = k) {claimId decisionId : ℕ}
    {claimStatus : ClaimStatus} {actor : Address} (hclaim : (records claimId).claimId ≠ 0)
    (hdecision : (decisions decisionId).decisionId = decisionId) (hid : decisionId ≠ 0)
    (x : EventContext) :
    ClaimsFollow records decisions (effective.set claimId decisionId)
      (handleClaimRegistry x
        (.effectiveResolutionDecisionUpdated claimId decisionId claimStatus actor) s) := by
  have hrow : rowsOf ScientificProtocol.ResolutionDecision.decisionId
      ResolutionDecisionColumns.ofRecord decisions decisionId =
        some (.ofRecord (decisions decisionId)) := if_neg (by rw [hdecision]; exact hid)
  rw [← h.resolutionDecisions, Table.map_apply] at hrow
  obtain ⟨decision, hloaded, hcolumns⟩ := Option.map_eq_some_iff.mp hrow
  have hdecisionId : decision.id = decisionId :=
    (congrArg ResolutionDecisionColumns.id hcolumns).trans hdecision
  simp only [handleClaimRegistry, hloaded, hdecisionId]
  refine ⟨?_, h.resolutionDecisions, fun k hk => ?_⟩
  · refine follows_view (f := fun claim =>
      { claim with effectiveResolutionDecision := some decisionId }) h.claims hclaim
      (fun k hk hexists => ?_) (fun _ => rfl) ?_
    · simp only [ClaimColumns.ofRecord, hnumbered k hexists, Mapping.set_of_ne _ hk]
    · simp only [ClaimColumns.ofRecord, hnumbered claimId hclaim, Mapping.set_self, nullIfZero,
        if_neg hid]
  · rw [Mapping.set_apply]
    split
    next heq => exact absurd (heq ▸ hk) hclaim
    next => exact h.unclaimed k hk

end ClaimsFollow

end Subgraph

namespace ClaimRegistry

open Subgraph

variable {ctx : Ctx} {parameters : ProtocolParameters} {moduleRegistry : ResolutionModuleRegistry}
  {replicationRegistry : ReplicationRegistry} {bondEscrow : IBondEscrow} {self s : ClaimRegistry}

/-- The entities follow the registry. -/
def Followed (self : ClaimRegistry) : ClaimEntities → Prop :=
  ClaimsFollow self.claims self.decisions self.effectiveClaimDecisionId

/-- What a call adds to the log leads from the records before it to those after it. -/
def Narrates (self s : ClaimRegistry) : Prop :=
  ∃ new, s.logs = self.logs ++ new ∧ Leads handleClaimRegistry self.Followed new s.Followed

theorem Narrates.refl (self : ClaimRegistry) : Narrates self self :=
  ⟨[], (List.append_nil _).symm, .refl _⟩

theorem Narrates.trans {s' : ClaimRegistry} (h : Narrates self s) (h' : Narrates s s') :
    Narrates self s' := by
  obtain ⟨new, hlogs, hleads⟩ := h
  obtain ⟨new', hlogs', hleads'⟩ := h'
  exact ⟨new ++ new', by rw [hlogs', hlogs, List.append_assoc], hleads.trans hleads'⟩

/-- An event that no handler listens to. -/
theorem Narrates.other {event : Event} (hlogs : s.logs = self.logs ++ [event])
    (hother : ∀ x t, handleClaimRegistry x event t = t) (hclaims : s.claims = self.claims)
    (hdecisions : s.decisions = self.decisions)
    (heffective : s.effectiveClaimDecisionId = self.effectiveClaimDecisionId) :
    Narrates self s := by
  refine ⟨[event], hlogs, .one fun x t ht => ?_⟩
  rw [hother, Followed, hclaims, hdecisions, heffective]
  exact ht

/-- **A claim that is created**, but for what it revises. -/
theorem leads_createClaimRecord {summary : ClaimSummary}
    {authorBondAmount revisionOfClaimId claimId : ℕ} {resolutionModule : Address}
    (hself : self.Indexed)
    (h : self.createClaimRecord ctx parameters moduleRegistry summary authorBondAmount
      revisionOfClaimId resolutionModule = .ok (claimId, s)) :
    ∃ record : ClaimRecord, record.claimId = claimId ∧ claimId ≠ 0 ∧
      record.revisionOfClaimId = revisionOfClaimId ∧ s.claims = self.claims.set claimId record ∧
      s.logs = self.logs ++ [createdEvent record] ∧
      Leads handleClaimRegistry self.Followed [createdEvent record]
        (ClaimsFollow (self.claims.set claimId { record with revisionOfClaimId := 0 }) s.decisions
          s.effectiveClaimDecisionId) := by
  simp only [createClaimRecord, bind_eq_ok, revertIf_eq_ok, checkedAdd_eq_ok, pure_eq_ok,
    Except.ok.injEq, Prod.mk.injEq, not_not] at h
  obtain ⟨-, -, next, -, -, -, -, -, rfl, rfl⟩ := h
  have hblank : (self.claims self.nextClaimId).claimId = 0 := by
    rw [hself.claims.blank_next]
    rfl
  have hnext : self.nextClaimId ≠ 0 := hself.claims.next_pos.ne'
  let record : ClaimRecord :=
    { claimId := self.nextClaimId, summary, status := .draft, revisionOfClaimId,
      createdAt := ctx.timestamp, requiredAuthorBond := authorBondAmount,
      resolutionModule := resolvedModule moduleRegistry summary.domainId resolutionModule }
  refine ⟨record, rfl, hnext, rfl, rfl, rfl, .one fun x t ht => ?_⟩
  exact ht.created (r := { record with revisionOfClaimId := 0 }) hblank hnext rfl rfl x

theorem narrates_createClaimRecord {summary : ClaimSummary} {authorBondAmount claimId : ℕ}
    {resolutionModule : Address} (hself : self.Indexed)
    (h : self.createClaimRecord ctx parameters moduleRegistry summary authorBondAmount 0
      resolutionModule = .ok (claimId, s)) : Narrates self s := by
  obtain ⟨record, rfl, hid, hrevision, hclaims, hlogs, hleads⟩ := leads_createClaimRecord hself h
  have heq : { record with revisionOfClaimId := 0 } = record := by rw [← hrevision]
  rw [heq, ← hclaims] at hleads
  exact ⟨_, hlogs, hleads⟩

/-- **A decision is recorded, and takes effect or not.** -/
theorem narrates_applyDecision {decision : ScientificProtocol.ResolutionDecision}
    (hself : self.Indexed) (hclaim : (self.claims decision.claimId).claimId ≠ 0)
    (hid : decision.decisionId = self.nextResolutionDecisionId) :
    Narrates self ((self.recordDecision decision (self.nextResolutionDecisionId + 1)).applyDecision
      decision) := by
  have hnext : decision.decisionId ≠ 0 := hid ▸ hself.decisions.next_pos.ne'
  have hself' : (self.decisions.set decision.decisionId decision decision.decisionId).decisionId =
      decision.decisionId := by rw [Mapping.set_self]
  have hnumbered : ∀ k, (self.claims k).claimId ≠ 0 → (self.claims k).claimId = k :=
    fun k hk => hself.claims.idOf_eq rfl hk
  unfold applyDecision
  simp only
  split
  next =>
    refine ⟨_, rfl, .cons (Q := ClaimsFollow (self.claims.set decision.claimId
      { self.claims decision.claimId with status := decision.claimStatus }) self.decisions
      self.effectiveClaimDecisionId) (fun x t ht => ?_) <|
      .cons (fun x t ht => ht.recorded hnext x) <| .one fun x t ht => ?_⟩
    · exact ht.moved hclaim x
    · refine ht.becomesEffective (fun k hk => ?_) ?_ hself' hnext x
      · rw [Mapping.set_apply] at hk ⊢
        split at hk
        next heq =>
          rw [if_pos heq, heq]
          exact hnumbered _ hclaim
        next hne =>
          rw [if_neg hne]
          exact hnumbered k hk
      · rw [Mapping.set_self]
        exact hclaim
  next =>
    split
    next =>
      exact ⟨_, rfl, .cons (fun x t ht => ht.recorded hnext x) <| .one fun x t ht =>
        ht.becomesEffective hnumbered hclaim hself' hnext x⟩
    next => exact ⟨_, rfl, .one fun x t ht => ht.recorded hnext x⟩

/-- **Every call of the claim registry.** -/
theorem narrates_of_exec {call : Call} (hself : self.Indexed)
    (h : self.exec ctx parameters moduleRegistry replicationRegistry bondEscrow call = .ok s) :
    Narrates self s := by
  simp only [exec, bind_eq_ok, Ctx.nonPayable_eq_ok] at h
  obtain ⟨-, -, h⟩ := h
  cases call with
  | configureProtocolDependencies bondEscrow replicationRegistry =>
    simp only [configureProtocolDependencies, bind_eq_ok, revertIf_eq_ok, Ctx.onlyRole_eq_ok,
      pure_eq_ok, Except.ok.injEq] at h
    obtain ⟨-, -, -, -, -, -, -, -, rfl⟩ := h
    exact .other rfl (fun _ _ => rfl) rfl rfl rfl
  | createClaim summary authorBondAmount resolutionModule =>
    obtain ⟨⟨id, s⟩, hrun, rfl⟩ := map_eq_ok.mp h
    simp only [createClaim, requireClaimAuthor, bind_eq_ok, revertIf_eq_ok] at hrun
    obtain ⟨-, -, hcreate⟩ := hrun
    exact narrates_createClaimRecord hself hcreate
  | createClaimOnBehalf summary authorBondAmount resolutionModule =>
    obtain ⟨⟨id, s⟩, hrun, rfl⟩ := map_eq_ok.mp h
    simp only [createClaimOnBehalf, requireNonzeroClaimAuthor, bind_eq_ok, revertIf_eq_ok,
      Ctx.onlyRole_eq_ok] at hrun
    obtain ⟨-, -, -, -, hcreate⟩ := hrun
    exact narrates_createClaimRecord hself hcreate
  | createClaimOnBehalfWithRequestHash summary authorBondAmount resolutionModule requestHash =>
    obtain ⟨⟨id, s⟩, hrun, rfl⟩ := map_eq_ok.mp h
    simp only [createClaimOnBehalfWithRequestHash, requireNonzeroClaimAuthor, bind_eq_ok,
      revertIf_eq_ok, Ctx.onlyRole_eq_ok] at hrun
    obtain ⟨-, -, -, -, -, -, hrun⟩ := hrun
    split at hrun
    next =>
      obtain ⟨rfl, rfl⟩ := Prod.mk.inj (Except.ok.inj hrun)
      exact .refl _
    next =>
      obtain ⟨⟨id', s'⟩, hcreate, heq⟩ := bind_eq_ok.mp hrun
      obtain ⟨rfl, rfl⟩ := Prod.mk.inj (Except.ok.inj heq)
      exact (narrates_createClaimRecord hself hcreate).trans
        (.other rfl (fun _ _ => rfl) rfl rfl rfl)
  | reviseClaim priorClaimId summary authorBondAmount resolutionModule =>
    obtain ⟨⟨id, s⟩, hrun, rfl⟩ := map_eq_ok.mp h
    simp only [reviseClaim, requireExistingClaim, requireClaimAuthor, bind_eq_ok, revertIf_eq_ok,
      pure_eq_ok, Except.ok.injEq] at hrun
    obtain ⟨priorClaim, ⟨-, hprior, -⟩, -, -, -, -, -, -, ⟨id', s'⟩, hcreate, heq⟩ := hrun
    obtain ⟨rfl, rfl⟩ := Prod.mk.inj heq
    obtain ⟨record, rfl, hid, hrevision, hclaims, hlogs, hleads⟩ :=
      leads_createClaimRecord hself hcreate
    have hpriorId : priorClaimId ≠ 0 := hself.claims.idOf_eq rfl hprior ▸ hprior
    -- The entity is told what it revises by the second event.
    refine ⟨[createdEvent record, .claimRevised priorClaimId record.claimId ctx.sender],
      by rw [hlogs, List.append_assoc]; rfl, hleads.trans (.one fun x t ht => ?_)⟩
    have hrevised := ht.changed (k := record.claimId) (r := record)
      (g := fun claim => { claim with
        revisionOf := some priorClaimId, updatedAtBlock := x.blockNumber })
      (f := fun claim => { claim with revisionOf := some priorClaimId })
      (by rw [Mapping.set_self]; exact hid) (by rw [Mapping.set_self]) (fun _ => rfl)
      (by
        rw [Mapping.set_self]
        simp only [ClaimColumns.ofRecord, hrevision, nullIfZero, if_neg hpriorId])
    rw [Mapping.set_set, ← hclaims] at hrevised
    exact hrevised
  | setClaimStatus claimId newStatus =>
    simp only [setClaimStatus, bind_eq_ok, revertIf_eq_ok, Ctx.onlyRole_eq_ok, pure_eq_ok] at h
    obtain ⟨-, -, -, hexists, -, -, -, -, h⟩ := h
    have hleads : Leads handleClaimRegistry self.Followed
        [.claimStatusUpdated claimId (self.claims claimId).status newStatus ctx.sender]
        (ClaimsFollow
          (self.claims.set claimId { self.claims claimId with status := newStatus })
          self.decisions self.effectiveClaimDecisionId) :=
      .one fun x t ht => ht.moved hexists x
    split at h
    next =>
      obtain ⟨-, -, heq⟩ := bind_eq_ok.mp h
      obtain rfl := Except.ok.inj heq
      exact ⟨_, rfl, hleads⟩
    next =>
      obtain rfl := Except.ok.inj h
      exact ⟨_, rfl, hleads⟩
  | finalizeClaimResolution claimId replicationId =>
    obtain ⟨⟨id, s⟩, hrun, rfl⟩ := map_eq_ok.mp h
    simp only [finalizeClaimResolution, requireProtocolDependencies,
      ReplicationRegistry.getReplication, bind_eq_ok, revertIf_eq_ok, Ctx.onlyRole_eq_ok,
      checkedAdd_eq_ok, pure_eq_ok, Except.ok.injEq, Prod.mk.injEq] at hrun
    obtain ⟨-, -, -, -, -, hexists, -, -, -, -, -, -, -, -, -, -, decisionStatus, -, next,
      ⟨-, rfl⟩, -, rfl⟩ := hrun
    exact narrates_applyDecision hself hexists rfl

end ClaimRegistry

/-! ### Artifacts, replications and checkpoints -/

/-- The entities follow the registry. -/
def ArtifactRegistry.Followed (self : ArtifactRegistry) (t : Table ℕ Subgraph.Artifact) : Prop :=
  t.map Subgraph.Artifact.toArtifactColumns =
    rowsOf ArtifactCommitment.artifactId .ofRecord self.artifacts

theorem ArtifactRegistry.narrates_of_exec {ctx : Ctx} {claimRegistry : ClaimRegistry}
    {self s : ArtifactRegistry} {call : Call} (hself : self.Indexed)
    (h : self.exec ctx claimRegistry call = .ok s) :
    ∃ new, s.logs = self.logs ++ new ∧
      Leads Subgraph.handleArtifactRegistry self.Followed new s.Followed := by
  simp only [exec, bind_eq_ok, Ctx.nonPayable_eq_ok] at h
  obtain ⟨-, -, h⟩ := h
  cases call with
  | addArtifact claimId artifactType contentDigest uri metadataHash =>
    obtain ⟨⟨id, s⟩, hrun, rfl⟩ := map_eq_ok.mp h
    simp only [addArtifact, bind_eq_ok, revertIf_eq_ok, checkedAdd_eq_ok, pure_eq_ok,
      Except.ok.injEq, Prod.mk.injEq] at hrun
    obtain ⟨-, -, next, ⟨-, rfl⟩, -, rfl⟩ := hrun
    have hnext : self.nextArtifactId ≠ 0 := hself.next_pos.ne'
    exact ⟨_, rfl, .one fun x t ht => Subgraph.follows_set ht hnext rfl⟩

/-- The entities follow the registry. -/
def ReplicationRegistry.Followed (self : ReplicationRegistry)
    (t : Table ℕ Subgraph.Replication) : Prop :=
  t.map Subgraph.Replication.toReplicationColumns =
    rowsOf ReplicationRecord.replicationId .ofRecord self.replications

theorem ReplicationRegistry.narrates_of_exec {ctx : Ctx} {claimRegistry : IClaimRegistry}
    {agentRegistry : AgentRegistry} {self s : ReplicationRegistry} {call : Call}
    (hself : self.Indexed) (hnow : 0 < ctx.timestamp)
    (h : self.exec ctx claimRegistry agentRegistry call = .ok s) :
    ∃ new, s.logs = self.logs ++ new ∧
      Leads Subgraph.handleReplicationRegistry self.Followed new s.Followed := by
  simp only [exec, bind_eq_ok, Ctx.nonPayable_eq_ok] at h
  obtain ⟨-, -, h⟩ := h
  cases call with
  | submitReplication claimId environmentHash resultHash evidenceHash agentId =>
    obtain ⟨⟨id, s'⟩, hrun, rfl⟩ := map_eq_ok.mp h
    simp only [submitReplication, bind_eq_ok, revertIf_eq_ok, checkedAdd_eq_ok, pure_eq_ok,
      Except.ok.injEq, Prod.mk.injEq] at hrun
    obtain ⟨-, -, -, -, next, -, -, rfl⟩ := hrun
    have hnext : (submitted ctx self.nextReplicationId claimId environmentHash resultHash
        evidenceHash agentId).replicationId ≠ 0 := hself.replications.next_pos.ne'
    exact ⟨_, rfl, .one fun x t ht => Subgraph.follows_set ht hnext rfl⟩
  | resolveReplicationOutcome replicationId result =>
    simp only [resolveReplicationOutcome, bind_eq_ok, revertIf_eq_ok, Ctx.onlyRole_eq_ok,
      pure_eq_ok, Except.ok.injEq] at h
    obtain ⟨-, -, -, hexists, -, -, -, -, -, -, -, -, rfl⟩ := h
    refine ⟨_, rfl, .one fun x t ht =>
      Subgraph.follows_update (f := fun replication =>
        { replication with
          outcome := some (mapResolutionStatus result.status)
          resolutionStatus := some result.status
          resolutionHash := some result.resolutionHash
          resolver := some ctx.sender
          confidenceBps := some result.confidenceBps
          resolverType := some result.resolverType
          evidenceHash := some result.evidenceHash
          evidenceURI := some result.evidenceURI }) ht hexists hexists (fun _ => rfl) ?_⟩
    simp only [Subgraph.ReplicationColumns.ofRecord, resolved, hnow.ne', reduceIte]

/-- The entities follow the registry. -/
def ReputationCheckpointRegistry.Followed (self : ReputationCheckpointRegistry)
    (t : Table ℕ Subgraph.ReputationCheckpoint) : Prop :=
  t.map Subgraph.ReputationCheckpoint.toReputationCheckpointColumns =
    rowsOf CheckpointRecord.checkpointId .ofRecord self.checkpoints

theorem ReputationCheckpointRegistry.narrates_of_exec {ctx : Ctx}
    {claimRegistry : ClaimRegistry} {agentRegistry : AgentRegistry}
    {moduleRegistry : ResolutionModuleRegistry} {self s : ReputationCheckpointRegistry}
    {call : Call} (hself : self.Indexed)
    (h : self.exec ctx claimRegistry agentRegistry moduleRegistry call = .ok s) :
    ∃ new, s.logs = self.logs ++ new ∧
      Leads Subgraph.handleReputationCheckpointRegistry self.Followed new s.Followed := by
  simp only [exec, bind_eq_ok, Ctx.nonPayable_eq_ok] at h
  obtain ⟨-, -, h⟩ := h
  cases call with
  | publishCheckpoint domainId subject scoreVectorHash payloadHash uri =>
    obtain ⟨⟨id, s⟩, hrun, rfl⟩ := map_eq_ok.mp h
    simp only [publishCheckpoint, bind_eq_ok, Ctx.onlyRole_eq_ok, checkedAdd_eq_ok, pure_eq_ok,
      Except.ok.injEq, Prod.mk.injEq] at hrun
    obtain ⟨-, -, -, -, next, ⟨-, rfl⟩, -, rfl⟩ := hrun
    have hnext : self.nextCheckpointId ≠ 0 := hself.next_pos.ne'
    exact ⟨_, rfl, .one fun x t ht => Subgraph.follows_set ht hnext rfl⟩

/-! ### Agents -/

namespace Subgraph

/-- The entities of the agent registry follow its records and the payments it owes to the
log. -/
structure AgentsFollow (records : Mapping ℕ AgentRecord) (owed : List AgentRegistry.Pending)
    (t : Table ℕ Agent) : Prop where
  agents : t.map Agent.toAgentColumns = rowsOf AgentRecord.agentId (.ofRecord owed) records
  /-- Only an agent that exists pays. -/
  payers : ∀ p ∈ owed, (records (payer p)).agentId ≠ 0

@[simp] theorem owedBy_nil (amount : AgentRegistry.Pending → ℕ) (k : ℕ) :
    owedBy amount [] k = 0 := rfl

theorem owedBy_cons (amount : AgentRegistry.Pending → ℕ) (p : AgentRegistry.Pending)
    (owed : List AgentRegistry.Pending) (k : ℕ) :
    owedBy amount (p :: owed) k = (if payer p = k then amount p else 0) + owedBy amount owed k :=
  List.sum_cons

/-- Who does not pay owes nothing. -/
theorem owedBy_eq_zero {amount : AgentRegistry.Pending → ℕ} {owed : List AgentRegistry.Pending}
    {k : ℕ} (h : ∀ p ∈ owed, payer p ≠ k) : owedBy amount owed k = 0 := by
  refine List.sum_eq_zero fun n hn => ?_
  obtain ⟨p, hp, rfl⟩ := List.mem_map.mp hn
  exact if_neg (h p hp)

namespace AgentsFollow

variable {records : Mapping ℕ AgentRecord} {owed : List AgentRegistry.Pending}
  {t : Table ℕ Agent} {k : ℕ} {record : AgentRecord}

/-- An agent registers. -/
theorem registered (h : AgentsFollow records owed t) (hblank : (records k).agentId = 0)
    (hk : k ≠ 0) {operator : Address} {metadataHash : Bytes32} {uri : String} {spendLimit : ℕ}
    (x : EventContext) :
    AgentsFollow (records.set k
        { agentId := k, operator, metadataHash, uri, budgetBalance := 0, reservedBudget := 0,
          spentBudget := 0, spendLimit, active := true }) owed
      (handleAgentRegistry x (.agentRegistered k operator metadataHash uri spendLimit) t) where
  agents := by
    have howes : ∀ amount, owedBy amount owed k = 0 := fun amount =>
      owedBy_eq_zero fun p hp heq => h.payers p hp (heq ▸ hblank)
    refine follows_set h.agents hk ?_
    simp only [AgentColumns.ofRecord, howes]
    rfl
  payers p hp := by
    rw [Mapping.set_apply]
    split
    next => exact hk
    next => exact h.payers p hp

/-- An agent that exists changes, and is told of. -/
theorem changed (h : AgentsFollow records owed t) (f : AgentColumns → AgentColumns)
    (hexists : (records k).agentId ≠ 0) (hid : record.agentId = (records k).agentId)
    (hf : AgentColumns.ofRecord owed record = f (.ofRecord owed (records k)))
    (x : EventContext) :
    AgentsFollow (records.set k record) owed (updateAgent x k f t) where
  agents := follows_update h.agents hexists (hid ▸ hexists) (fun _ => rfl) hf
  payers p hp := by
    rw [Mapping.set_apply]
    split
    next => exact hid ▸ hexists
    next => exact h.payers p hp

/-- An agent pays, and is not told of. -/
theorem paid (h : AgentsFollow records owed t) (hnumbered : ∀ k, (records k).agentId ≠ 0 →
      (records k).agentId = k) {p : AgentRegistry.Pending} (hpayer : payer p = k)
    (hexists : (records k).agentId ≠ 0) (hid : record.agentId = (records k).agentId)
    (hf : AgentColumns.ofRecord (p :: owed) record = .ofRecord owed (records k)) :
    AgentsFollow (records.set k record) (p :: owed) t where
  agents := by
    rw [h.agents]
    refine Table.ext fun k' => ?_
    rw [rowsOf_apply, rowsOf_apply]
    by_cases hk : k' = k
    · rw [hk, Mapping.set_self, if_neg hexists, if_neg (hid ▸ hexists), hf]
    · rw [Mapping.set_of_ne _ hk]
      split
      next => rfl
      next hexists' =>
        have hother : payer p ≠ (records k').agentId := by
          rw [hpayer, hnumbered k' hexists']
          exact Ne.symm hk
        simp only [AgentColumns.ofRecord, owedBy_cons, if_neg hother, Nat.zero_add]
  payers p' hp' := by
    rw [Mapping.set_apply]
    split
    next => exact hid ▸ hexists
    next hne =>
      rcases List.mem_cons.mp hp' with rfl | hp'
      · exact absurd hpayer hne
      · exact h.payers p' hp'

/-- A payment is told of. -/
theorem told {p : AgentRegistry.Pending} (h : AgentsFollow records (p :: owed) t)
    (hnumbered : ∀ k, (records k).agentId ≠ 0 →
      (records k).agentId = k) (f : AgentColumns → AgentColumns)
    (hf : AgentColumns.ofRecord owed (records (payer p)) =
      f (.ofRecord (p :: owed) (records (payer p)))) (x : EventContext) :
    AgentsFollow records owed (updateAgent x (payer p) f t) where
  agents := by
    have hexists := h.payers p List.mem_cons_self
    refine follows_view h.agents hexists (fun k hk hexists' => ?_) (fun _ => rfl) hf
    have hother : payer p ≠ (records k).agentId := by
      rw [hnumbered k hexists']
      exact Ne.symm hk
    simp only [AgentColumns.ofRecord, owedBy_cons, if_neg hother, Nat.zero_add]
  payers p' hp' := h.payers p' (List.mem_cons_of_mem _ hp')

end AgentsFollow

end Subgraph

end ScientificProtocol
