import ScientificProtocol.Claims.Decisions
import ScientificProtocol.Indexer.Emitted
import ScientificProtocol.Indexer.Store
import ScientificProtocol.Sql.Replay

/-!
# The logs are a journal of the records

What the registries say of a record when they create it, and what they say when they change
it, is all that an indexer needs to know it: **the logs of a stretch can be replayed on the
records before it, and make of them the records after it**
(`ScientificProtocol.Indexer.Emits.claimRows` and its siblings). In particular nothing is
created twice, and nothing is changed that is not there. Two things of a record are not
told: which claim a claim revises, and when a decision was made.

Which decision of a claim is effective is told by name, and what was told last holds
(`ScientificProtocol.Indexer.Emits.effective`).
-/

namespace ScientificProtocol

open Evm Indexer Sql

namespace Indexer

/-! ### The records of a contract as rows -/

section

variable {V ρ : Type} [Inhabited V] {idOf : V → ℕ} {view : V → ρ} {m : Mapping ℕ V} {k : ℕ} {v : V}

/-- The records of a mapping, as rows: an identifier that is zero is nobody's. -/
def rowsOf (idOf : V → ℕ) (view : V → ρ) (m : Mapping ℕ V) : Table ℕ ρ :=
  ⟨fun k => if idOf (m k) = 0 then none else some (view (m k))⟩

theorem rowsOf_apply (idOf : V → ℕ) (view : V → ρ) (m : Mapping ℕ V) (k : ℕ) :
    rowsOf idOf view m k = if idOf (m k) = 0 then none else some (view (m k)) := rfl

theorem rowsOf_default (hid : idOf default = 0) :
    rowsOf idOf view (default : Mapping ℕ V) = .empty :=
  Table.ext fun _ => if_pos hid

theorem rowsOf_set (hv : idOf v ≠ 0) :
    rowsOf idOf view (m.set k v) = (rowsOf idOf view m).set k (view v) := by
  refine Table.ext fun k' => ?_
  rw [rowsOf_apply, Mapping.set_apply, Table.set_apply]
  by_cases hk : k' = k
  · rw [if_pos hk, if_pos hk, if_neg hv]
  · rw [if_neg hk, if_neg hk, rowsOf_apply]

theorem run_create (hblank : idOf (m k) = 0) (hv : idOf v ≠ 0) :
    replay [.create k (view v)] (rowsOf idOf view m) = some (rowsOf idOf view (m.set k v)) := by
  rw [replay_singleton]
  exact Write.run_create.mpr ⟨if_pos hblank, (rowsOf_set hv).symm⟩

theorem rowsOf_update {f : ρ → ρ} (hexists : idOf (m k) ≠ 0) (hv : idOf v ≠ 0)
    (hf : view v = f (view (m k))) :
    rowsOf idOf view (m.set k v) = (rowsOf idOf view m).update k f := by
  rw [Table.update_of_some (if_neg hexists), rowsOf_set hv, hf]

theorem run_change {f : ρ → ρ} (hexists : idOf (m k) ≠ 0) (hv : idOf v ≠ 0)
    (hf : view v = f (view (m k))) :
    replay [.change k f] (rowsOf idOf view m) = some (rowsOf idOf view (m.set k v)) := by
  rw [replay_singleton]
  exact Write.run_change.mpr ⟨⟨_, if_neg hexists⟩, (rowsOf_update hexists hv hf).symm⟩

/-- What is said of one record changes, and the record stays. -/
theorem rowsOf_view {view' : V → ρ} {f : ρ → ρ} (hexists : idOf (m k) ≠ 0)
    (hother : ∀ k', k' ≠ k → idOf (m k') ≠ 0 → view' (m k') = view (m k'))
    (hf : view' (m k) = f (view (m k))) :
    rowsOf idOf view' m = (rowsOf idOf view m).update k f := by
  rw [Table.update_of_some (if_neg hexists), ← hf]
  refine Table.ext fun k' => ?_
  rw [Table.set_apply, rowsOf_apply, rowsOf_apply]
  by_cases hk : k' = k
  · rw [if_pos hk, hk, if_neg hexists]
  · rw [if_neg hk]
    split
    next => rfl
    next hk' => rw [hother k' hk hk']

end

/-! ### What the logs write -/

/-- What is told of a claim when it is created, and when its status moves. -/
def ChainEvent.claimWrite? : ChainEvent → Option (Write ℕ ClaimView)
  | .claimRegistry (.claimCreated claimId author domainId metadataHash resolutionModule _) =>
    some (.create claimId
      { claimId, author, domainId, metadataHash, resolutionModule
        status := .draft
        revisionOfClaimId := none
        createdAtBlock := 0 })
  | .claimRegistry (.claimStatusUpdated claimId _ newStatus _) =>
    some (.change claimId fun row => { row with status := newStatus })
  | _ => none

/-- What is told of a replication when it is submitted, and when it is resolved. -/
def ChainEvent.replicationWrite? : ChainEvent → Option (Write ℕ ReplicationView)
  | .replicationRegistry (.replicationSubmitted replicationId claimId replicator agentId
      resultHash) =>
    some (.create replicationId
      { replicationId, claimId, replicator, agentId, resultHash
        outcome := none
        resolutionStatus := none
        confidenceBps := none
        resolverType := none
        resolutionHash := none
        evidenceHash := none
        evidenceURI := none })
  | .replicationRegistry (.replicationResolved replicationId outcome status resolutionHash _
      confidenceBps resolverType evidenceHash evidenceURI) =>
    some (.change replicationId fun row =>
      { row with toReplicationResolution :=
          { outcome := some outcome
            resolutionStatus := some status
            confidenceBps := some confidenceBps
            resolverType := some resolverType
            resolutionHash := some resolutionHash
            evidenceHash := some evidenceHash
            evidenceURI := some evidenceURI } })
  | _ => none

/-- What is told of a decision when it is recorded. -/
def ChainEvent.decisionWrite? : ChainEvent → Option (Write ℕ ResolutionDecisionView)
  | .claimRegistry (.resolutionDecisionRecorded decisionId claimId replicationId
      resolutionModule status claimStatus confidenceBps resolutionHash evidenceHash resolverType
      actor) =>
    some (.create decisionId
      { decisionId, claimId, replicationId, resolutionModule, status, claimStatus,
        confidenceBps, resolutionHash, evidenceHash, resolverType, actor
        createdAt := 0
        effective := false })
  | _ => none

/-- What is told of an artifact when it is added. -/
def ChainEvent.artifactWrite? : ChainEvent → Option (Write ℕ ArtifactView)
  | .artifactRegistry (.artifactAdded artifactId claimId artifactType contentDigest uri
      submitter) =>
    some (.create artifactId { artifactId, claimId, artifactType, contentDigest, uri, submitter })
  | _ => none

/-- What is told of a checkpoint when it is published. -/
def ChainEvent.checkpointWrite? : ChainEvent → Option (Write ℕ CheckpointView)
  | .reputationCheckpointRegistry (.reputationCheckpointPublished checkpointId domainId subject
      scoreVectorHash payloadHash uri) =>
    some (.create checkpointId
      { checkpointId, domainId
        subjectType := subject.subjectType
        subjectActor := subject.subjectActor
        subjectClaimId := subject.subjectClaimId
        subjectAgentId := subject.subjectAgentId
        subjectModule := subject.subjectModule
        scoreVectorHash, payloadHash, uri })
  | _ => none

/-- The decision that is told to be the effective one of a claim. -/
def ChainEvent.effective? (claimId : ℕ) : ChainEvent → Option ℕ
  | .claimRegistry (.effectiveResolutionDecisionUpdated claimId' decisionId _ _) =>
    if claimId' = claimId then some decisionId else none
  | _ => none

/-! ### What the records say -/

/-- A claim, up to the claim it revises and the block it is in. -/
def claimRow (record : ClaimRecord) : ClaimView where
  claimId := record.claimId
  author := record.summary.author
  domainId := record.summary.domainId
  metadataHash := record.summary.metadataHash
  resolutionModule := record.resolutionModule
  status := record.status
  revisionOfClaimId := none
  createdAtBlock := 0

/-- A replication, which has a resolution once it is resolved. -/
def replicationRow (record : ReplicationRecord) : ReplicationView where
  replicationId := record.replicationId
  claimId := record.claimId
  replicator := record.replicator
  agentId := record.agentId
  resultHash := record.resultHash
  outcome := if record.resolvedAt = 0 then none else some record.outcome
  resolutionStatus := if record.resolvedAt = 0 then none else some record.resolutionStatus
  confidenceBps := if record.resolvedAt = 0 then none else some record.confidenceBps
  resolverType := if record.resolvedAt = 0 then none else some record.resolverType
  resolutionHash := if record.resolvedAt = 0 then none else some record.resolutionHash
  evidenceHash := if record.resolvedAt = 0 then none else some record.resolutionEvidenceHash
  evidenceURI := if record.resolvedAt = 0 then none else some record.resolutionEvidenceURI

/-- A decision, up to when it was made and whether it is effective. -/
def decisionRow (record : ResolutionDecision) : ResolutionDecisionView where
  decisionId := record.decisionId
  claimId := record.claimId
  replicationId := record.replicationId
  resolutionModule := record.resolutionModule
  status := record.status
  claimStatus := record.claimStatus
  confidenceBps := record.confidenceBps
  resolutionHash := record.resolutionHash
  evidenceHash := record.evidenceHash
  resolverType := record.resolverType
  createdAt := 0
  actor := record.actor
  effective := false

def artifactRow (record : ArtifactCommitment) : ArtifactView where
  artifactId := record.artifactId
  claimId := record.claimId
  artifactType := record.artifactType
  contentDigest := record.contentDigest
  uri := record.uri
  submitter := record.submitter

def checkpointRow (record : CheckpointRecord) : CheckpointView where
  checkpointId := record.checkpointId
  domainId := record.domainId
  subjectType := record.subjectType
  subjectActor := record.subjectActor
  subjectClaimId := record.subjectClaimId
  subjectAgentId := record.subjectAgentId
  subjectModule := record.subjectModule
  scoreVectorHash := record.scoreVectorHash
  payloadHash := record.payloadHash
  uri := record.uri

end Indexer

/-! ### The replication registry -/

namespace ReplicationRegistry

variable {ctx : Ctx} {claimRegistry : IClaimRegistry} {agentRegistry : AgentRegistry}
  {self s : ReplicationRegistry}

/-- **What the logs of a call write.** -/
theorem replays_of_exec {call : Call} (hself : self.Indexed) (hnow : 0 < ctx.timestamp)
    (h : self.exec ctx claimRegistry agentRegistry call = .ok s) :
    ∃ new, s.logs = self.logs ++ new ∧
      replay ((new.map ChainEvent.replicationRegistry).filterMap ChainEvent.replicationWrite?)
        (rowsOf ReplicationRecord.replicationId replicationRow self.replications) =
      some (rowsOf ReplicationRecord.replicationId replicationRow s.replications) := by
  simp only [exec, bind_eq_ok, Ctx.nonPayable_eq_ok] at h
  obtain ⟨-, -, h⟩ := h
  cases call with
  | submitReplication claimId environmentHash resultHash evidenceHash agentId =>
    obtain ⟨⟨id, s'⟩, hrun, rfl⟩ := map_eq_ok.mp h
    simp only [submitReplication, bind_eq_ok, revertIf_eq_ok, checkedAdd_eq_ok, pure_eq_ok,
      Except.ok.injEq, Prod.mk.injEq] at hrun
    obtain ⟨-, -, -, -, next, -, -, rfl⟩ := hrun
    have hblank : (self.replications self.nextReplicationId).replicationId = 0 := by
      rw [hself.replications.blank_next]
      rfl
    have hnext : (submitted ctx self.nextReplicationId claimId environmentHash resultHash
        evidenceHash agentId).replicationId ≠ 0 := hself.replications.next_pos.ne'
    exact ⟨_, rfl, run_create hblank hnext⟩
  | resolveReplicationOutcome replicationId result =>
    simp only [resolveReplicationOutcome, bind_eq_ok, revertIf_eq_ok, Ctx.onlyRole_eq_ok,
      pure_eq_ok, Except.ok.injEq] at h
    obtain ⟨-, -, -, hexists, -, hresolved, -, -, -, -, -, -, rfl⟩ := h
    refine ⟨_, rfl, run_change hexists hexists ?_⟩
    simp only [replicationRow, resolved, hnow.ne', reduceIte]

end ReplicationRegistry

/-! ### The claim registry -/

namespace ClaimRegistry

/-- What the logs of a call say of claims and decisions. -/
structure Journal (before : ClaimRegistry) (events : List ChainEvent) (after : ClaimRegistry) :
    Prop where
  claims : replay (events.filterMap ChainEvent.claimWrite?)
    (rowsOf ClaimRecord.claimId claimRow before.claims) =
      some (rowsOf ClaimRecord.claimId claimRow after.claims)
  decisions : replay (events.filterMap ChainEvent.decisionWrite?)
    (rowsOf ResolutionDecision.decisionId decisionRow before.decisions) =
      some (rowsOf ResolutionDecision.decisionId decisionRow after.decisions)
  effective : ∀ k, after.effectiveClaimDecisionId k =
    ((events.filterMap (ChainEvent.effective? k)).getLast?).getD
      (before.effectiveClaimDecisionId k)
  /-- What is told to be effective is a decision of the claim. -/
  decided : ∀ k, ∀ d ∈ events.filterMap (ChainEvent.effective? k),
    (after.decisions d).decisionId ≠ 0 ∧ (after.decisions d).claimId = k
  /-- A decision is made for good. -/
  kept : ∀ d, (before.decisions d).decisionId ≠ 0 → after.decisions d = before.decisions d

variable {ctx : Ctx} {parameters : ProtocolParameters} {moduleRegistry : ResolutionModuleRegistry}
  {replicationRegistry : ReplicationRegistry} {bondEscrow : IBondEscrow}
  {self s s' : ClaimRegistry} {events events' : List ChainEvent}

theorem Journal.refl (self : ClaimRegistry) : Journal self [] self where
  claims := rfl
  decisions := rfl
  effective _ := rfl
  decided _ _ hd := absurd hd List.not_mem_nil
  kept _ _ := rfl

theorem Journal.trans (h : Journal self events s) (h' : Journal s events' s') :
    Journal self (events ++ events') s' where
  claims := by
    rw [List.filterMap_append]
    exact replay_trans h.claims h'.claims
  decisions := by
    rw [List.filterMap_append]
    exact replay_trans h.decisions h'.decisions
  effective k := by
    rw [List.filterMap_append, List.getLast?_append, h'.effective, h.effective]
    cases (events'.filterMap (ChainEvent.effective? k)).getLast? <;> rfl
  decided k d hd := by
    rw [List.filterMap_append] at hd
    rcases List.mem_append.mp hd with hd | hd
    · obtain ⟨hexists, hclaim⟩ := h.decided k d hd
      rw [h'.kept d hexists]
      exact ⟨hexists, hclaim⟩
    · exact h'.decided k d hd
  kept d hd := by
    have heq := h.kept d hd
    rw [h'.kept d (by rwa [heq]), heq]

/-- The logs of a call that says nothing of decisions. -/
theorem Journal.of_claims
    (hclaims : replay (events.filterMap ChainEvent.claimWrite?)
      (rowsOf ClaimRecord.claimId claimRow self.claims) =
        some (rowsOf ClaimRecord.claimId claimRow s.claims))
    (hnone : events.filterMap ChainEvent.decisionWrite? = [])
    (hnone' : ∀ k, events.filterMap (ChainEvent.effective? k) = [])
    (hdecisions : s.decisions = self.decisions)
    (heffective : s.effectiveClaimDecisionId = self.effectiveClaimDecisionId) :
    Journal self events s where
  claims := hclaims
  decisions := by
    rw [hnone, hdecisions]
    rfl
  effective k := by
    rw [hnone', heffective]
    rfl
  decided k d hd := by
    rw [hnone' k] at hd
    exact absurd hd List.not_mem_nil
  kept d _ := by rw [hdecisions]

theorem journal_createClaimRecord {summary : ClaimSummary}
    {authorBondAmount revisionOfClaimId claimId : ℕ} {resolutionModule : Address}
    (hself : self.Indexed)
    (h : self.createClaimRecord ctx parameters moduleRegistry summary authorBondAmount
      revisionOfClaimId resolutionModule = .ok (claimId, s)) :
    ∃ new, s.logs = self.logs ++ new ∧ Journal self (new.map .claimRegistry) s := by
  simp only [createClaimRecord, bind_eq_ok, revertIf_eq_ok, checkedAdd_eq_ok, pure_eq_ok,
    Except.ok.injEq, Prod.mk.injEq, not_not] at h
  obtain ⟨-, -, next, -, -, -, -, -, -, rfl⟩ := h
  have hblank : (self.claims self.nextClaimId).claimId = 0 := by
    rw [hself.claims.blank_next]
    rfl
  have hnext : self.nextClaimId ≠ 0 := hself.claims.next_pos.ne'
  let record : ClaimRecord :=
    { claimId := self.nextClaimId, summary, status := .draft, revisionOfClaimId,
      createdAt := ctx.timestamp, requiredAuthorBond := authorBondAmount,
      resolutionModule := resolvedModule moduleRegistry summary.domainId resolutionModule }
  have hrows : replay [.create self.nextClaimId (claimRow record)]
      (rowsOf ClaimRecord.claimId claimRow self.claims) =
        some (rowsOf ClaimRecord.claimId claimRow (self.claims.set self.nextClaimId record)) :=
    run_create hblank hnext
  exact ⟨_, rfl, .of_claims hrows rfl (fun _ => rfl) rfl rfl⟩

/-- A log that says nothing of claims and decisions. -/
theorem Journal.other {event : Event}
    (hevent : (ChainEvent.claimRegistry event).filter? = none) (hclaims : s.claims = self.claims)
    (hdecisions : s.decisions = self.decisions)
    (heffective : s.effectiveClaimDecisionId = self.effectiveClaimDecisionId) :
    Journal self [.claimRegistry event] s := by
  cases event <;> simp only [ChainEvent.filter?, reduceCtorEq] at hevent <;>
    exact .of_claims (by rw [hclaims]; rfl) rfl (fun _ => rfl) hdecisions heffective

theorem journal_setClaimStatus {claimId : ℕ} {newStatus : ClaimStatus}
    (h : self.setClaimStatus ctx bondEscrow claimId newStatus = .ok s) :
    ∃ new, s.logs = self.logs ++ new ∧ Journal self (new.map .claimRegistry) s := by
  simp only [setClaimStatus, bind_eq_ok, revertIf_eq_ok, Ctx.onlyRole_eq_ok, pure_eq_ok] at h
  obtain ⟨-, -, -, hexists, -, -, -, -, h⟩ := h
  have hjournal : Journal self
      [.claimRegistry (.claimStatusUpdated claimId (self.claims claimId).status newStatus
        ctx.sender)]
      { self with
        claims := self.claims.set claimId { self.claims claimId with status := newStatus }
        logs := self.logs ++
          [.claimStatusUpdated claimId (self.claims claimId).status newStatus ctx.sender] } :=
    .of_claims (run_change hexists hexists rfl) rfl (fun _ => rfl) rfl rfl
  split at h
  next =>
    obtain ⟨-, -, heq⟩ := bind_eq_ok.mp h
    obtain rfl := Except.ok.inj heq
    exact ⟨_, rfl, hjournal⟩
  next =>
    obtain rfl := Except.ok.inj h
    exact ⟨_, rfl, hjournal⟩

/-- **A decision is told of, and then whether it takes effect.** -/
theorem journal_applyDecision {decision : ResolutionDecision} (hself : self.Indexed)
    (hclaim : (self.claims decision.claimId).claimId ≠ 0)
    (hid : decision.decisionId = self.nextResolutionDecisionId) :
    ∃ new, ((self.recordDecision decision (self.nextResolutionDecisionId + 1)).applyDecision
        decision).logs = self.logs ++ new ∧
      Journal self (new.map .claimRegistry)
        ((self.recordDecision decision (self.nextResolutionDecisionId + 1)).applyDecision
          decision) := by
  have hnext : decision.decisionId ≠ 0 := hid ▸ hself.decisions.next_pos.ne'
  have hblank : (self.decisions decision.decisionId).decisionId = 0 := by
    rw [hid, hself.decisions.blank_next]
    rfl
  have hdecisions : replay [Write.create decision.decisionId (decisionRow decision)]
      (rowsOf ResolutionDecision.decisionId decisionRow self.decisions) =
        some (rowsOf ResolutionDecision.decisionId decisionRow
          (self.decisions.set decision.decisionId decision)) :=
    run_create hblank hnext
  have hkept : ∀ d, (self.decisions d).decisionId ≠ 0 →
      self.decisions.set decision.decisionId decision d = self.decisions d := by
    intro d hd
    refine Mapping.set_of_ne _ ?_ _
    rintro rfl
    exact hd hblank
  -- The pointer of the claim, once the decision is told to be effective.
  have heffective : ∀ k, self.effectiveClaimDecisionId.set decision.claimId decision.decisionId k =
      ((([ChainEvent.claimRegistry (.effectiveResolutionDecisionUpdated decision.claimId
        decision.decisionId decision.claimStatus decision.actor)]).filterMap
          (ChainEvent.effective? k)).getLast?).getD (self.effectiveClaimDecisionId k) := by
    intro k
    rw [Mapping.set_apply]
    by_cases hk : k = decision.claimId
    · simp [ChainEvent.effective?, hk]
    · simp [ChainEvent.effective?, hk, Ne.symm hk]
  have hdecided : ∀ k, ∀ d ∈ ([ChainEvent.claimRegistry
      (.effectiveResolutionDecisionUpdated decision.claimId decision.decisionId
        decision.claimStatus decision.actor)]).filterMap (ChainEvent.effective? k),
      (self.decisions.set decision.decisionId decision d).decisionId ≠ 0 ∧
        (self.decisions.set decision.decisionId decision d).claimId = k := by
    intro k d hd
    obtain ⟨event, hevent, hd⟩ := List.mem_filterMap.mp hd
    obtain rfl := List.mem_singleton.mp hevent
    simp only [ChainEvent.effective?, Option.ite_none_right_eq_some, Option.some.injEq] at hd
    obtain ⟨rfl, rfl⟩ := hd
    rw [Mapping.set_self]
    exact ⟨hnext, rfl⟩
  unfold applyDecision
  simp only
  split
  next =>
    exact ⟨_, rfl,
      { claims := run_change hclaim hclaim rfl
        decisions := hdecisions
        effective := heffective
        decided := hdecided
        kept := hkept }⟩
  next =>
    split
    next =>
      exact ⟨_, rfl,
        { claims := rfl
          decisions := hdecisions
          effective := heffective
          decided := hdecided
          kept := hkept }⟩
    next =>
      exact ⟨_, rfl,
        { claims := rfl
          decisions := hdecisions
          effective := fun _ => rfl
          decided := fun _ _ hd => absurd hd List.not_mem_nil
          kept := hkept }⟩

/-- **What the logs of any call write.** -/
theorem journal_of_exec {call : Call} (hself : self.Indexed)
    (h : self.exec ctx parameters moduleRegistry replicationRegistry bondEscrow call = .ok s) :
    ∃ new, s.logs = self.logs ++ new ∧ Journal self (new.map .claimRegistry) s := by
  -- A second log after that of the creation.
  have hthen : ∀ {s₁ s₂ : ClaimRegistry} {event : Event},
      (∃ new, s₁.logs = self.logs ++ new ∧ Journal self (new.map .claimRegistry) s₁) →
      s₂.logs = s₁.logs ++ [event] → Journal s₁ [.claimRegistry event] s₂ →
      ∃ new, s₂.logs = self.logs ++ new ∧ Journal self (new.map .claimRegistry) s₂ := by
    rintro s₁ s₂ event ⟨new, hlogs, hjournal⟩ hlogs' hjournal'
    refine ⟨new ++ [event], by rw [hlogs', hlogs, List.append_assoc], ?_⟩
    rw [List.map_append]
    exact hjournal.trans hjournal'
  simp only [exec, bind_eq_ok, Ctx.nonPayable_eq_ok] at h
  obtain ⟨-, -, h⟩ := h
  cases call with
  | configureProtocolDependencies bondEscrow replicationRegistry =>
    simp only [configureProtocolDependencies, bind_eq_ok, revertIf_eq_ok, Ctx.onlyRole_eq_ok,
      pure_eq_ok, Except.ok.injEq] at h
    obtain ⟨-, -, -, -, -, -, -, -, rfl⟩ := h
    exact ⟨_, rfl, .other rfl rfl rfl rfl⟩
  | createClaim summary authorBondAmount resolutionModule =>
    obtain ⟨⟨id, s⟩, hrun, rfl⟩ := map_eq_ok.mp h
    simp only [createClaim, requireClaimAuthor, bind_eq_ok, revertIf_eq_ok] at hrun
    obtain ⟨-, -, hcreate⟩ := hrun
    exact journal_createClaimRecord hself hcreate
  | createClaimOnBehalf summary authorBondAmount resolutionModule =>
    obtain ⟨⟨id, s⟩, hrun, rfl⟩ := map_eq_ok.mp h
    simp only [createClaimOnBehalf, requireNonzeroClaimAuthor, bind_eq_ok, revertIf_eq_ok,
      Ctx.onlyRole_eq_ok] at hrun
    obtain ⟨-, -, -, -, hcreate⟩ := hrun
    exact journal_createClaimRecord hself hcreate
  | createClaimOnBehalfWithRequestHash summary authorBondAmount resolutionModule requestHash =>
    obtain ⟨⟨id, s⟩, hrun, rfl⟩ := map_eq_ok.mp h
    simp only [createClaimOnBehalfWithRequestHash, requireNonzeroClaimAuthor, bind_eq_ok,
      revertIf_eq_ok, Ctx.onlyRole_eq_ok] at hrun
    obtain ⟨-, -, -, -, -, -, hrun⟩ := hrun
    split at hrun
    next =>
      obtain ⟨rfl, rfl⟩ := Prod.mk.inj (Except.ok.inj hrun)
      exact ⟨[], (List.append_nil _).symm, .refl _⟩
    next =>
      obtain ⟨⟨id', s'⟩, hcreate, heq⟩ := bind_eq_ok.mp hrun
      obtain ⟨rfl, rfl⟩ := Prod.mk.inj (Except.ok.inj heq)
      exact hthen (journal_createClaimRecord hself hcreate) rfl (.other rfl rfl rfl rfl)
  | reviseClaim priorClaimId summary authorBondAmount resolutionModule =>
    obtain ⟨⟨id, s⟩, hrun, rfl⟩ := map_eq_ok.mp h
    simp only [reviseClaim, requireExistingClaim, requireClaimAuthor, bind_eq_ok, revertIf_eq_ok,
      pure_eq_ok, Except.ok.injEq] at hrun
    obtain ⟨-, -, -, -, -, -, -, -, ⟨id', s'⟩, hcreate, heq⟩ := hrun
    obtain ⟨rfl, rfl⟩ := Prod.mk.inj heq
    exact hthen (journal_createClaimRecord hself hcreate) rfl (.other rfl rfl rfl rfl)
  | setClaimStatus claimId newStatus => exact journal_setClaimStatus h
  | finalizeClaimResolution claimId replicationId =>
    obtain ⟨⟨id, s⟩, hrun, rfl⟩ := map_eq_ok.mp h
    simp only [finalizeClaimResolution, requireProtocolDependencies,
      ReplicationRegistry.getReplication, bind_eq_ok, revertIf_eq_ok, Ctx.onlyRole_eq_ok,
      checkedAdd_eq_ok, pure_eq_ok, Except.ok.injEq, Prod.mk.injEq] at hrun
    obtain ⟨-, -, -, -, -, hexists, -, -, -, -, -, -, -, -, -, -, decisionStatus, -, next,
      ⟨-, rfl⟩, -, rfl⟩ := hrun
    exact journal_applyDecision hself hexists rfl

end ClaimRegistry

/-! ### The registries of artifacts and of checkpoints -/

namespace ArtifactRegistry

/-- Artifacts are numbered one after the other. -/
def Indexed (s : ArtifactRegistry) : Prop :=
  Numbered ArtifactCommitment.artifactId s.nextArtifactId s.artifacts

variable {ctx : Ctx} {claimRegistry : ClaimRegistry} {self s : ArtifactRegistry}

theorem replays_of_exec {call : Call} (hself : self.Indexed)
    (h : self.exec ctx claimRegistry call = .ok s) :
    s.Indexed ∧ ∃ new, s.logs = self.logs ++ new ∧
      replay ((new.map ChainEvent.artifactRegistry).filterMap ChainEvent.artifactWrite?)
        (rowsOf ArtifactCommitment.artifactId artifactRow self.artifacts) =
      some (rowsOf ArtifactCommitment.artifactId artifactRow s.artifacts) := by
  simp only [exec, bind_eq_ok, Ctx.nonPayable_eq_ok] at h
  obtain ⟨-, -, h⟩ := h
  cases call with
  | addArtifact claimId artifactType contentDigest uri metadataHash =>
    obtain ⟨⟨id, s⟩, hrun, rfl⟩ := map_eq_ok.mp h
    simp only [addArtifact, bind_eq_ok, revertIf_eq_ok, checkedAdd_eq_ok, pure_eq_ok,
      Except.ok.injEq, Prod.mk.injEq] at hrun
    obtain ⟨-, -, next, ⟨-, rfl⟩, -, rfl⟩ := hrun
    have hblank : (self.artifacts self.nextArtifactId).artifactId = 0 := by
      rw [hself.blank_next]
      rfl
    let artifact : ArtifactCommitment :=
      { artifactId := self.nextArtifactId, claimId, artifactType, contentDigest, uri,
        metadataHash, submitter := ctx.sender, createdAt := ctx.timestamp }
    have hnext : artifact.artifactId ≠ 0 := hself.next_pos.ne'
    have hrows : replay [.create self.nextArtifactId (artifactRow artifact)]
        (rowsOf ArtifactCommitment.artifactId artifactRow self.artifacts) =
          some (rowsOf ArtifactCommitment.artifactId artifactRow
            (self.artifacts.set self.nextArtifactId artifact)) := run_create hblank hnext
    exact ⟨hself.push rfl, _, rfl, hrows⟩

end ArtifactRegistry

namespace ReputationCheckpointRegistry

/-- Checkpoints are numbered one after the other. -/
def Indexed (s : ReputationCheckpointRegistry) : Prop :=
  Numbered CheckpointRecord.checkpointId s.nextCheckpointId s.checkpoints

variable {ctx : Ctx} {claimRegistry : ClaimRegistry} {agentRegistry : AgentRegistry}
  {moduleRegistry : ResolutionModuleRegistry} {self s : ReputationCheckpointRegistry}

theorem replays_of_exec {call : Call} (hself : self.Indexed)
    (h : self.exec ctx claimRegistry agentRegistry moduleRegistry call = .ok s) :
    s.Indexed ∧ ∃ new, s.logs = self.logs ++ new ∧
      replay ((new.map ChainEvent.reputationCheckpointRegistry).filterMap
          ChainEvent.checkpointWrite?)
        (rowsOf CheckpointRecord.checkpointId checkpointRow self.checkpoints) =
      some (rowsOf CheckpointRecord.checkpointId checkpointRow s.checkpoints) := by
  simp only [exec, bind_eq_ok, Ctx.nonPayable_eq_ok] at h
  obtain ⟨-, -, h⟩ := h
  cases call with
  | publishCheckpoint domainId subject scoreVectorHash payloadHash uri =>
    obtain ⟨⟨id, s⟩, hrun, rfl⟩ := map_eq_ok.mp h
    simp only [publishCheckpoint, bind_eq_ok, Ctx.onlyRole_eq_ok, checkedAdd_eq_ok, pure_eq_ok,
      Except.ok.injEq, Prod.mk.injEq] at hrun
    obtain ⟨-, -, -, -, next, ⟨-, rfl⟩, -, rfl⟩ := hrun
    have hblank : (self.checkpoints self.nextCheckpointId).checkpointId = 0 := by
      rw [hself.blank_next]
      rfl
    let checkpoint : CheckpointRecord :=
      { checkpointId := self.nextCheckpointId, domainId, subjectType := subject.subjectType,
        subjectActor := subject.subjectActor, subjectClaimId := subject.subjectClaimId,
        subjectAgentId := subject.subjectAgentId, subjectModule := subject.subjectModule,
        scoreVectorHash, payloadHash, uri, publishedAt := ctx.timestamp }
    have hnext : checkpoint.checkpointId ≠ 0 := hself.next_pos.ne'
    have hrows : replay [.create self.nextCheckpointId (checkpointRow checkpoint)]
        (rowsOf CheckpointRecord.checkpointId checkpointRow self.checkpoints) =
          some (rowsOf CheckpointRecord.checkpointId checkpointRow
            (self.checkpoints.set self.nextCheckpointId checkpoint)) := run_create hblank hnext
    exact ⟨hself.push rfl, _, rfl, hrows⟩

end ReputationCheckpointRegistry

/-! ### Stretches -/

namespace Indexer

variable {D : Deployment} {c c' : Config World Suspended} {a : Action Message Suspended}
  {w w' : World} {events : List ChainEvent}

theorem records_indexed (hc : (protocol D).Reachable c) :
    c.world.artifactRegistry.Indexed ∧ c.world.reputationCheckpointRegistry.Indexed := by
  refine hc.invariant (I := fun w => w.artifactRegistry.Indexed ∧
    w.reputationCheckpointRegistry.Indexed) ?_ fun {c a w'} _ hI heffect => ?_
  · rintro _ ⟨now, hasRole, -, -, rfl⟩
    exact ⟨.empty, .empty⟩
  · cases World.step_of_effect heffect with
    | artifactRegistry _ hexec => exact ⟨(ArtifactRegistry.replays_of_exec hI.1 hexec).1, hI.2⟩
    | reputationCheckpointRegistry _ hexec =>
      exact ⟨hI.1, (ReputationCheckpointRegistry.replays_of_exec hI.2 hexec).1⟩
    | resume p w => cases p <;> exact hI
    | _ => exact hI

/-- **What a stretch tells of claims and decisions**, as a journal. -/
theorem Emits.journal (h : Emits D c events c') (hc : (protocol D).Reachable c) :
    ClaimRegistry.Journal c.world.claimRegistry events c'.world.claimRegistry := by
  refine h.relation (Q := fun c events c' => ClaimRegistry.Journal c.world.claimRegistry events
    c'.world.claimRegistry) (fun _ => .refl _) .trans (fun {c a c'} hc hfwd => ?_) hc
  have hindexed := (registries_indexed hc).1
  have hstep : ∃ new, c'.world.claimRegistry.logs = c.world.claimRegistry.logs ++ new ∧
      ClaimRegistry.Journal c.world.claimRegistry (new.map .claimRegistry)
        c'.world.claimRegistry := by
    have heffect := World.step_of_effect hfwd.effect
    generalize c.world = w at *
    generalize c'.world = w' at *
    cases heffect with
    | claimRegistry _ hexec => exact ClaimRegistry.journal_of_exec hindexed hexec
    | resume p w => cases p <;> exact ⟨[], (List.append_nil _).symm, .refl _⟩
    | _ => exact ⟨[], (List.append_nil _).symm, .refl _⟩
  obtain ⟨new, hlogs, hjournal⟩ := hstep
  have hclaims := filterMap_emitted_claimRegistry (f := ChainEvent.claimWrite?) hlogs fun e he => by
    unfold ChainEvent.claimWrite? at he
    split at he
    · exact ⟨_, rfl⟩
    · exact ⟨_, rfl⟩
    · exact absurd rfl he
  have hdecisions := filterMap_emitted_claimRegistry (f := ChainEvent.decisionWrite?) hlogs
    fun e he => by
      unfold ChainEvent.decisionWrite? at he
      split at he
      · exact ⟨_, rfl⟩
      · exact absurd rfl he
  have heffective := fun k => filterMap_emitted_claimRegistry (f := ChainEvent.effective? k) hlogs
    fun e he => by
      unfold ChainEvent.effective? at he
      split at he
      · exact ⟨_, rfl⟩
      · exact absurd rfl he
  exact
    { claims := by
        rw [hclaims, ← List.filterMap_map]
        exact hjournal.claims
      decisions := by
        rw [hdecisions, ← List.filterMap_map]
        exact hjournal.decisions
      effective := fun k => by
        rw [heffective k, ← List.filterMap_map]
        exact hjournal.effective k
      decided := fun k d hd => by
        rw [heffective k, ← List.filterMap_map] at hd
        exact hjournal.decided k d hd
      kept := hjournal.kept }

/-- A journal of every step is a journal of the stretch. -/
theorem Emits.replays {ρ : Type} {write : ChainEvent → Option (Write ℕ ρ)}
    (rows : World → Table ℕ ρ)
    (hstep : ∀ {c a c'}, (protocol D).Reachable c → (protocol D).Forward c a c' →
      replay ((emitted c.world c'.world).filterMap write) (rows c.world) = some (rows c'.world))
    (h : Emits D c events c') (hc : (protocol D).Reachable c) :
    replay (events.filterMap write) (rows c.world) = some (rows c'.world) := by
  refine h.relation (Q := fun c events c' =>
    replay (events.filterMap write) (rows c.world) = some (rows c'.world)) (fun _ => rfl)
    (fun h h' => ?_) hstep hc
  rw [List.filterMap_append]
  exact replay_trans h h'

section

variable {ρ : Type} {f : ChainEvent → Option ρ}

/-- What only the replication registry says. -/
theorem filterMap_emitted_replicationRegistry {new : List ReplicationRegistry.Event}
    (hlogs : w'.replicationRegistry.logs = w.replicationRegistry.logs ++ new)
    (hf : ∀ e, f e ≠ none → ∃ event, e = .replicationRegistry event) :
    (emitted w w').filterMap f = (new.map .replicationRegistry).filterMap f := by
  rw [filterMap_emitted, hlogs, List.drop_left, List.filterMap_map]
  simp [eq_none_of_said hf]

/-- What only the artifact registry says. -/
theorem filterMap_emitted_artifactRegistry {new : List ArtifactRegistry.Event}
    (hlogs : w'.artifactRegistry.logs = w.artifactRegistry.logs ++ new)
    (hf : ∀ e, f e ≠ none → ∃ event, e = .artifactRegistry event) :
    (emitted w w').filterMap f = (new.map .artifactRegistry).filterMap f := by
  rw [filterMap_emitted, hlogs, List.drop_left, List.filterMap_map]
  simp [eq_none_of_said hf]

/-- What only the registry of checkpoints says. -/
theorem filterMap_emitted_reputationCheckpointRegistry
    {new : List ReputationCheckpointRegistry.Event}
    (hlogs : w'.reputationCheckpointRegistry.logs = w.reputationCheckpointRegistry.logs ++ new)
    (hf : ∀ e, f e ≠ none → ∃ event, e = .reputationCheckpointRegistry event) :
    (emitted w w').filterMap f = (new.map .reputationCheckpointRegistry).filterMap f := by
  rw [filterMap_emitted, hlogs, List.drop_left, List.filterMap_map]
  simp [eq_none_of_said hf]

end

/-- **What a stretch tells of replications.** -/
theorem Emits.replicationRows (h : Emits D c events c') (hc : (protocol D).Reachable c) :
    replay (events.filterMap ChainEvent.replicationWrite?)
      (rowsOf ReplicationRecord.replicationId replicationRow
        c.world.replicationRegistry.replications) =
    some (rowsOf ReplicationRecord.replicationId replicationRow
      c'.world.replicationRegistry.replications) := by
  refine h.replays (fun w => rowsOf ReplicationRecord.replicationId replicationRow
    w.replicationRegistry.replications) (fun {c a c'} hc hfwd => ?_) hc
  have hnow := now_pos hc
  have hindexed := (registries_indexed hc).2
  have heffect := World.step_of_effect hfwd.effect
  have hstep : ∃ new, c'.world.replicationRegistry.logs =
      c.world.replicationRegistry.logs ++ new ∧
      replay ((new.map ChainEvent.replicationRegistry).filterMap ChainEvent.replicationWrite?)
        (rowsOf ReplicationRecord.replicationId replicationRow
          c.world.replicationRegistry.replications) =
      some (rowsOf ReplicationRecord.replicationId replicationRow
        c'.world.replicationRegistry.replications) := by
    generalize c.world = w at *
    generalize c'.world = w' at *
    cases heffect with
    | replicationRegistry _ hexec => exact ReplicationRegistry.replays_of_exec hindexed hnow hexec
    | resume p w => cases p <;> exact ⟨[], (List.append_nil _).symm, rfl⟩
    | _ => exact ⟨[], (List.append_nil _).symm, rfl⟩
  obtain ⟨new, hlogs, hreplay⟩ := hstep
  rw [filterMap_emitted_replicationRegistry hlogs fun e he => ?_]
  · exact hreplay
  · unfold ChainEvent.replicationWrite? at he
    split at he
    · exact ⟨_, rfl⟩
    · exact ⟨_, rfl⟩
    · exact absurd rfl he

/-- **What a stretch tells of artifacts.** -/
theorem Emits.artifactRows (h : Emits D c events c') (hc : (protocol D).Reachable c) :
    replay (events.filterMap ChainEvent.artifactWrite?)
      (rowsOf ArtifactCommitment.artifactId artifactRow c.world.artifactRegistry.artifacts) =
    some (rowsOf ArtifactCommitment.artifactId artifactRow
      c'.world.artifactRegistry.artifacts) := by
  refine h.replays (fun w => rowsOf ArtifactCommitment.artifactId artifactRow
    w.artifactRegistry.artifacts) (fun {c a c'} hc hfwd => ?_) hc
  have hindexed := (records_indexed hc).1
  have heffect := World.step_of_effect hfwd.effect
  have hstep : ∃ new, c'.world.artifactRegistry.logs = c.world.artifactRegistry.logs ++ new ∧
      replay ((new.map ChainEvent.artifactRegistry).filterMap ChainEvent.artifactWrite?)
        (rowsOf ArtifactCommitment.artifactId artifactRow c.world.artifactRegistry.artifacts) =
      some (rowsOf ArtifactCommitment.artifactId artifactRow
        c'.world.artifactRegistry.artifacts) := by
    generalize c.world = w at *
    generalize c'.world = w' at *
    cases heffect with
    | artifactRegistry _ hexec => exact (ArtifactRegistry.replays_of_exec hindexed hexec).2
    | resume p w => cases p <;> exact ⟨[], (List.append_nil _).symm, rfl⟩
    | _ => exact ⟨[], (List.append_nil _).symm, rfl⟩
  obtain ⟨new, hlogs, hreplay⟩ := hstep
  rw [filterMap_emitted_artifactRegistry hlogs fun e he => ?_]
  · exact hreplay
  · unfold ChainEvent.artifactWrite? at he
    split at he
    · exact ⟨_, rfl⟩
    · exact absurd rfl he

/-- **What a stretch tells of checkpoints.** -/
theorem Emits.checkpointRows (h : Emits D c events c') (hc : (protocol D).Reachable c) :
    replay (events.filterMap ChainEvent.checkpointWrite?)
      (rowsOf CheckpointRecord.checkpointId checkpointRow
        c.world.reputationCheckpointRegistry.checkpoints) =
    some (rowsOf CheckpointRecord.checkpointId checkpointRow
      c'.world.reputationCheckpointRegistry.checkpoints) := by
  refine h.replays (fun w => rowsOf CheckpointRecord.checkpointId checkpointRow
    w.reputationCheckpointRegistry.checkpoints) (fun {c a c'} hc hfwd => ?_) hc
  have hindexed := (records_indexed hc).2
  have heffect := World.step_of_effect hfwd.effect
  have hstep : ∃ new, c'.world.reputationCheckpointRegistry.logs =
      c.world.reputationCheckpointRegistry.logs ++ new ∧
      replay ((new.map ChainEvent.reputationCheckpointRegistry).filterMap
          ChainEvent.checkpointWrite?)
        (rowsOf CheckpointRecord.checkpointId checkpointRow
          c.world.reputationCheckpointRegistry.checkpoints) =
      some (rowsOf CheckpointRecord.checkpointId checkpointRow
        c'.world.reputationCheckpointRegistry.checkpoints) := by
    generalize c.world = w at *
    generalize c'.world = w' at *
    cases heffect with
    | reputationCheckpointRegistry _ hexec =>
      exact (ReputationCheckpointRegistry.replays_of_exec hindexed hexec).2
    | resume p w => cases p <;> exact ⟨[], (List.append_nil _).symm, rfl⟩
    | _ => exact ⟨[], (List.append_nil _).symm, rfl⟩
  obtain ⟨new, hlogs, hreplay⟩ := hstep
  rw [filterMap_emitted_reputationCheckpointRegistry hlogs fun e he => ?_]
  · exact hreplay
  · unfold ChainEvent.checkpointWrite? at he
    split at he
    · exact ⟨_, rfl⟩
    · exact absurd rfl he

end Indexer

end ScientificProtocol
