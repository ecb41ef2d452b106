import ScientificProtocol.Indexer.Progress

/-!
# What a caught-up read model says

The tables of a caught-up read model are those of one chunk with all the logs
(`ScientificProtocol.Indexer.Sync.tables_eq`), and the logs are a journal of the records, so
that **the tables are the records of the contracts**
(`ScientificProtocol.Indexer.Sync.mirrors`): there is a row for each record that exists and
none besides, with its columns; of the decisions of a claim the one is marked that the
registry has as the effective one; and the controllers of an agent are those that the rows
authorize, and its operator if none of them speaks of it. A claim has also the block it was
created in, which the registry does not know.
-/

namespace ScientificProtocol.Indexer

open Evm Sql

/-! ### What the rows are to be -/

/-- A claim, but for the block it is in. -/
def claimColumns (record : ClaimRecord) : ClaimView :=
  { claimRow record with revisionOfClaimId := nullIfZero record.revisionOfClaimId }

/-- A decision, with the mark of the effective one. -/
def decisionColumns (effectiveClaimDecisionId : Mapping ℕ ℕ) (record : ResolutionDecision) :
    ResolutionDecisionView :=
  { decisionRow record with
    createdAt := record.createdAt
    effective := decide (effectiveClaimDecisionId record.claimId = record.decisionId) }

/-- Forgetting the block of a claim. -/
def ClaimView.anyBlock (row : ClaimView) : ClaimView := { row with createdAtBlock := 0 }

/-- **The tables mirror the contracts.** -/
structure Mirrors (L : List EventLog) (w : World) (t : Tables) : Prop where
  claims : t.claims.map ClaimView.anyBlock =
    rowsOf ClaimRecord.claimId claimColumns w.claimRegistry.claims
  createdAtBlock : ∀ k row, t.claims k = some row →
    ∃ log ∈ L, log.event.createdClaimId? = some k ∧ log.blockNumber = row.createdAtBlock
  artifacts : t.artifacts =
    rowsOf ArtifactCommitment.artifactId artifactRow w.artifactRegistry.artifacts
  replications : t.replications =
    rowsOf ReplicationRecord.replicationId replicationRow w.replicationRegistry.replications
  resolutionDecisions : t.resolutionDecisions =
    rowsOf ResolutionDecision.decisionId (decisionColumns w.claimRegistry.effectiveClaimDecisionId)
      w.claimRegistry.decisions
  checkpoints : t.checkpoints =
    rowsOf CheckpointRecord.checkpointId checkpointRow w.reputationCheckpointRegistry.checkpoints
  agents : ∀ k, t.agents k = if (w.agentRegistry.agents k).agentId = 0 then none
    else some (agentSnapshot (.ofWorld w) k)
  controllers : ∀ k controller, w.agentRegistry.controllers k controller =
    ((t.agentControllers (k, controller)).map AgentControllerView.authorized).getD
      ((t.agents k).any fun row => row.operator = controller)

/-! ### Events of one kind -/

/-- What is decoded from the events of one kind is decoded from the logs. -/
theorem filterMap_queryFilter {α : Type} {f : EventFilter} {decode : EventLog → Option α}
    (h : ∀ log a, decode log = some a → log.event.filter? = some f) (L : List EventLog) :
    (queryFilter L f).filterMap decode = L.filterMap decode := by
  rw [queryFilter, List.filterMap_filter]
  refine List.filterMap_congr fun log _ => ?_
  split
  next => rfl
  next hne =>
    cases hdecode : decode log with
    | none => rfl
    | some a => exact absurd (decide_eq_true (h log a hdecode)) hne

variable {L : List EventLog} {log : EventLog}

theorem filter_of_createdClaim {r : Reads} {view : ClaimView} (h : createdClaim r log = some view) :
    log.event.filter? = some .claimCreated := by
  unfold createdClaim at h
  split at h
  next heq =>
    rw [heq]
    rfl
  next => exact absurd h (by simp)

theorem filter_of_claimStatus {s : Patch ℕ ClaimView String} (h : claimStatus log = some s) :
    log.event.filter? = some .claimStatusUpdated := by
  unfold claimStatus at h
  split at h
  next heq =>
    rw [heq]
    rfl
  next => exact absurd h (by simp)

theorem filter_of_artifact {view : ArtifactView} (h : artifactOf log = some view) :
    log.event.filter? = some .artifactAdded := by
  unfold artifactOf at h
  split at h
  next heq =>
    rw [heq]
    rfl
  next => exact absurd h (by simp)

theorem filter_of_checkpoint {view : CheckpointView} (h : checkpointOf log = some view) :
    log.event.filter? = some .reputationCheckpointPublished := by
  unfold checkpointOf at h
  split at h
  next heq =>
    rw [heq]
    rfl
  next => exact absurd h (by simp)

theorem filter_of_submitted {view : ReplicationView} (h : submittedReplication log = some view) :
    log.event.filter? = some .replicationSubmitted := by
  unfold submittedReplication at h
  split at h
  next heq =>
    rw [heq]
    rfl
  next => exact absurd h (by simp)

theorem filter_of_resolution {s : Patch ℕ ReplicationView String}
    (h : replicationResolution log = some s) :
    log.event.filter? = some .replicationResolved := by
  unfold replicationResolution at h
  split at h
  next heq =>
    rw [heq]
    rfl
  next => exact absurd h (by simp)

theorem filter_of_effective {s : Patch ℕ ResolutionDecisionView String}
    (h : effectiveDecision log = some s) :
    log.event.filter? = some .effectiveResolutionDecisionUpdated := by
  obtain ⟨_, _, _, _, heq, -⟩ := eq_effectiveDecision h
  rw [heq]
  rfl

theorem filter_of_controller {view : AgentControllerView} (h : agentControllerOf log = some view) :
    log.event.filter? = some .agentControllerAuthorization := by
  unfold agentControllerOf at h
  split at h
  next heq =>
    rw [heq]
    rfl
  next => exact absurd h (by simp)

/-! ### Tables that are replayed -/

theorem statement_artifact (log : EventLog) : Statement (ε := String) log.event.artifactWrite?
    ((artifactOf log).map insertArtifact) none := by
  rcases log with ⟨block, event⟩
  cases event with
  | artifactRegistry e => cases e with
    | artifactAdded => exact .of_put rfl rfl
  | _ => exact .none

theorem statement_checkpoint (log : EventLog) :
    Statement (ε := String) log.event.checkpointWrite?
      ((checkpointOf log).map insertCheckpoint) none := by
  rcases log with ⟨block, event⟩
  cases event with
  | reputationCheckpointRegistry e => cases e with
    | reputationCheckpointPublished => exact .of_put rfl rfl
  | _ => exact .none

theorem statement_replication (log : EventLog) : Statement log.event.replicationWrite?
    ((submittedReplication log).map upsertReplicationSubmission) (replicationResolution log) := by
  rcases log with ⟨block, event⟩
  cases event with
  | replicationRegistry e => cases e with
    | replicationSubmitted => exact .of_put rfl rfl
    | replicationResolved => exact .patch
  | _ => exact .none

section

variable {D : Deployment} {C : Chain D} {n : ℕ}

theorem artifacts_eq {t : Table ℕ ArtifactView}
    (h : (artifactsBatch (queryFilter (C.logs 0 n))).run .empty = .ok t) :
    t = rowsOf ArtifactCommitment.artifactId artifactRow
      (C.world n).artifactRegistry.artifacts := by
  have hrun := Batch.run_of_replay statement_artifact (C.artifactRows n)
  rw [artifactsBatch, filterMap_queryFilter fun _ _ => filter_of_artifact, List.map_filterMap] at h
  rw [List.filterMap_none] at hrun
  exact Except.ok.inj (h.symm.trans hrun)

theorem checkpoints_eq {t : Table ℕ CheckpointView}
    (h : (checkpointsBatch (queryFilter (C.logs 0 n))).run .empty = .ok t) :
    t = rowsOf CheckpointRecord.checkpointId checkpointRow
      (C.world n).reputationCheckpointRegistry.checkpoints := by
  have hrun := Batch.run_of_replay statement_checkpoint (C.checkpointRows n)
  rw [checkpointsBatch, filterMap_queryFilter fun _ _ => filter_of_checkpoint,
    List.map_filterMap] at h
  rw [List.filterMap_none] at hrun
  exact Except.ok.inj (h.symm.trans hrun)

theorem replications_eq {t : Table ℕ ReplicationView}
    (h : (replicationsBatch (queryFilter (C.logs 0 n))).run .empty = .ok t) :
    t = rowsOf ReplicationRecord.replicationId replicationRow
      (C.world n).replicationRegistry.replications := by
  have hrun := Batch.run_of_replay statement_replication (C.replicationRows n)
  rw [replicationsBatch, filterMap_queryFilter fun _ _ => filter_of_submitted,
    filterMap_queryFilter fun _ _ => filter_of_resolution, List.map_filterMap] at h
  exact Except.ok.inj (h.symm.trans hrun)

end

/-! ### Claims -/

/-- Forgetting what the logs do not tell of a claim. -/
def ClaimView.told (row : ClaimView) : ClaimView :=
  { row with revisionOfClaimId := none, createdAtBlock := 0 }

/-- Reads of claims that have not been moved. -/
def Reads.drafts (r : Reads) : Reads :=
  { r with getClaim := fun k => { r.getClaim k with status := .draft } }

/-- What a log writes of a claim, with all of the columns. -/
def claimWriteAt (r : Reads) (log : EventLog) : Option (Write ℕ ClaimView) :=
  match log.event with
  | .claimRegistry (.claimCreated claimId author domainId metadataHash resolutionModule _) =>
    some (.create claimId
      { claimId, author, domainId, metadataHash, resolutionModule
        status := .draft
        revisionOfClaimId := nullIfZero (r.getClaim claimId).revisionOfClaimId
        createdAtBlock := log.blockNumber })
  | .claimRegistry (.claimStatusUpdated claimId _ newStatus _) =>
    some (.change claimId fun row => { row with status := newStatus })
  | _ => none

theorem statement_claim (r : Reads) (log : EventLog) : Statement (claimWriteAt r log)
    ((createdClaim r.drafts log).map upsertClaim) (claimStatus log) := by
  rcases log with ⟨block, event⟩
  cases event with
  | claimRegistry e => cases e with
    | claimCreated => exact .of_put rfl rfl
    | claimStatusUpdated => exact .patch
    | _ => exact .none
  | _ => exact .none

theorem along_claim (r : Reads) (log : EventLog) :
    Option.Rel (Write.Along ClaimView.told) (claimWriteAt r log) log.event.claimWrite? := by
  rcases log with ⟨block, event⟩
  cases event with
  | claimRegistry e => cases e with
    | claimCreated => exact .some .create
    | claimStatusUpdated => exact .some (.change fun _ => rfl)
    | _ => exact .none
  | _ => exact .none

theorem created_of_claimWriteAt {r : Reads} {k : ℕ} {row : ClaimView}
    (h : claimWriteAt r log = some (.create k row)) : log.event.createdClaimId? = some k ∧
      log.blockNumber = row.createdAtBlock ∧
      row.revisionOfClaimId = nullIfZero (r.getClaim k).revisionOfClaimId := by
  unfold claimWriteAt at h
  split at h
  next heq =>
    obtain ⟨rfl, rfl⟩ := Write.create.inj (Option.some.inj h)
    rw [heq]
    exact ⟨rfl, rfl, rfl⟩
  next => exact absurd (Option.some.inj h) (by simp)
  next => exact absurd h (by simp)

theorem eq_of_claimWriteAt_change {r : Reads} {k : ℕ} {f : ClaimView → ClaimView}
    (h : claimWriteAt r log = some (.change k f)) :
    ∃ newStatus, f = fun row => { row with status := newStatus } := by
  unfold claimWriteAt at h
  split at h
  next => exact absurd (Option.some.inj h) (by simp)
  next => exact ⟨_, (Write.change.inj (Option.some.inj h)).2.symm⟩
  next => exact absurd h (by simp)

theorem moved_of_claimWrite {e : ChainEvent} {k : ℕ} {f : ClaimView → ClaimView}
    (h : e.claimWrite? = some (.change k f)) : e.movedClaimId? = some k := by
  unfold ChainEvent.claimWrite? at h
  split at h
  next => exact absurd (Option.some.inj h) (by simp)
  next => exact congrArg some (Write.change.inj (Option.some.inj h)).1
  next => exact absurd h (by simp)

section

variable {D : Deployment} {C : Chain D} {n : ℕ}

/-- A claim that no log moves is a draft. -/
theorem status_of_not_moved {k : ℕ} (hcreated : ∃ log ∈ C.logs 0 n,
      log.event.createdClaimId? = some k)
    (hmoved : ¬∃ log ∈ C.logs 0 n, log.event.movedClaimId? = some k) :
    ((C.world n).claimRegistry.claims k).status = .draft := by
  obtain ⟨row, hcreate⟩ := Chain.exists_create_claim.mpr hcreated
  have hdraft : row.status = .draft := by
    obtain ⟨log, -, hwrite⟩ := List.mem_filterMap.mp hcreate
    unfold ChainEvent.claimWrite? at hwrite
    split at hwrite
    next => exact (Write.create.inj (Option.some.inj hwrite)).2 ▸ rfl
    next => exact absurd (Option.some.inj hwrite) (by simp)
    next => exact absurd hwrite (by simp)
  obtain ⟨row', hrow, hstatus⟩ := exists_row_of_create
    (P := fun row : ClaimView => row.status = .draft) (C.claimRows n) hcreate hdraft fun f hf => by
      obtain ⟨log, hlog, hwrite⟩ := List.mem_filterMap.mp hf
      exact absurd ⟨log, hlog, moved_of_claimWrite hwrite⟩ hmoved
  rw [rowsOf_apply] at hrow
  split at hrow
  next => exact absurd hrow (by simp)
  next => exact (congrArg ClaimView.status (Option.some.inj hrow)).trans hstatus

/-- The logs are a journal of the claims with all of their columns. -/
theorem exists_replay_claims {t : Table ℕ ClaimView}
    (h : (claimsBatch (.ofWorld (C.world n)) (queryFilter (C.logs 0 n))).run .empty = .ok t) :
    replay ((C.logs 0 n).filterMap (claimWriteAt (.ofWorld (C.world n)))) .empty = some t ∧
      t.map ClaimView.told =
        rowsOf ClaimRecord.claimId claimRow (C.world n).claimRegistry.claims := by
  have halong : List.Forall₂ (Write.Along ClaimView.told)
      ((C.logs 0 n).filterMap (claimWriteAt (.ofWorld (C.world n))))
      ((C.logs 0 n).filterMap fun log => log.event.claimWrite?) :=
    List.rel_filterMap (R := (· = ·))
      (fun {log log'} heq => by
        subst heq
        exact along_claim _ log) (List.forall₂_refl _)
  obtain ⟨t', hreplay, htold⟩ := exists_replay_of_along halong (t := .empty) (C.claimRows n)
  have hrun := Batch.run_of_replay (statement_claim (.ofWorld (C.world n))) hreplay
  -- The getters answer for the status that the journal comes to.
  have hcongr : (claimsBatch (.ofWorld (C.world n)) (queryFilter (C.logs 0 n))).run .empty =
      .ok t' := by
    refine claims_congr (r := (Reads.ofWorld (C.world n)).drafts) (fun log hlog k hid => ?_) ?_
    · refine ⟨rfl, ?_⟩
      by_cases hmoved : ∃ log ∈ C.logs 0 n, log.event.movedClaimId? = some k
      · exact .inr hmoved
      · exact .inl (status_of_not_moved ⟨log, hlog, hid⟩ hmoved).symm
    · rwa [claimsBatch, filterMap_queryFilter fun _ _ => filter_of_createdClaim,
        filterMap_queryFilter fun _ _ => filter_of_claimStatus, List.map_filterMap]
  obtain rfl := Except.ok.inj (h.symm.trans hcongr)
  exact ⟨hreplay, htold⟩

theorem claims_eq {t : Table ℕ ClaimView}
    (h : (claimsBatch (.ofWorld (C.world n)) (queryFilter (C.logs 0 n))).run .empty = .ok t) :
    t.map ClaimView.anyBlock =
      rowsOf ClaimRecord.claimId claimColumns (C.world n).claimRegistry.claims := by
  obtain ⟨hreplay, htold⟩ := exists_replay_claims h
  refine Table.ext fun k => ?_
  have hk := congrArg (fun u : Table ℕ ClaimView => u k) htold
  simp only [Table.map_apply, rowsOf_apply] at hk ⊢
  cases hrow : t k with
  | none =>
    rw [hrow] at hk
    split at hk
    next hzero => rw [if_pos hzero]; rfl
    next => exact absurd hk (by simp)
  | some row =>
    have hrevision := forall_of_replay hreplay
      (P := fun k row => row.revisionOfClaimId =
        nullIfZero ((C.world n).claimRegistry.claims k).revisionOfClaimId)
      (fun k row hcreate => by
        obtain ⟨log, -, hwrite⟩ := List.mem_filterMap.mp hcreate
        exact (created_of_claimWriteAt hwrite).2.2)
      (fun k f hchange row hP => by
        obtain ⟨log, -, hwrite⟩ := List.mem_filterMap.mp hchange
        obtain ⟨_, rfl⟩ := eq_of_claimWriteAt_change hwrite
        exact hP) hrow
    rw [hrow] at hk
    split at hk
    next => exact absurd hk (by simp)
    next hexists =>
      rw [if_neg hexists]
      have hcolumns : row.told = claimRow ((C.world n).claimRegistry.claims k) :=
        Option.some.inj hk
      rw [Option.map_some, claimColumns, ← hcolumns, ← hrevision]
      rfl

theorem createdAtBlock_eq {t : Table ℕ ClaimView}
    (h : (claimsBatch (.ofWorld (C.world n)) (queryFilter (C.logs 0 n))).run .empty = .ok t)
    {k : ℕ} {row : ClaimView} (hrow : t k = some row) :
    ∃ log ∈ C.logs 0 n, log.event.createdClaimId? = some k ∧
      log.blockNumber = row.createdAtBlock := by
  refine forall_of_replay (exists_replay_claims h).1
    (P := fun k row => ∃ log ∈ C.logs 0 n, log.event.createdClaimId? = some k ∧
      log.blockNumber = row.createdAtBlock) (fun k row hcreate => ?_)
    (fun k f hchange row hP => ?_) hrow
  · obtain ⟨log, hlog, hwrite⟩ := List.mem_filterMap.mp hcreate
    obtain ⟨hid, hblock, -⟩ := created_of_claimWriteAt hwrite
    exact ⟨log, hlog, hid, hblock⟩
  · obtain ⟨log, -, hwrite⟩ := List.mem_filterMap.mp hchange
    obtain ⟨_, rfl⟩ := eq_of_claimWriteAt_change hwrite
    exact hP

end

/-! ### Decisions -/

/-- Whether the last word about the effective decision of a claim is for a decision. -/
def lastMark (L : List EventLog) (claimId decisionId : ℕ) : Option Bool :=
  ((L.map EventLog.event).filterMap (ChainEvent.effective? claimId)).getLast?.map fun d =>
    decide (decisionId = d)

theorem lastMark_append (L : List EventLog) (log : EventLog) (claimId decisionId : ℕ) :
    lastMark (L ++ [log]) claimId decisionId = ((log.event.effective? claimId).map fun d =>
      decide (decisionId = d)).or (lastMark L claimId decisionId) := by
  rw [lastMark, List.map_append, List.filterMap_append, List.getLast?_append, List.map_singleton]
  cases heffective : log.event.effective? claimId with
  | none =>
    rw [List.filterMap_cons_none heffective]
    rfl
  | some d =>
    rw [List.filterMap_cons_some heffective]
    rfl

/-- **The marks of a claim, one after the other**: the last one counts. -/
theorem apply_effectiveDecision (L : List EventLog) (k : ℕ) (row : ResolutionDecisionView) :
    Patch.apply k (L.filterMap effectiveDecision) row =
      { row with effective := (lastMark L row.claimId k).getD row.effective } := by
  induction L using List.reverseRecOn with
  | nil => rfl
  | append_singleton L log ih =>
    rw [List.filterMap_append, Patch.apply_append, ih, lastMark_append]
    have hother : effectiveDecision log = none → log.event.effective? row.claimId = none →
        Patch.apply k ([log].filterMap effectiveDecision)
            { row with effective := (lastMark L row.claimId k).getD row.effective } =
          { row with effective := (((log.event.effective? row.claimId).map fun d =>
            decide (k = d)).or (lastMark L row.claimId k)).getD row.effective } := by
      intro hdecision heffective
      rw [List.filterMap_cons_none hdecision, heffective]
      rfl
    rcases log with ⟨block, event⟩
    cases event with
    | claimRegistry e => cases e with
      | effectiveResolutionDecisionUpdated claimId decisionId status actor =>
        by_cases hclaim : claimId = row.claimId
        · by_cases hk : k = decisionId <;>
            simp [effectiveDecision, Patch.apply, markEffectiveResolutionDecision,
              ChainEvent.effective?, hclaim, hk]
        · simp [effectiveDecision, Patch.apply, markEffectiveResolutionDecision,
            ChainEvent.effective?, hclaim, Ne.symm hclaim]
      | _ => exact hother rfl rfl
    | _ => exact hother rfl rfl

section

variable {D : Deployment} {C : Chain D} {n : ℕ}

/-- The row a log makes of a decision, with all of its columns. -/
theorem eq_of_recorded {view : ResolutionDecisionView} (hlog : log ∈ C.logs 0 n)
    (h : resolutionDecisionOf (.ofWorld (C.world n)) log = some view) :
    view = { decisionRow ((C.world n).claimRegistry.decisions view.decisionId) with
      createdAt := ((C.world n).claimRegistry.decisions view.decisionId).createdAt } ∧
      log.event.decisionId? = some view.decisionId := by
  unfold resolutionDecisionOf at h
  split at h
  next decisionId claimId replicationId resolutionModule status claimStatus confidenceBps
      resolutionHash evidenceHash resolverType actor heq =>
    obtain rfl := Option.some.inj h
    have hrow := Chain.recorded hlog (show log.event.decisionWrite? = some (.create decisionId _)
      by rw [heq]; rfl)
    refine ⟨?_, by rw [heq]; rfl⟩
    rw [← hrow]
    rfl
  next => exact absurd h (by simp)

theorem resolutionDecisions_eq {t : Table ℕ ResolutionDecisionView}
    (h : (resolutionDecisionsBatch (.ofWorld (C.world n)) (queryFilter (C.logs 0 n))).run .empty =
      .ok t) :
    t = rowsOf ResolutionDecision.decisionId
      (decisionColumns (C.world n).claimRegistry.effectiveClaimDecisionId)
      (C.world n).claimRegistry.decisions := by
  refine Table.ext fun k => ?_
  set record := (C.world n).claimRegistry.decisions k with hrecord
  have hputs : ∀ row, Put.apply k (resolutionDecisionsBatch (.ofWorld (C.world n))
      (queryFilter (C.logs 0 n))).puts none = some row →
        row = { decisionRow record with createdAt := record.createdAt } ∧
          record.decisionId = k := by
    intro row hrow
    refine Put.forall_apply (P := fun row =>
      row = { decisionRow record with createdAt := record.createdAt } ∧ record.decisionId = k)
      (fun s hs hkey row hP => ?_) (fun r hr => absurd hr (by simp)) hrow
    cases row with
    | some row =>
      obtain ⟨view, -, rfl⟩ := List.mem_map.mp hs
      exact hP row rfl
    | none =>
      obtain ⟨view, hview, rfl⟩ := List.mem_map.mp hs
      obtain ⟨log, hlog, hdecode⟩ := List.mem_filterMap.mp hview
      obtain ⟨heq, -⟩ := eq_of_recorded (mem_queryFilter.mp hlog).1 hdecode
      have hkey : view.decisionId = k := hkey
      rw [hkey, ← hrecord] at heq
      have hid : record.decisionId = k := by
        rw [← hkey, heq]
        rfl
      refine ⟨?_, hid⟩
      show { view with effective := false } = _
      rw [heq]
      rfl
  rw [((Batch.run_eq_ok steady_effectiveDecision).mp h).2 k, Table.empty_apply, rowsOf_apply,
    ← hrecord]
  by_cases hexists : record.decisionId = 0
  · rw [if_pos hexists]
    refine Option.map_eq_none_iff.mpr (Option.eq_none_iff_forall_ne_some.mpr fun row hrow => ?_)
    obtain ⟨s, hs, hkey⟩ := Put.exists_of_apply_none hrow
    obtain ⟨view, hview, rfl⟩ := List.mem_map.mp hs
    obtain ⟨log, hlog, hdecode⟩ := List.mem_filterMap.mp hview
    have hkey : view.decisionId = k := hkey
    have hid := (eq_of_recorded (mem_queryFilter.mp hlog).1 hdecode).2
    exact Chain.decision_exists.mpr ⟨log, (mem_queryFilter.mp hlog).1, hkey ▸ hid⟩ hexists
  · rw [if_neg hexists]
    obtain ⟨row, hcreate⟩ := Chain.exists_create_decision.mpr (Chain.decision_exists.mp hexists)
    obtain ⟨log, hlog, hwrite⟩ := List.mem_filterMap.mp hcreate
    obtain ⟨p, hp, hkey⟩ := exists_put_decision (r := .ofWorld (C.world n)) hlog hwrite
    obtain ⟨row, hrow⟩ := Option.isSome_iff_exists.mp (Put.isSome_apply_of_mem hp none)
    rw [hkey] at hrow
    obtain ⟨rfl, hid⟩ := hputs row hrow
    have heffective := (C.journal n).effective record.claimId
    have hblank : (C.world 0).claimRegistry.effectiveClaimDecisionId record.claimId = 0 := by
      obtain ⟨now, hasRole, -, -, hdeployed⟩ := C.deployed
      rw [hdeployed]
      rfl
    rw [hrow, Option.map_some, resolutionDecisionsBatch,
      filterMap_queryFilter fun _ _ => filter_of_effective, apply_effectiveDecision]
    refine congrArg some (congrArg (fun e => { decisionRow record with
      createdAt := record.createdAt, effective := e }) ?_)
    show (lastMark (C.logs 0 n) record.claimId k).getD false = decide (_ = record.decisionId)
    rw [heffective, hblank, hid, lastMark]
    cases (((C.logs 0 n).map EventLog.event).filterMap
      (ChainEvent.effective? record.claimId)).getLast? with
    | none => exact (decide_eq_false (hid ▸ Ne.symm hexists)).symm
    | some d => exact decide_eq_decide.mpr eq_comm

end

/-! ### Agents -/

section

variable {D : Deployment} {C : Chain D} {n : ℕ}

/-- An agent that no log touches is not registered. -/
theorem touched_of_agent {k : ℕ} (h : ((C.world n).agentRegistry.agents k).agentId ≠ 0) :
    ∃ log ∈ C.logs 0 n, log.event.agentId? = some k := by
  by_contra hnone
  have hagents := ((C.emits (Nat.zero_le n)).agents (C.reachable 0)).agents
  have hsame := Chain.eq_of_tells (k := k) hagents List.not_mem_nil
    fun log hlog hid => hnone ⟨log, hlog, hid⟩
  obtain ⟨now, hasRole, -, -, hdeployed⟩ := C.deployed
  rw [hsame, hdeployed] at h
  exact h rfl

theorem agents_eq {t : Table ℕ AgentView}
    (h : (agentsBatch (.ofWorld (C.world n)) (queryFilter (C.logs 0 n))).run .empty = .ok t)
    (k : ℕ) : t k = if ((C.world n).agentRegistry.agents k).agentId = 0 then none
      else some (agentSnapshot (.ofWorld (C.world n)) k) := by
  have hput := @Put.apply_map_keys ℕ AgentView _ (touchedAgentIds (queryFilter (C.logs 0 n)))
    (touchedIds_nodup _) (fun k (row : Option AgentView) =>
      (row.map fun _ => agentSnapshot (.ofWorld (C.world n)) k).getD
        (agentSnapshot (.ofWorld (C.world n)) k)) k none
  have hrow := ((Batch.run_eq_ok Patch.ByKey.nil.steady).mp h).2 k
  refine hrow.trans ((congrArg (Option.map _) hput).trans ?_)
  by_cases hexists : ((C.world n).agentRegistry.agents k).agentId = 0
  · have hnot : k ∉ touchedAgentIds (queryFilter (C.logs 0 n)) := fun htouched =>
      Chain.agent_exists le_rfl (mem_touchedAgentIds.mp htouched) hexists
    rw [if_pos hexists, if_neg hnot]
    rfl
  · rw [if_neg hexists, if_pos (mem_touchedAgentIds.mpr (touched_of_agent hexists))]
    rfl

/-- **The statements about a controller, one after the other**: the last one counts. -/
theorem apply_agentController (L : List EventLog) (k : ℕ) (controller : Address) :
    (Put.apply (k, controller) ((L.filterMap agentControllerOf).map upsertAgentController)
      none).map AgentControllerView.authorized =
        lastAuthorization (L.map EventLog.event) k controller := by
  induction L using List.reverseRecOn with
  | nil => rfl
  | append_singleton L log ih =>
    rw [List.filterMap_append, List.map_append, Put.apply_append, List.map_append,
      lastAuthorization_append]
    have hother : agentControllerOf log = none →
        log.event.authorizes? k controller = none →
        (Put.apply (k, controller) (([log].filterMap agentControllerOf).map upsertAgentController)
          (Put.apply (k, controller) ((L.filterMap agentControllerOf).map upsertAgentController)
            none)).map AgentControllerView.authorized =
          (lastAuthorization ([log].map EventLog.event) k controller).or
            (lastAuthorization (L.map EventLog.event) k controller) := by
      intro hcontroller hauthorizes
      rw [List.filterMap_cons_none hcontroller, lastAuthorization, List.map_singleton,
        List.filterMap_cons_none hauthorizes]
      exact ih
    rcases log with ⟨block, event⟩
    cases event with
    | agentRegistry e => cases e with
      | agentControllerAuthorization agentId controller' authorized =>
        rw [List.map_singleton, lastAuthorization_singleton, ← ih]
        by_cases hkey : (agentId, controller') = (k, controller)
        · obtain ⟨rfl, rfl⟩ := Prod.mk.inj hkey
          cases Put.apply (agentId, controller') ((L.filterMap agentControllerOf).map
            upsertAgentController) none <;>
          simp [agentControllerOf, Put.apply, upsertAgentController, Put.upsert]
        · have hne : ¬(agentId = k ∧ controller' = controller) := fun h =>
            hkey (Prod.ext h.1 h.2)
          simp [agentControllerOf, Put.apply, upsertAgentController, Put.upsert, hne]
      | _ => exact hother rfl rfl
    | _ => exact hother rfl rfl

theorem agentControllers_eq {t : Table (ℕ × Address) AgentControllerView}
    (h : (agentControllersBatch (queryFilter (C.logs 0 n))).run .empty = .ok t) (k : ℕ)
    (controller : Address) : (t (k, controller)).map AgentControllerView.authorized =
      lastAuthorization ((C.logs 0 n).map EventLog.event) k controller := by
  rw [((Batch.run_eq_ok Patch.ByKey.nil.steady).mp h).2 (k, controller), Table.empty_apply,
    agentControllersBatch, filterMap_queryFilter fun _ _ => filter_of_controller,
    ← apply_agentController, Option.map_map]
  rfl

end

/-! ### The read model -/

/-- **A caught-up read model is the state of the contracts.** -/
theorem Sync.mirrors {D : Deployment} {C : Chain D} {s : Sync} (h : Sync.Reachable C s)
    (hquiet : C.logs s.cursor s.head = []) :
    Mirrors (C.logs 0 s.cursor) (C.world s.cursor) s.tables := by
  obtain ⟨h₁, h₂, h₃, h₄, h₅, h₆, h₇, -⟩ := applyChunk_eq_ok.mp (applyChunk_caught_up h hquiet)
  have hagents := agents_eq h₆
  exact
    { claims := claims_eq h₁
      createdAtBlock := fun k row => createdAtBlock_eq h₁
      artifacts := artifacts_eq h₂
      replications := replications_eq h₃
      resolutionDecisions := resolutionDecisions_eq h₄
      checkpoints := checkpoints_eq h₅
      agents := hagents
      controllers := fun k controller => by
        rw [Emits.controllers C.deployed (C.emits (Nat.zero_le s.cursor)) k controller,
          agentControllers_eq h₇, hagents k]
        refine congrArg _ ?_
        split
        next hzero => exact decide_eq_false fun h => h.1 hzero
        next hexists => exact decide_eq_decide.mpr ⟨fun h => h.2.symm, fun h => ⟨hexists, h.symm⟩⟩ }

/-- The read model of the two blocks is the state they come to. -/
theorem Sync.mirrors_devnet :
    Mirrors (devnetChain.logs 0 2) resolved.world Sync.resolvedTables :=
  Sync.mirrors Sync.reachable_resolved (Chain.logs_self 2)

end ScientificProtocol.Indexer
