import ScientificProtocol.Indexer.Records
import ScientificProtocol.Indexer.Sync

/-!
# Every row a log changes is there

A chunk fails if a getter reverts, or if a log changes a row that is not there. **No chain of
the protocol brings it there**: whatever the sizes of the chunks and however far the chain has
gone on, the getters answer (`ScientificProtocol.Indexer.Chain.read_ok`), and the statements
find their rows (`ScientificProtocol.Indexer.exists_applyChunk`). A record that a log names was
created by a log of the same chunk or of an earlier one, which is what the contracts promise
(`ScientificProtocol.Indexer.Chain.claimRows` and its siblings), and a record that exists goes
on existing.
-/

namespace ScientificProtocol.Indexer

open Evm Sql

namespace Chain

variable {D : Deployment} (C : Chain D) (n : ℕ)

/-! ### The journals of a chain -/

theorem journal : ClaimRegistry.Journal (C.world 0).claimRegistry
    ((C.logs 0 n).map EventLog.event) (C.world n).claimRegistry :=
  (C.emits (Nat.zero_le n)).journal (C.reachable 0)

/-- The logs up to a block are the claims after it. -/
theorem claimRows : replay ((C.logs 0 n).filterMap fun log => log.event.claimWrite?) .empty =
    some (rowsOf ClaimRecord.claimId claimRow (C.world n).claimRegistry.claims) := by
  have hreplay := (C.journal n).claims
  have hempty : rowsOf ClaimRecord.claimId claimRow (C.world 0).claimRegistry.claims = .empty := by
    obtain ⟨now, hasRole, -, -, hdeployed⟩ := C.deployed
    rw [hdeployed]
    exact rowsOf_default rfl
  rw [hempty, List.filterMap_map] at hreplay
  exact hreplay

/-- The logs up to a block are the decisions after it. -/
theorem decisionRows :
    replay ((C.logs 0 n).filterMap fun log => log.event.decisionWrite?) .empty =
      some (rowsOf ResolutionDecision.decisionId decisionRow
        (C.world n).claimRegistry.decisions) := by
  have hreplay := (C.journal n).decisions
  have hempty : rowsOf ResolutionDecision.decisionId decisionRow
      (C.world 0).claimRegistry.decisions = .empty := by
    obtain ⟨now, hasRole, -, -, hdeployed⟩ := C.deployed
    rw [hdeployed]
    exact rowsOf_default rfl
  rw [hempty, List.filterMap_map] at hreplay
  exact hreplay

/-- The logs up to a block are the replications after it. -/
theorem replicationRows :
    replay ((C.logs 0 n).filterMap fun log => log.event.replicationWrite?) .empty =
      some (rowsOf ReplicationRecord.replicationId replicationRow
        (C.world n).replicationRegistry.replications) := by
  have hreplay := (C.emits (Nat.zero_le n)).replicationRows (C.reachable 0)
  have hempty : rowsOf ReplicationRecord.replicationId replicationRow
      (C.world 0).replicationRegistry.replications = .empty := by
    obtain ⟨now, hasRole, -, -, hdeployed⟩ := C.deployed
    rw [hdeployed]
    exact rowsOf_default rfl
  rw [hempty, List.filterMap_map] at hreplay
  exact hreplay

/-- The logs up to a block are the artifacts after it. -/
theorem artifactRows :
    replay ((C.logs 0 n).filterMap fun log => log.event.artifactWrite?) .empty =
      some (rowsOf ArtifactCommitment.artifactId artifactRow
        (C.world n).artifactRegistry.artifacts) := by
  have hreplay := (C.emits (Nat.zero_le n)).artifactRows (C.reachable 0)
  have hempty : rowsOf ArtifactCommitment.artifactId artifactRow
      (C.world 0).artifactRegistry.artifacts = .empty := by
    obtain ⟨now, hasRole, -, -, hdeployed⟩ := C.deployed
    rw [hdeployed]
    exact rowsOf_default rfl
  rw [hempty, List.filterMap_map] at hreplay
  exact hreplay

/-- The logs up to a block are the checkpoints after it. -/
theorem checkpointRows :
    replay ((C.logs 0 n).filterMap fun log => log.event.checkpointWrite?) .empty =
      some (rowsOf CheckpointRecord.checkpointId checkpointRow
        (C.world n).reputationCheckpointRegistry.checkpoints) := by
  have hreplay := (C.emits (Nat.zero_le n)).checkpointRows (C.reachable 0)
  have hempty : rowsOf CheckpointRecord.checkpointId checkpointRow
      (C.world 0).reputationCheckpointRegistry.checkpoints = .empty := by
    obtain ⟨now, hasRole, -, -, hdeployed⟩ := C.deployed
    rw [hdeployed]
    exact rowsOf_default rfl
  rw [hempty, List.filterMap_map] at hreplay
  exact hreplay

variable {C n} {k : ℕ}

/-! ### What is told of exists -/

/-- A claim is created where a log creates it. -/
theorem exists_create_claim {L : List EventLog} :
    (∃ row, Write.create k row ∈ L.filterMap fun log => log.event.claimWrite?) ↔
      ∃ log ∈ L, log.event.createdClaimId? = some k := by
  simp only [List.mem_filterMap]
  constructor
  · rintro ⟨row, log, hlog, hwrite⟩
    refine ⟨log, hlog, ?_⟩
    unfold ChainEvent.claimWrite? at hwrite
    split at hwrite
    next heq =>
      obtain ⟨rfl, -⟩ := Write.create.inj (Option.some.inj hwrite)
      rw [heq]
      rfl
    next => exact absurd (Option.some.inj hwrite) (by simp)
    next => exact absurd hwrite (by simp)
  · rintro ⟨log, hlog, hid⟩
    unfold ChainEvent.createdClaimId? at hid
    split at hid
    next heq =>
      obtain rfl := Option.some.inj hid
      exact ⟨_, log, hlog, by rw [heq]; rfl⟩
    next => exact absurd hid (by simp)

/-- A decision is made where a log records it. -/
theorem exists_create_decision {L : List EventLog} :
    (∃ row, Write.create k row ∈ L.filterMap fun log => log.event.decisionWrite?) ↔
      ∃ log ∈ L, log.event.decisionId? = some k := by
  simp only [List.mem_filterMap]
  constructor
  · rintro ⟨row, log, hlog, hwrite⟩
    refine ⟨log, hlog, ?_⟩
    unfold ChainEvent.decisionWrite? at hwrite
    split at hwrite
    next heq =>
      obtain ⟨rfl, -⟩ := Write.create.inj (Option.some.inj hwrite)
      rw [heq]
      rfl
    next => exact absurd hwrite (by simp)
  · rintro ⟨log, hlog, hid⟩
    unfold ChainEvent.decisionId? at hid
    split at hid
    next heq =>
      obtain rfl := Option.some.inj hid
      exact ⟨_, log, hlog, by rw [heq]; rfl⟩
    next => exact absurd hid (by simp)

theorem isSome_rowsOf {V ρ : Type} [Inhabited V] {idOf : V → ℕ} {view : V → ρ}
    {m : Mapping ℕ V} : (rowsOf idOf view m k).isSome = true ↔ idOf (m k) ≠ 0 := by
  rw [rowsOf_apply]
  split <;> simp [*]

/-- **A claim exists exactly if a log has created it.** -/
theorem claim_exists : ((C.world n).claimRegistry.claims k).claimId ≠ 0 ↔
    ∃ log ∈ C.logs 0 n, log.event.createdClaimId? = some k := by
  rw [← exists_create_claim, ← isSome_replay (C.claimRows n), isSome_rowsOf]

/-- **A decision exists exactly if a log has recorded it.** -/
theorem decision_exists : ((C.world n).claimRegistry.decisions k).decisionId ≠ 0 ↔
    ∃ log ∈ C.logs 0 n, log.event.decisionId? = some k := by
  rw [← exists_create_decision, ← isSome_replay (C.decisionRows n), isSome_rowsOf]

/-- A log of an agent is about one that is registered, from then on. -/
theorem agent_exists {m : ℕ} (hmn : m ≤ n)
    (h : ∃ log ∈ C.logs 0 m, log.event.agentId? = some k) :
    ((C.world n).agentRegistry.agents k).agentId ≠ 0 := by
  have htold := (C.emits (Nat.zero_le n)).agents (C.reachable 0)
  obtain ⟨log, hlog, hid⟩ := h
  refine htold.registered k ?_
  rw [List.filterMap_map]
  refine List.mem_filterMap.mpr ⟨log, ?_, hid⟩
  rw [← logs_append (Nat.zero_le m) hmn]
  exact List.mem_append_left _ hlog

/-! ### The getters answer -/

/-- **A getter that a log asks for answers**, from the block of the log on. -/
theorem read_ok {m : ℕ} {g : Getter} (hmn : m ≤ n) (h : ∃ log ∈ C.logs 0 m, log.event.asks g)
    (r : Reads) : ∃ r', g.read (C.world n) r = .ok r' := by
  have hmem : ∃ log ∈ C.logs 0 n, log.event.asks g := by
    obtain ⟨log, hlog, hasks⟩ := h
    refine ⟨log, ?_, hasks⟩
    rw [← logs_append (Nat.zero_le m) hmn]
    exact List.mem_append_left _ hlog
  refine ⟨r.note (C.world n) g, ?_⟩
  cases g with
  | getClaim k =>
    have hexists : ((C.world n).claimRegistry.claims k).claimId ≠ 0 := claim_exists.mpr hmem
    simp only [Getter.read, ClaimRegistry.getClaim, ClaimRegistry.requireExistingClaim]
    rw [revertIf_of_not hexists]
    rfl
  | getResolutionDecision k =>
    have hexists : ((C.world n).claimRegistry.decisions k).decisionId ≠ 0 :=
      decision_exists.mpr hmem
    simp only [Getter.read, ClaimRegistry.getResolutionDecision]
    rw [revertIf_of_not hexists]
    rfl
  | getAgent k =>
    have hexists : ((C.world n).agentRegistry.agents k).agentId ≠ 0 := agent_exists hmn h
    simp only [Getter.read, AgentRegistry.getAgent, AgentRegistry.requireExistingAgent]
    rw [revertIf_of_not hexists]
    rfl
  | _ => rfl

/-- A claim whose status is moved was created. -/
theorem exists_created (h : ∃ log ∈ C.logs 0 n, log.event.movedClaimId? = some k) :
    ∃ log ∈ C.logs 0 n, log.event.createdClaimId? = some k := by
  obtain ⟨log, hlog, hid⟩ := h
  unfold ChainEvent.movedClaimId? at hid
  split at hid
  next claimId _ _ _ heq =>
    obtain rfl := Option.some.inj hid
    obtain ⟨f, hwrite⟩ : ∃ f, log.event.claimWrite? = some (.change claimId f) := by
      rw [heq]
      exact ⟨_, rfl⟩
    exact exists_create_claim.mp
      (exists_create_of_change (C.claimRows n) (List.mem_filterMap.mpr ⟨log, hlog, hwrite⟩))
  next => exact absurd hid (by simp)

/-- A replication is submitted where a log says so. -/
theorem exists_create_replication {L : List EventLog} {row : ReplicationView}
    (h : Write.create k row ∈ L.filterMap fun log => log.event.replicationWrite?) :
    ∃ log ∈ queryFilter L .replicationSubmitted, ∃ view : ReplicationView,
      submittedReplication log = some view ∧ view.replicationId = k := by
  obtain ⟨log, hlog, hwrite⟩ := List.mem_filterMap.mp h
  unfold ChainEvent.replicationWrite? at hwrite
  split at hwrite
  next heq =>
    obtain ⟨rfl, -⟩ := Write.create.inj (Option.some.inj hwrite)
    refine ⟨log, mem_queryFilter.mpr ⟨hlog, by rw [heq]; rfl⟩, ?_⟩
    rw [submittedReplication, heq]
    exact ⟨_, rfl, rfl⟩
  next => exact absurd (Option.some.inj hwrite) (by simp)
  next => exact absurd hwrite (by simp)

/-- A replication that is resolved was submitted. -/
theorem exists_submitted {log : EventLog} {s : Patch ℕ ReplicationView String}
    (hlog : log ∈ C.logs 0 n) (hs : replicationResolution log = some s) :
    ∃ row, Write.create s.key row ∈
      (C.logs 0 n).filterMap fun log => log.event.replicationWrite? := by
  unfold replicationResolution at hs
  split at hs
  next replicationId _ _ _ _ _ _ _ _ heq =>
    obtain rfl := Option.some.inj hs
    obtain ⟨f, hwrite⟩ : ∃ f, log.event.replicationWrite? = some (.change replicationId f) := by
      rw [heq]
      exact ⟨_, rfl⟩
    exact exists_create_of_change (C.replicationRows n)
      (List.mem_filterMap.mpr ⟨log, hlog, hwrite⟩)
  next => exact absurd hs (by simp)

/-- A decision that takes effect is one of its claim that was recorded. -/
theorem exists_decided {log : EventLog} {claimId decisionId : ℕ} {status : ClaimStatus}
    {actor : Address} (hlog : log ∈ C.logs 0 n)
    (heq : log.event = .claimRegistry
      (.effectiveResolutionDecisionUpdated claimId decisionId status actor)) :
    ∃ log ∈ C.logs 0 n, ∃ row : ResolutionDecisionView, row.claimId = claimId ∧
      log.event.decisionWrite? = some (.create decisionId row) := by
  have hmem : decisionId ∈ ((C.logs 0 n).map EventLog.event).filterMap
      (ChainEvent.effective? claimId) := by
    rw [List.filterMap_map]
    exact List.mem_filterMap.mpr ⟨log, hlog, by rw [Function.comp_apply, heq]; exact if_pos rfl⟩
  obtain ⟨hexists, hclaim⟩ := (C.journal n).decided claimId decisionId hmem
  -- The row the journal has made is the one the log has created.
  have hrow : rowsOf ResolutionDecision.decisionId decisionRow
      (C.world n).claimRegistry.decisions decisionId =
        some (decisionRow ((C.world n).claimRegistry.decisions decisionId)) := if_neg hexists
  have hwritten := forall_of_replay (C.decisionRows n)
    (P := fun k row => Write.create k row ∈
      (C.logs 0 n).filterMap fun log => log.event.decisionWrite?)
    (fun _ _ h => h) (fun k f h row _ => by
      obtain ⟨log, -, hwrite⟩ := List.mem_filterMap.mp h
      unfold ChainEvent.decisionWrite? at hwrite
      split at hwrite
      · exact absurd (Option.some.inj hwrite) (by simp)
      · exact absurd hwrite (by simp)) hrow
  obtain ⟨log', hlog', hwrite⟩ := List.mem_filterMap.mp hwritten
  exact ⟨log', hlog', _, hclaim, hwrite⟩

/-- The row a log makes of a decision is the decision. -/
theorem recorded {log : EventLog} {row : ResolutionDecisionView} (hlog : log ∈ C.logs 0 n)
    (hwrite : log.event.decisionWrite? = some (.create k row)) :
    row = decisionRow ((C.world n).claimRegistry.decisions k) := by
  obtain ⟨row', hrow, heq⟩ := exists_row_of_create (P := (· = row)) (C.decisionRows n)
    (List.mem_filterMap.mpr ⟨log, hlog, hwrite⟩) rfl fun f hchange => by
      obtain ⟨log', -, hwrite'⟩ := List.mem_filterMap.mp hchange
      unfold ChainEvent.decisionWrite? at hwrite'
      split at hwrite'
      · exact absurd (Option.some.inj hwrite') (by simp)
      · exact absurd hwrite' (by simp)
  rw [rowsOf_apply] at hrow
  split at hrow
  · exact absurd hrow (by simp)
  · exact heq.symm.trans (Option.some.inj hrow).symm

/-- A row of a decision is one of the claim of the decision. -/
theorem claimId_of_recorded {r : Reads} {log : EventLog} {view : ResolutionDecisionView}
    (hlog : log ∈ C.logs 0 n) (h : resolutionDecisionOf r log = some view) :
    view.claimId = ((C.world n).claimRegistry.decisions view.decisionId).claimId := by
  unfold resolutionDecisionOf at h
  split at h
  next decisionId claimId _ _ _ _ _ _ _ _ _ heq =>
    obtain rfl := Option.some.inj h
    obtain ⟨row, hclaim, hwrite⟩ : ∃ row : ResolutionDecisionView, row.claimId = claimId ∧
        log.event.decisionWrite? = some (.create decisionId row) := by
      rw [heq]
      exact ⟨_, rfl, rfl⟩
    exact hclaim.symm.trans (congrArg ResolutionDecisionView.claimId (recorded hlog hwrite))
  next => exact absurd h (by simp)

end Chain

/-! ### The rows are there -/

section

variable {D : Deployment} {C : Chain D} {m n : ℕ} {r₁ : Reads} (r₂ : Reads)

theorem logs_left (hle : m ≤ n) {log : EventLog} (h : log ∈ C.logs 0 m) : log ∈ C.logs 0 n :=
  C.logs_append (Nat.zero_le m) hle ▸ List.mem_append_left _ h

theorem logs_right (hle : m ≤ n) {log : EventLog} (h : log ∈ C.logs m n) : log ∈ C.logs 0 n :=
  Chain.mem_logs_of_mem h (Nat.zero_le m) hle

theorem exists_put_claim {L : List EventLog} {r : Reads} {k : ℕ}
    (h : ∃ log ∈ L, log.event.createdClaimId? = some k) :
    ∃ p ∈ (claimsBatch r (queryFilter L)).puts, p.key = k := by
  obtain ⟨log, hlog, hid⟩ := h
  unfold ChainEvent.createdClaimId? at hid
  split at hid
  next claimId _ _ _ _ _ heq =>
    obtain rfl := Option.some.inj hid
    have hview : ∃ view : ClaimView, createdClaim r log = some view ∧ view.claimId = claimId := by
      rw [createdClaim, heq]
      exact ⟨_, rfl, rfl⟩
    obtain ⟨view, hview, hkey⟩ := hview
    refine ⟨upsertClaim view, List.mem_map_of_mem (List.mem_filterMap.mpr ⟨log, ?_, hview⟩), hkey⟩
    exact mem_queryFilter.mpr ⟨hlog, by rw [heq]; rfl⟩
  next => exact absurd hid (by simp)

theorem exists_run_claims {t : Table ℕ ClaimView} (hle : m ≤ n)
    (h : (claimsBatch r₁ (queryFilter (C.logs 0 m))).run .empty = .ok t) :
    ∃ t', (claimsBatch r₂ (queryFilter (C.logs m n))).run t = .ok t' := by
  refine Batch.exists_run byKey_claimStatus.steady byKey_claimStatus h fun s hs => ?_
  obtain ⟨log, hlog, hdecode⟩ := List.mem_filterMap.mp hs
  have hmoved : log.event.movedClaimId? = some s.key := by
    unfold claimStatus at hdecode
    split at hdecode
    next heq =>
      obtain rfl := Option.some.inj hdecode
      rw [heq]
      rfl
    next => exact absurd hdecode (by simp)
  have hcreated := Chain.exists_created
    ⟨log, logs_right hle (mem_queryFilter.mp hlog).1, hmoved⟩
  rw [← Chain.logs_append (Nat.zero_le m) hle] at hcreated
  exact (exists_or_append.mp hcreated).imp exists_put_claim exists_put_claim

theorem byKey_replicationResolution {L : List EventLog} :
    Patch.ByKey (L.filterMap replicationResolution) :=
  .filterMap (fun log s hs => by
    unfold replicationResolution at hs
    split at hs
    next => exact Option.some.inj hs ▸ ⟨_, _, rfl⟩
    next => exact absurd hs (by simp)) L

theorem exists_put_replication {L : List EventLog} {k : ℕ} {row : ReplicationView}
    (h : Write.create k row ∈ L.filterMap fun log => log.event.replicationWrite?) :
    ∃ p ∈ (replicationsBatch (queryFilter L)).puts, p.key = k := by
  obtain ⟨log, hlog, view, hview, hkey⟩ := Chain.exists_create_replication h
  exact ⟨upsertReplicationSubmission view,
    List.mem_map_of_mem (List.mem_filterMap.mpr ⟨log, hlog, hview⟩), hkey⟩

theorem exists_run_replications {t : Table ℕ ReplicationView} (hle : m ≤ n)
    (h : (replicationsBatch (queryFilter (C.logs 0 m))).run .empty = .ok t) :
    ∃ t', (replicationsBatch (queryFilter (C.logs m n))).run t = .ok t' := by
  refine Batch.exists_run byKey_replicationResolution.steady byKey_replicationResolution h
    fun s hs => ?_
  obtain ⟨log, hlog, hdecode⟩ := List.mem_filterMap.mp hs
  obtain ⟨row, hcreate⟩ := Chain.exists_submitted
    (logs_right hle (mem_queryFilter.mp hlog).1) hdecode
  rw [← Chain.logs_append (Nat.zero_le m) hle, List.filterMap_append] at hcreate
  exact (List.mem_append.mp hcreate).imp exists_put_replication exists_put_replication

theorem exists_put_decision {L : List EventLog} {r : Reads} {k : ℕ} {log : EventLog}
    {row : ResolutionDecisionView} (hlog : log ∈ L)
    (hwrite : log.event.decisionWrite? = some (.create k row)) :
    ∃ p ∈ (resolutionDecisionsBatch r (queryFilter L)).puts, p.key = k := by
  unfold ChainEvent.decisionWrite? at hwrite
  split at hwrite
  next decisionId _ _ _ _ _ _ _ _ _ _ heq =>
    obtain ⟨rfl, -⟩ := Write.create.inj (Option.some.inj hwrite)
    have hview : ∃ view : ResolutionDecisionView,
        resolutionDecisionOf r log = some view ∧ view.decisionId = decisionId := by
      rw [resolutionDecisionOf, heq]
      exact ⟨_, rfl, rfl⟩
    obtain ⟨view, hview, hkey⟩ := hview
    refine ⟨insertResolutionDecision view,
      List.mem_map_of_mem (List.mem_filterMap.mpr ⟨log, ?_, hview⟩), hkey⟩
    exact mem_queryFilter.mpr ⟨hlog, by rw [heq]; rfl⟩
  next => exact absurd hwrite (by simp)

theorem eq_effectiveDecision {log : EventLog} {s : Patch ℕ ResolutionDecisionView String}
    (h : effectiveDecision log = some s) : ∃ claimId decisionId status actor,
      log.event = .claimRegistry
        (.effectiveResolutionDecisionUpdated claimId decisionId status actor) ∧
      s = markEffectiveResolutionDecision claimId decisionId := by
  unfold effectiveDecision at h
  split at h
  next heq => exact ⟨_, _, _, _, heq, (Option.some.inj h).symm⟩
  next => exact absurd h (by simp)

theorem exists_run_resolutionDecisions {t : Table ℕ ResolutionDecisionView} (hle : m ≤ n)
    (h : (resolutionDecisionsBatch r₁ (queryFilter (C.logs 0 m))).run .empty = .ok t) :
    ∃ t', (resolutionDecisionsBatch r₂ (queryFilter (C.logs m n))).run t = .ok t' := by
  have happend := C.logs_append (Nat.zero_le m) hle
  -- Every row of a decision is one of the claim of the decision.
  let P : ℕ → ResolutionDecisionView → Prop := fun k row =>
    row.claimId = ((C.world n).claimRegistry.decisions k).claimId
  have hputs : ∀ {r : Reads} {L : List EventLog}, (∀ log ∈ L, log ∈ C.logs 0 n) →
      ∀ s ∈ (resolutionDecisionsBatch r (queryFilter L)).puts, ∀ row : Option _,
        (∀ r', row = some r' → P s.key r') → P s.key (s.value row) := by
    intro r L hL s hs row hrow
    obtain ⟨view, hview, rfl⟩ := List.mem_map.mp hs
    obtain ⟨log, hlog, hdecode⟩ := List.mem_filterMap.mp hview
    cases row with
    | some row => exact hrow row rfl
    | none =>
      have hclaim := Chain.claimId_of_recorded (hL log (mem_queryFilter.mp hlog).1) hdecode
      exact hclaim
  have hrows : ∀ k row, t k = some row → P k row := by
    intro k row hrow
    rw [((Batch.run_eq_ok steady_effectiveDecision).mp h).2] at hrow
    obtain ⟨row₀, hput, rfl⟩ := Option.map_eq_some_iff.mp hrow
    refine Patch.forall_apply (P := P k) (fun s hs row hP => ?_) (Put.forall_apply (P := P k)
      (fun s hs hkey row hrow => hkey ▸ hputs (fun log hlog =>
        logs_left hle hlog) s hs row (hkey ▸ hrow))
      (fun r' hr' => absurd hr' (by simp)) hput)
    obtain ⟨_, -, hdecode⟩ := List.mem_filterMap.mp hs
    obtain ⟨claimId, decisionId, rfl⟩ := eq_markEffective hdecode
    exact (markEffective_claimId claimId decisionId k row).trans hP
  refine Batch.exists_run_of_finds (P := P) steady_effectiveDecision steady_effectiveDecision h
    (fun s hs => ?_) (fun k row hrow => Put.forall_apply (P := P k)
      (fun s hs hkey row hrow => hkey ▸ hputs (fun log hlog =>
        logs_right hle hlog) s hs row (hkey ▸ hrow))
      (hrows k) hrow) fun s hs row hP => ?_
  · obtain ⟨log, hlog, hdecode⟩ := List.mem_filterMap.mp hs
    obtain ⟨claimId, decisionId, status, actor, heq, rfl⟩ := eq_effectiveDecision hdecode
    obtain ⟨log', hlog', row, -, hwrite⟩ := Chain.exists_decided
      (logs_right hle (mem_queryFilter.mp hlog).1) heq
    rw [← happend] at hlog'
    exact (List.mem_append.mp hlog').imp (fun h => exists_put_decision h hwrite)
      fun h => exists_put_decision h hwrite
  · obtain ⟨log, hlog, hdecode⟩ := List.mem_filterMap.mp hs
    obtain ⟨claimId, decisionId, status, actor, heq, rfl⟩ := eq_effectiveDecision hdecode
    obtain ⟨log', hlog', row', hclaim, hwrite⟩ := Chain.exists_decided
      (logs_right hle (mem_queryFilter.mp hlog).1) heq
    refine decide_eq_true (hP.trans ?_)
    rw [← hclaim, Chain.recorded hlog' hwrite]
    rfl

/-- What ends a forecast is about it. -/
theorem forecastId_of_settled {e : ChainEvent} {k : ℕ} (h : e.settledForecastId? = some k) :
    e.forecastId? = some k := by
  unfold ChainEvent.settledForecastId? at h
  split at h
  · exact h
  · exact absurd h (by simp)

/-- What ends a challenge is about it. -/
theorem challengeId_of_closed {e : ChainEvent} {k : ℕ} (h : e.closedChallengeId? = some k) :
    e.challengeId? = some k := by
  unfold ChainEvent.closedChallengeId? at h
  split at h
  · exact h
  · exact h
  · exact absurd h (by simp)

/-- What ends an appeal is about it. -/
theorem appealId_of_adjudicated {e : ChainEvent} {k : ℕ} (h : e.adjudicatedAppealId? = some k) :
    e.appealId? = some k := by
  unfold ChainEvent.adjudicatedAppealId? at h
  split at h
  · exact h
  · exact absurd h (by simp)

/-- A forecast that is settled is one the chunk takes a snapshot of. -/
theorem exists_run_forecasts {L : List EventLog} (M : List EventLog) {t : Table ℕ ForecastView}
    (h : (forecastsBatch r₁ (queryFilter L)).run .empty = .ok t) :
    ∃ t', (forecastsBatch r₂ (queryFilter M)).run t = .ok t' := by
  refine Batch.exists_run byKey_forecastSettlement.steady byKey_forecastSettlement h
    fun s hs => .inr ?_
  obtain ⟨log, hlog, hdecode⟩ := List.mem_filterMap.mp hs
  have htouched : s.key ∈ touchedForecastIds (queryFilter M) := mem_touchedForecastIds.mpr
    ⟨log, (mem_queryFilter.mp hlog).1, forecastId_of_settled (forecastSettlement_eq hdecode).1⟩
  exact ⟨_, List.mem_map_of_mem htouched, rfl⟩

/-- A challenge that is closed is one the chunk takes a snapshot of. -/
theorem exists_run_challenges {L : List EventLog} (M : List EventLog) {t : Table ℕ ChallengeView}
    (h : (challengesBatch r₁ (queryFilter L)).run .empty = .ok t) :
    ∃ t', (challengesBatch r₂ (queryFilter M)).run t = .ok t' := by
  have hkey : ∀ r (L : List EventLog), Patch.ByKey (challengesBatch r (queryFilter L)).patches :=
    fun _ _ => byKey_challengeResolution.append byKey_challengeWithdrawal
  refine Batch.exists_run (hkey _ _).steady (hkey _ _) h fun s hs => .inr ?_
  obtain ⟨log, hlog, hclosed⟩ := closed_of_mem_challengePatches r₂ hs
  have htouched : s.key ∈ touchedChallengeIds (queryFilter M) :=
    mem_touchedChallengeIds.mpr ⟨log, hlog, challengeId_of_closed hclosed⟩
  exact ⟨_, List.mem_map_of_mem htouched, rfl⟩

/-- An appeal that is adjudicated is one the chunk takes a snapshot of. -/
theorem exists_run_appeals {L : List EventLog} (M : List EventLog) {t : Table ℕ AppealView}
    (h : (appealsBatch r₁ (queryFilter L)).run .empty = .ok t) :
    ∃ t', (appealsBatch r₂ (queryFilter M)).run t = .ok t' := by
  refine Batch.exists_run byKey_appealAdjudication.steady byKey_appealAdjudication h
    fun s hs => .inr ?_
  obtain ⟨log, hlog, hdecode⟩ := List.mem_filterMap.mp hs
  have htouched : s.key ∈ touchedAppealIds (queryFilter M) := mem_touchedAppealIds.mpr
    ⟨log, (mem_queryFilter.mp hlog).1, appealId_of_adjudicated (appealAdjudication_eq hdecode).1⟩
  exact ⟨_, List.mem_map_of_mem htouched, rfl⟩

/-- A chunk without patches succeeds. -/
theorem exists_run_of_puts {κ ρ : Type} [DecidableEq κ] {b₁ : Batch κ ρ String}
    (b₂ : Batch κ ρ String) {t : Table κ ρ} (h₁ : b₁.patches = []) (h₂ : b₂.patches = [])
    (h : b₁.run .empty = .ok t) : ∃ t', b₂.run t = .ok t' :=
  Batch.exists_run (h₁ ▸ Patch.ByKey.nil.steady) (h₂ ▸ Patch.ByKey.nil) h fun _ hs =>
    absurd (h₂ ▸ hs) List.not_mem_nil

/-- **A chunk after a chunk succeeds.** -/
theorem exists_applyChunk {t : Tables} (hle : m ≤ n)
    (h : applyChunk r₁ (queryFilter (C.logs 0 m)) .empty = .ok t) :
    ∃ t', applyChunk r₂ (queryFilter (C.logs m n)) t = .ok t' := by
  obtain ⟨h₁, h₂, h₃, h₄, h₅, h₆, h₇, h₈, h₉, h₁₀⟩ := applyChunk_eq_ok.mp h
  obtain ⟨claims, h₁⟩ := exists_run_claims r₂ hle h₁
  obtain ⟨artifacts, h₂⟩ := exists_run_of_puts (artifactsBatch (queryFilter (C.logs m n)))
    rfl rfl h₂
  obtain ⟨replications, h₃⟩ := exists_run_replications hle h₃
  obtain ⟨resolutionDecisions, h₄⟩ := exists_run_resolutionDecisions r₂ hle h₄
  obtain ⟨checkpoints, h₅⟩ := exists_run_of_puts
    (checkpointsBatch (queryFilter (C.logs m n))) rfl rfl h₅
  obtain ⟨agents, h₆⟩ := exists_run_of_puts
    (agentsBatch r₂ (queryFilter (C.logs m n))) rfl rfl h₆
  obtain ⟨agentControllers, h₇⟩ := exists_run_of_puts
    (agentControllersBatch (queryFilter (C.logs m n))) rfl rfl h₇
  obtain ⟨forecasts, h₈⟩ := exists_run_forecasts r₂ (C.logs m n) h₈
  obtain ⟨challenges, h₉⟩ := exists_run_challenges r₂ (C.logs m n) h₉
  obtain ⟨appeals, h₁₀⟩ := exists_run_appeals r₂ (C.logs m n) h₁₀
  exact ⟨⟨claims, artifacts, replications, resolutionDecisions, checkpoints, agents,
    agentControllers, forecasts, challenges, appeals⟩,
    applyChunk_eq_ok.mpr ⟨h₁, h₂, h₃, h₄, h₅, h₆, h₇, h₈, h₉, h₁₀⟩⟩

end

/-! ### The getters of a chunk -/

section

variable {D : Deployment} {C : Chain D} {answeredAt : Getter → ℕ}

/-- Getters that answer one by one answer one after the other. -/
theorem Chain.exists_ask {asked : List Getter}
    (h : ∀ g ∈ asked, ∀ r, ∃ r', g.read (C.world (answeredAt g)) r = .ok r') :
    ∃ r, C.ask answeredAt asked = .ok r := by
  suffices hfold : ∀ r, ∃ r',
      asked.foldlM (fun r g => g.read (C.world (answeredAt g)) r) r = .ok r' from hfold default
  induction asked with
  | nil => exact fun r => ⟨r, rfl⟩
  | cons g asked ih =>
    intro r
    obtain ⟨r₁, hread⟩ := h g List.mem_cons_self r
    obtain ⟨r₂, hrest⟩ := ih (fun g' hg' => h g' (List.mem_cons_of_mem _ hg')) r₁
    exact ⟨r₂, bind_eq_ok.mpr ⟨r₁, hread, hrest⟩⟩

end

end ScientificProtocol.Indexer
