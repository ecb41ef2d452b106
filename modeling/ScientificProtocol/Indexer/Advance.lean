import ScientificProtocol.Indexer.Constraints
import ScientificProtocol.Indexer.Outcomes
import ScientificProtocol.Indexer.Progress
import ScientificProtocol.Indexer.References

/-!
# What can stop the indexer

A chunk that fails is rolled back, the cursor stays, and every later run of the indexer meets
the same logs again. It fails if a getter reverts, if a log changes a row that is not there, or
if a row breaks a constraint of its table. Of all this the contracts leave two cases
(`ScientificProtocol.Indexer.Sync.exists_chunk`): **the next chunk commits, if what it writes
fits the columns, and if the snapshots it takes of forecasts name no decision of a later
block.** Every other foreign key holds, because what a record names was there before it
(`ScientificProtocol.Indexer.founded_of_reachable`) and has a row by then; and what is unique in
the tables is unique on the chain.
-/

namespace ScientificProtocol.Indexer

open Evm Sql EpistemicMarket AppealsRegistry

/-! ### What the rows name is there -/

/-- A record is told of where it is created, with the claim it keeps. -/
theorem Chain.of_create {V ρ : Type} [Inhabited V] {L : List EventLog}
    {write : ChainEvent → Option (Write ℕ ρ)} {idOf : V → ℕ} {view : V → ρ} {v : Mapping ℕ V}
    {α : Type} (claimOf : ρ → α)
    (hreplay : replay (L.filterMap fun log => write log.event) .empty =
      some (rowsOf idOf view v))
    (hkeep : ∀ e k f, write e = some (.change k f) → ∀ row, claimOf (f row) = claimOf row)
    {log : EventLog} (hlog : log ∈ L) {k : ℕ} {row : ρ}
    (hwrite : write log.event = some (.create k row)) :
    idOf (v k) ≠ 0 ∧ claimOf (view (v k)) = claimOf row := by
  obtain ⟨row', hrow, heq⟩ := exists_row_of_create (P := fun row' => claimOf row' = claimOf row)
    hreplay (List.mem_filterMap.mpr ⟨log, hlog, hwrite⟩) rfl fun f hchange row' hrow' => by
      obtain ⟨log', -, hwrite'⟩ := List.mem_filterMap.mp hchange
      exact (hkeep _ _ _ hwrite' row').trans hrow'
  rw [rowsOf_apply] at hrow
  split at hrow
  next => exact absurd hrow (by simp)
  next hexists => exact ⟨hexists, Option.some.inj hrow ▸ heq⟩

section

variable {D : Deployment} {C : Chain D} {m n j k : ℕ} {r r₀ : Reads} {t t' : Tables}
  {L : List EventLog}

/-- The claim of an artifact. -/
theorem claim_of_artifact {log : EventLog} {row : ArtifactView} (hlog : log ∈ C.logs 0 n)
    (h : artifactOf log = some row) :
    ((C.world n).claimRegistry.claims row.claimId).claimId ≠ 0 := by
  have hwrite : log.event.artifactWrite? = some (.create row.artifactId row) := by
    unfold artifactOf at h
    split at h
    next heq =>
      obtain rfl := Option.some.inj h
      rw [heq]
      rfl
    next => exact absurd h (by simp)
  obtain ⟨hexists, hclaim⟩ := Chain.of_create ArtifactView.claimId (C.artifactRows n)
    (fun e k f hchange => by
      unfold ChainEvent.artifactWrite? at hchange
      split at hchange
      next => exact absurd (Option.some.inj hchange) (by simp)
      next => exact absurd hchange (by simp)) hlog hwrite
  rw [← hclaim]
  exact (founded_of_reachable (C.reachable n) RecordKind.artifact row.artifactId hexists).claim

/-- The claim of a replication. -/
theorem claim_of_replication {log : EventLog} {row : ReplicationView} (hlog : log ∈ C.logs 0 n)
    (h : submittedReplication log = some row) :
    ((C.world n).claimRegistry.claims row.claimId).claimId ≠ 0 := by
  have hwrite : log.event.replicationWrite? = some (.create row.replicationId row) := by
    unfold submittedReplication at h
    split at h
    next heq =>
      obtain rfl := Option.some.inj h
      rw [heq]
      rfl
    next => exact absurd h (by simp)
  obtain ⟨hexists, hclaim⟩ := Chain.of_create ReplicationView.claimId (C.replicationRows n)
    (fun e k f hchange => by
      unfold ChainEvent.replicationWrite? at hchange
      split at hchange
      next => exact absurd (Option.some.inj hchange) (by simp)
      next =>
        obtain ⟨-, rfl⟩ := Write.change.inj (Option.some.inj hchange)
        exact fun _ => rfl
      next => exact absurd hchange (by simp)) hlog hwrite
  rw [← hclaim]
  exact (founded_of_reachable (C.reachable n) RecordKind.replication row.replicationId hexists).claim

/-- What a record names, whenever it is read, was there when it was first told of. -/
theorem founded_later (hnj : n ≤ j) (kind : RecordKind)
    (hk : (reference (C.world n) kind k).recordId ≠ 0) :
    (reference (C.world j) kind k).Founded (C.world n) := by
  rw [(C.emits hnj).reference (C.reachable n) kind k hk]
  exact founded_of_reachable (C.reachable n) kind k hk

/-- The claims that exist have rows. -/
theorem names_claims (h : applyChunk r (queryFilter (C.logs 0 n)) .empty = .ok t)
    (hk : ((C.world n).claimRegistry.claims k).claimId ≠ 0) : Names t.claims k :=
  Batch.isSome_of_put byKey_claimStatus.steady (applyChunk_eq_ok.mp h).1
    (exists_put_claim (Chain.claim_exists.mp hk))

theorem names_replications (h : applyChunk r (queryFilter (C.logs 0 n)) .empty = .ok t)
    (hk : ((C.world n).replicationRegistry.replications k).replicationId ≠ 0) :
    Names t.replications k := by
  obtain ⟨row, hcreate⟩ := (isSome_replay (C.replicationRows n) k).mp (Chain.isSome_rowsOf.mpr hk)
  exact Batch.isSome_of_put byKey_replicationResolution.steady (applyChunk_eq_ok.mp h).2.2.1
    (exists_put_replication hcreate)

theorem names_decisions (h : applyChunk r (queryFilter (C.logs 0 n)) .empty = .ok t)
    (hk : ((C.world n).claimRegistry.decisions k).decisionId ≠ 0) :
    Names t.resolutionDecisions k := by
  obtain ⟨log, hlog, hid⟩ := Chain.decision_exists.mp hk
  obtain ⟨row, hcreate⟩ := Chain.exists_create_decision.mpr ⟨log, hlog, hid⟩
  obtain ⟨log', hlog', hwrite⟩ := List.mem_filterMap.mp hcreate
  exact Batch.isSome_of_put steady_effectiveDecision (applyChunk_eq_ok.mp h).2.2.2.1
    (exists_put_decision hlog' hwrite)

/-! ### No statement breaks a constraint -/

/-- A statement is decoded from a log of the chunk. -/
theorem exists_decoded {α β : Type} {filter : EventFilter} {decode : EventLog → Option α}
    {make : α → β} {L : List EventLog} {s : β}
    (hs : s ∈ ((queryFilter L filter).filterMap decode).map make) :
    ∃ log ∈ L, ∃ view, decode log = some view ∧ make view = s := by
  obtain ⟨view, hview, hmake⟩ := List.mem_map.mp hs
  obtain ⟨log, hlog, hdecode⟩ := List.mem_filterMap.mp hview
  exact ⟨log, (mem_queryFilter.mp hlog).1, view, hdecode, hmake⟩

theorem keeps_claims (hfits : ∀ log ∈ L, log.Fits) {t : Table ℕ ClaimView} (h : ClaimsMeet t) :
    (claimsBatch r (queryFilter L)).Keeps ClaimsMeet t := by
  refine Batch.keeps_rows h (fun s hs row _ => ?_) fun s hs => ?_
  · obtain ⟨log, hlog, view, hdecode, rfl⟩ := exists_decoded hs
    have hlogfits := hfits log hlog
    have hview : view.Fits := by
      unfold createdClaim at hdecode
      split at hdecode
      next heq =>
        obtain rfl := Option.some.inj hdecode
        rw [EventLog.Fits, EventLog.integers, heq] at hlogfits
        exact ⟨hlogfits.1 _ (by simp), hlogfits.1 _ (by simp)⟩
      next => exact absurd hdecode (by simp)
    cases row <;> exact hview
  · obtain ⟨log, -, hdecode⟩ := List.mem_filterMap.mp hs
    unfold claimStatus at hdecode
    split at hdecode
    next =>
      obtain rfl := Option.some.inj hdecode
      exact Patch.byKey_preserves fun _ hrow => hrow
    next => exact absurd hdecode (by simp)

theorem keeps_artifacts {claims : Table ℕ ClaimView} (hfits : ∀ log ∈ L, log.Fits)
    (hclaims : ∀ log ∈ L, ∀ view, artifactOf log = some view → Names claims view.claimId)
    {t : Table ℕ ArtifactView} (h : ArtifactsMeet claims t) :
    (artifactsBatch (queryFilter L)).Keeps (ArtifactsMeet claims) t := by
  refine Batch.keeps_rows h (fun s hs row hrow => ?_) fun _ hs => absurd hs List.not_mem_nil
  obtain ⟨log, hlog, view, hdecode, rfl⟩ := exists_decoded hs
  have hlogfits := hfits log hlog
  have hview : view.Fits := by
    unfold artifactOf at hdecode
    split at hdecode
    next heq =>
      obtain rfl := Option.some.inj hdecode
      rw [EventLog.Fits, EventLog.texts, heq] at hlogfits
      exact hlogfits.2 _ (by simp)
    next => exact absurd hdecode (by simp)
  cases row with
  | none => exact ⟨hview, hclaims log hlog view hdecode⟩
  | some row => exact hrow row rfl

theorem keeps_replications {claims : Table ℕ ClaimView} (hfits : ∀ log ∈ L, log.Fits)
    (hclaims : ∀ log ∈ L, ∀ view, submittedReplication log = some view →
      Names claims view.claimId) {t : Table ℕ ReplicationView} (h : ReplicationsMeet claims t) :
    (replicationsBatch (queryFilter L)).Keeps (ReplicationsMeet claims) t := by
  refine Batch.keeps_rows h (fun s hs row hrow => ?_) fun s hs => ?_
  · obtain ⟨log, hlog, view, hdecode, rfl⟩ := exists_decoded hs
    have hnamed := hclaims log hlog view hdecode
    cases row with
    | none => exact ⟨fun _ huri => absurd huri (Option.not_mem_none _), hnamed⟩
    | some row => exact ⟨(hrow row rfl).1, hnamed⟩
  · obtain ⟨log, hlog, hdecode⟩ := List.mem_filterMap.mp hs
    have hlogfits := hfits log (mem_queryFilter.mp hlog).1
    unfold replicationResolution at hdecode
    split at hdecode
    next heq =>
      obtain rfl := Option.some.inj hdecode
      rw [EventLog.Fits, EventLog.texts, heq] at hlogfits
      refine Patch.byKey_preserves fun row hrow => ⟨fun uri huri => ?_, hrow.2⟩
      obtain rfl := Option.some.inj huri
      exact hlogfits.2 _ (by simp)
    next => exact absurd hdecode (by simp)

theorem keeps_checkpoints (hfits : ∀ log ∈ L, log.Fits) {t : Table ℕ CheckpointView}
    (h : CheckpointsMeet t) : (checkpointsBatch (queryFilter L)).Keeps CheckpointsMeet t := by
  refine Batch.keeps_rows h (fun s hs row hrow => ?_) fun _ hs => absurd hs List.not_mem_nil
  obtain ⟨log, hlog, view, hdecode, rfl⟩ := exists_decoded hs
  have hlogfits := hfits log hlog
  have hview : view.Fits := by
    unfold checkpointOf at hdecode
    split at hdecode
    next heq =>
      obtain rfl := Option.some.inj hdecode
      rw [EventLog.Fits, EventLog.integers, EventLog.texts, heq] at hlogfits
      exact ⟨hlogfits.1 _ (by simp), hlogfits.2 _ (by simp)⟩
    next => exact absurd hdecode (by simp)
  cases row with
  | none => exact hview
  | some row => exact hrow row rfl

theorem keeps_agents (hfits : ∀ k ∈ touchedAgentIds (queryFilter L), (agentSnapshot r k).Fits)
    {t : Table ℕ AgentView} (h : AgentsMeet t) :
    (agentsBatch r (queryFilter L)).Keeps AgentsMeet t := by
  refine Batch.keeps_rows h (fun s hs row _ => ?_) fun _ hs => absurd hs List.not_mem_nil
  obtain ⟨agentId, hmem, rfl⟩ := List.mem_map.mp hs
  cases row <;> exact hfits agentId hmem

/-- A controller is one of an agent that the chunk takes a snapshot of. -/
theorem keeps_agentControllers {agents : Table ℕ AgentView}
    (hagents : ∀ k ∈ touchedAgentIds (queryFilter L), Names agents k)
    {t : Table (ℕ × Address) AgentControllerView} (h : AgentControllersMeet agents t) :
    (agentControllersBatch (queryFilter L)).Keeps (AgentControllersMeet agents) t := by
  refine Batch.keeps_rows h (fun s hs row hrow => ?_) fun _ hs => absurd hs List.not_mem_nil
  obtain ⟨log, hlog, view, hdecode, rfl⟩ := exists_decoded hs
  cases row with
  | none =>
    refine hagents view.agentId (mem_touchedAgentIds.mpr ⟨log, hlog, ?_⟩)
    unfold agentControllerOf at hdecode
    split at hdecode
    next heq =>
      obtain rfl := Option.some.inj hdecode
      rw [heq]
      rfl
    next => exact absurd hdecode (by simp)
  | some row =>
    have hnamed : Names agents row.agentId := hrow row rfl
    exact hnamed

/-- Statements that write the ends of records keep what the ends keep. -/
theorem preserves_of_writes {β ρ : Type} {reports : List (ℕ × Option β)} {write : β → ρ → ρ}
    {patches : List (Patch ℕ ρ String)} (hwrites : Writes reports write patches)
    (hkey : Patch.ByKey patches) {P : ℕ → ρ → Prop}
    (h : ∀ k b, (k, some b) ∈ reports → ∀ row, P k row → P k (write b row)) :
    ∀ s ∈ patches, ∀ k row, P k row → P k (s.set k row) := by
  intro s hs k row hrow
  by_cases hk : k = s.key
  · subst hk
    obtain ⟨b, hb, hset⟩ := hwrites.sound s hs
    rw [hset]
    exact h s.key b hb row hrow
  · rw [(hkey s hs).2 k hk]
    exact hrow

theorem keeps_forecasts {claims : Table ℕ ClaimView} {decisions : Table ℕ ResolutionDecisionView}
    (hsnapshot : ∀ k ∈ touchedForecastIds (queryFilter L), (forecastSnapshot r k).Fits ∧
      Names claims (forecastSnapshot r k).claimId ∧
      (∀ d ∈ (forecastSnapshot r k).effectiveDecisionIdAtCommit, Names decisions d) ∧
      ∀ d ∈ (forecastSnapshot r k).resolutionDecisionId, Names decisions d)
    (hverdict : ∀ k v, (k, some v) ∈ reported ChainEvent.forecastReport? L →
      v.resolutionDecisionId ≠ 0 → Names decisions v.resolutionDecisionId)
    {t : Table ℕ ForecastView} (h : ForecastsMeet claims decisions t) :
    (forecastsBatch r (queryFilter L)).Keeps (ForecastsMeet claims decisions) t := by
  refine Batch.keeps_rows h (fun s hs row hrow => ?_)
    (preserves_of_writes (writes_forecasts L) byKey_forecastSettlement fun k v hv row hrow => ?_)
  · obtain ⟨forecastId, hmem, rfl⟩ := List.mem_map.mp hs
    obtain ⟨hfits, hclaim, heffective, hresolution⟩ := hsnapshot forecastId hmem
    cases row with
    | none => exact ⟨hfits, hclaim, heffective, hresolution⟩
    | some row =>
      obtain ⟨-, -, heffective', hresolution'⟩ := hrow row rfl
      refine ⟨hfits, hclaim, fun d hd => ?_, fun d hd => ?_⟩
      · rcases Option.or_eq_some_iff.mp hd with hd | ⟨-, hd⟩
        · exact heffective' d hd
        · exact heffective d hd
      · rcases Option.or_eq_some_iff.mp hd with hd | ⟨-, hd⟩
        · exact hresolution' d hd
        · exact hresolution d hd
  · refine ⟨hrow.1, hrow.2.1, hrow.2.2.1, fun d hd => ?_⟩
    rw [writeVerdict, nullIfZero_bind, nullIfZero] at hd
    split at hd
    next => exact absurd hd (by simp)
    next hne =>
      obtain rfl := Option.some.inj hd
      exact hverdict k v hv hne

theorem keeps_challenges {claims : Table ℕ ClaimView}
    (hsnapshot : ∀ k ∈ touchedChallengeIds (queryFilter L), (challengeSnapshot r k).Fits ∧
      Names claims (challengeSnapshot r k).claimId)
    {t : Table ℕ ChallengeView} (h : ChallengesMeet claims t) :
    (challengesBatch r (queryFilter L)).Keeps (ChallengesMeet claims) t := by
  refine Batch.keeps_rows h (fun s hs row _ => ?_)
    (preserves_of_writes (writes_challenges r L)
      (byKey_challengeResolution.append byKey_challengeWithdrawal) fun k closure _ row hrow => ?_)
  · obtain ⟨challengeId, hmem, rfl⟩ := List.mem_map.mp hs
    cases row <;> exact hsnapshot challengeId hmem
  · cases closure <;> exact hrow

theorem keeps_appeals {claims : Table ℕ ClaimView} (hfits : ∀ log ∈ L, log.Fits)
    (hsnapshot : ∀ k ∈ touchedAppealIds (queryFilter L), (appealSnapshot r k).Fits ∧
      Names claims (appealSnapshot r k).claimId)
    {t : Table ℕ AppealView} (h : AppealsMeet claims t) :
    (appealsBatch r (queryFilter L)).Keeps (AppealsMeet claims) t := by
  refine Batch.keeps_rows h (fun s hs row _ => ?_)
    (preserves_of_writes (writes_appeals L) byKey_appealAdjudication fun k x hx row hrow => ?_)
  · obtain ⟨appealId, hmem, rfl⟩ := List.mem_map.mp hs
    cases row <;> exact hsnapshot appealId hmem
  · obtain ⟨⟨huri, -, htimes⟩, hclaim⟩ := hrow
    refine ⟨⟨huri, fun uri hadjudicated => ?_, htimes⟩, hclaim⟩
    obtain rfl := Option.some.inj hadjudicated
    obtain ⟨⟨block, event⟩, hlog, hreport⟩ := mem_reported.mp hx
    have hlogfits := hfits _ hlog
    cases event with
    | appealsRegistry e => cases e with
      | appealAdjudicated =>
        obtain ⟨-, heq⟩ := Prod.mk.inj (Option.some.inj hreport)
        obtain rfl := Option.some.inj heq
        exact hlogfits.2 _ List.mem_cons_self
      | _ => exact absurd hreport (by simp [ChainEvent.appealReport?, Event.appealReport?])
    | _ => exact absurd hreport (by simp [ChainEvent.appealReport?])

/-- A row is about a decision. -/
structure AboutDecision (w : World) (k : ℕ) (row : ResolutionDecisionView) : Prop where
  decision_exists : (w.claimRegistry.decisions k).decisionId ≠ 0
  claimId : (w.claimRegistry.decisions k).claimId = row.claimId
  replicationId : (w.claimRegistry.decisions k).replicationId = row.replicationId

theorem aboutDecision_of_log {log : EventLog} {row : ResolutionDecisionView}
    (hlog : log ∈ C.logs 0 n) (h : resolutionDecisionOf r log = some row) :
    AboutDecision (C.world n) row.decisionId { row with effective := false } := by
  unfold resolutionDecisionOf at h
  split at h
  next decisionId claimId replicationId _ _ _ _ _ _ _ _ heq =>
    obtain rfl := Option.some.inj h
    obtain ⟨row, hrow, hwrite⟩ : ∃ row : ResolutionDecisionView,
        (row.claimId, row.replicationId) = (claimId, replicationId) ∧
        log.event.decisionWrite? = some (.create decisionId row) := by
      rw [heq]
      exact ⟨_, rfl, rfl⟩
    obtain ⟨hexists, hsame⟩ := Chain.of_create (fun row => (row.claimId, row.replicationId))
      (C.decisionRows n) (fun e k f hchange => by
        unfold ChainEvent.decisionWrite? at hchange
        split at hchange
        next => exact absurd (Option.some.inj hchange) (by simp)
        next => exact absurd hchange (by simp)) hlog hwrite
    obtain ⟨hclaim, hreplication⟩ := Prod.mk.inj (hsame.trans hrow)
    exact ⟨hexists, hclaim, hreplication⟩
  next => exact absurd h (by simp)

theorem aboutDecision_put (hL : ∀ log ∈ L, log ∈ C.logs 0 n) :
    ∀ s ∈ (resolutionDecisionsBatch r (queryFilter L)).puts, ∀ row : Option ResolutionDecisionView,
      (∀ r', row = some r' → AboutDecision (C.world n) s.key r') →
      AboutDecision (C.world n) s.key (s.value row) := by
  intro s hs row hrow
  obtain ⟨log, hlog, view, hdecode, rfl⟩ := exists_decoded hs
  cases row with
  | none => exact aboutDecision_of_log (hL log hlog) hdecode
  | some row => exact hrow row rfl

/-- The mark is the only thing a mark changes. -/
theorem markEffective_set (claimId decisionId k : ℕ) (row : ResolutionDecisionView) :
    (markEffectiveResolutionDecision claimId decisionId).set k row =
      { row with effective :=
          if row.claimId = claimId then decide (k = decisionId) else row.effective } := by
  simp only [markEffectiveResolutionDecision]
  by_cases hclaim : row.claimId = claimId
  · by_cases hk : k = decisionId
    · rw [if_pos hclaim, if_pos hclaim, if_pos ⟨hclaim, hk⟩, decide_eq_true hk]
    · rw [if_pos hclaim, if_pos hclaim, if_neg fun h => hk h.2, decide_eq_false hk]
  · rw [if_neg hclaim, if_neg hclaim, if_neg fun h => hclaim h.1]

theorem aboutDecision_patch :
    ∀ s ∈ (resolutionDecisionsBatch r (queryFilter L)).patches, ∀ k row,
      AboutDecision (C.world n) k row → AboutDecision (C.world n) k (s.set k row) := by
  intro s hs k row hrow
  obtain ⟨log, -, hdecode⟩ := List.mem_filterMap.mp hs
  obtain ⟨claimId, decisionId, rfl⟩ := eq_markEffective hdecode
  rw [markEffective_set]
  exact ⟨hrow.decision_exists, hrow.claimId, hrow.replicationId⟩

/-- At most one decision of a claim is marked. -/
def OneEffective (t : Table ℕ ResolutionDecisionView) : Prop :=
  ∀ k k' row row', t k = some row → t k' = some row' →
    row.effective = true → row'.effective = true → row.claimId = row'.claimId → k = k'

/-- A new decision is not marked. -/
theorem OneEffective.put {t : Table ℕ ResolutionDecisionView} (h : OneEffective t)
    (view : ResolutionDecisionView) : OneEffective ((insertResolutionDecision view).run t) := by
  have hold : ∀ {k row}, (insertResolutionDecision view).run t k = some row →
      row.effective = true → t k = some row := by
    intro k row hrow heffective
    rw [Put.run, Table.set_apply] at hrow
    split at hrow
    next hk =>
      subst hk
      obtain rfl := Option.some.inj hrow
      change ((t view.decisionId).getD { view with effective := false }).effective = true
        at heffective
      change t view.decisionId = some ((t view.decisionId).getD { view with effective := false })
      cases hnone : t view.decisionId with
      | none =>
        rw [hnone] at heffective
        exact absurd heffective Bool.false_ne_true
      | some row => rfl
    next => exact hrow
  exact fun k k' row row' hrow hrow' heffective heffective' =>
    h k k' row row' (hold hrow heffective) (hold hrow' heffective') heffective heffective'

/-- A mark takes away the marks of the same claim. -/
theorem OneEffective.patch {t t' : Table ℕ ResolutionDecisionView} (h : OneEffective t)
    {claimId decisionId : ℕ}
    (hrun : (markEffectiveResolutionDecision claimId decisionId).run t = .ok t') :
    OneEffective t' := by
  rw [Patch.run] at hrun
  split at hrun
  next =>
    obtain rfl := Except.ok.inj hrun
    intro k k' row row' hrow hrow' heffective heffective' hsame
    obtain ⟨row₀, hrow₀, rfl⟩ := Option.map_eq_some_iff.mp hrow
    obtain ⟨row₀', hrow₀', rfl⟩ := Option.map_eq_some_iff.mp hrow'
    rw [markEffective_set] at heffective hsame
    rw [markEffective_set] at heffective' hsame
    have hsame : row₀.claimId = row₀'.claimId := hsame
    by_cases hclaim : row₀.claimId = claimId
    · have hk : k = decisionId := of_decide_eq_true ((if_pos hclaim).symm.trans heffective)
      have hk' : k' = decisionId :=
        of_decide_eq_true ((if_pos (hsame.symm.trans hclaim)).symm.trans heffective')
      exact hk.trans hk'.symm
    · exact h k k' row₀ row₀' hrow₀ hrow₀' ((if_neg hclaim).symm.trans heffective)
        ((if_neg fun h => hclaim (hsame.trans h)).symm.trans heffective') hsame
  next => exact absurd hrun (by simp)

theorem keeps_resolutionDecisions {claims : Table ℕ ClaimView}
    {replications : Table ℕ ReplicationView} (hL : ∀ log ∈ L, log ∈ C.logs 0 n)
    (hclaims : ∀ k, ((C.world n).claimRegistry.claims k).claimId ≠ 0 → Names claims k)
    (hreplications : ∀ k, ((C.world n).replicationRegistry.replications k).replicationId ≠ 0 →
      Names replications k) {t : Table ℕ ResolutionDecisionView}
    (habout : Rows (AboutDecision (C.world n)) t) (hone : OneEffective t) :
    (resolutionDecisionsBatch r (queryFilter L)).Keeps (DecisionsMeet claims replications) t := by
  have hdecided := decided_of_reachable (C.reachable n)
  refine Batch.keeps_of_preserved (I := fun t => Rows (AboutDecision (C.world n)) t ∧
    OneEffective t) ⟨habout, hone⟩ (fun s hs t ⟨habout, hone⟩ => ?_)
    (fun s hs t t' ⟨habout, hone⟩ hrun => ?_) fun t ⟨habout, hone⟩ => ?_
  · refine ⟨Rows.put (aboutDecision_put hL s hs) habout, ?_⟩
    obtain ⟨view, -, rfl⟩ := List.mem_map.mp hs
    exact hone.put view
  · refine ⟨Rows.patch (aboutDecision_patch s hs) habout hrun, ?_⟩
    obtain ⟨log, -, hdecode⟩ := List.mem_filterMap.mp hs
    obtain ⟨claimId, decisionId, rfl⟩ := eq_markEffective hdecode
    exact hone.patch hrun
  · refine ⟨fun k row hrow => ?_, fun k k' row row' hrow hrow' hsame => ?_, hone⟩
    · have hk := habout k row hrow
      exact ⟨hk.claimId ▸ hclaims _ (hdecided.claim_exists k hk.decision_exists),
        hk.replicationId ▸ hreplications _ (hdecided.copies k hk.decision_exists).replication_exists⟩
    · have hk := habout k row hrow
      have hk' := habout k' row' hrow'
      have hreplication := hk.replicationId.trans (hsame.trans hk'.replicationId.symm)
      rw [← hdecided.recorded k hk.decision_exists, hreplication,
        hdecided.recorded k' hk'.decision_exists]

end

/-! ### The next chunk -/

section

variable {D : Deployment} {C : Chain D} {m n k : ℕ} {r r₀ : Reads} {t t' : Tables}

/-- The forecasts that logs are about exist. -/
theorem Chain.forecast_exists (h : ∃ log ∈ C.logs 0 n, log.event.forecastId? = some k) :
    ((C.world n).epistemicMarket.forecasts k).forecastId ≠ 0 := by
  obtain ⟨b, hb⟩ := (touched_iff_reported map_fst_forecastReport?).mp h
  exact ((C.emits (Nat.zero_le n)).forecastReports (C.reachable 0)).begun _ hb

/-- The challenges that logs are about exist. -/
theorem Chain.challenge_exists (h : ∃ log ∈ C.logs 0 n, log.event.challengeId? = some k) :
    ((C.world n).epistemicMarket.challenges k).challengeId ≠ 0 := by
  obtain ⟨b, hb⟩ := (touched_iff_reported map_fst_challengeReport?).mp h
  exact ((C.emits (Nat.zero_le n)).challengeReports (C.reachable 0)).begun _ hb

/-- The appeals that logs are about exist. -/
theorem Chain.appeal_exists (h : ∃ log ∈ C.logs 0 n, log.event.appealId? = some k) :
    ((C.world n).appealsRegistry.appeals k).appealId ≠ 0 := by
  obtain ⟨b, hb⟩ := (touched_iff_reported map_fst_appealReport?).mp h
  exact ((C.emits (Nat.zero_le n)).appealReports (C.reachable 0)).begun _ hb

theorem of_mem_nullIfZero {value d : ℕ} (h : d ∈ nullIfZero value) : value ≠ 0 ∧ value = d := by
  unfold nullIfZero at h
  split at h
  next => exact absurd h (by simp)
  next hne => exact ⟨hne, Option.some.inj h⟩

/-- **What is left to ask of a chunk**: what its getters answer fits the columns, they answer
for the last block of the chunk or a later one, and they name no decision of a later one. -/
structure Writable (C : Chain D) (m n : ℕ) (r : Reads) : Prop where
  logs : ∀ log ∈ C.logs m n, log.Fits
  records : ∀ g, (∃ log ∈ C.logs m n, log.event.asks g) → ∃ j, n ≤ j ∧
    g.SameRecord r (.ofWorld (C.world j)) ∧ g.Fits (C.world j) ∧ g.Named (C.world j) (C.world n)

/-- What a forecast names when it is read has rows. -/
theorem Writable.forecast (h : Writable C m n r) (hle : m ≤ n)
    (hwhole : applyChunk r₀ (queryFilter (C.logs 0 n)) .empty = .ok t')
    (hk : k ∈ touchedForecastIds (queryFilter (C.logs m n))) :
    (forecastSnapshot r k).Fits ∧ Names t'.claims (forecastSnapshot r k).claimId ∧
      (∀ d ∈ (forecastSnapshot r k).effectiveDecisionIdAtCommit,
        Names t'.resolutionDecisions d) ∧
      ∀ d ∈ (forecastSnapshot r k).resolutionDecisionId, Names t'.resolutionDecisions d := by
  obtain ⟨log, hlog, hid⟩ := mem_touchedForecastIds.mp hk
  obtain ⟨j, hnj, hread, hfits, hnamed⟩ := h.records (.getForecast k) ⟨log, hlog, hid⟩
  have hread : r.getForecast k = (C.world j).epistemicMarket.forecasts k := hread
  have hfounded := founded_later hnj .forecast (k := k)
    (Chain.forecast_exists ⟨log, logs_right hle hlog, hid⟩)
  simp only [forecastSnapshot, ForecastView.Fits, hread]
  refine ⟨hfits, names_claims hwhole hfounded.claim, fun d hd => ?_, fun d hd => ?_⟩
  · obtain ⟨hne, rfl⟩ := of_mem_nullIfZero hd
    exact names_decisions hwhole (hfounded.decision hne)
  · obtain ⟨hne, rfl⟩ := of_mem_nullIfZero hd
    exact names_decisions hwhole (hnamed hne)

theorem Writable.challenge (h : Writable C m n r) (hle : m ≤ n)
    (hwhole : applyChunk r₀ (queryFilter (C.logs 0 n)) .empty = .ok t')
    (hk : k ∈ touchedChallengeIds (queryFilter (C.logs m n))) :
    (challengeSnapshot r k).Fits ∧ Names t'.claims (challengeSnapshot r k).claimId := by
  obtain ⟨log, hlog, hid⟩ := mem_touchedChallengeIds.mp hk
  obtain ⟨j, hnj, hread, hfits, -⟩ := h.records (.getChallenge k) ⟨log, hlog, hid⟩
  have hread : r.getChallenge k = (C.world j).epistemicMarket.challenges k := hread
  have hfounded := founded_later hnj .challenge (k := k)
    (Chain.challenge_exists ⟨log, logs_right hle hlog, hid⟩)
  simp only [challengeSnapshot, ChallengeView.Fits, hread]
  exact ⟨hfits, names_claims hwhole hfounded.claim⟩

theorem Writable.appeal (h : Writable C m n r) (hle : m ≤ n)
    (hwhole : applyChunk r₀ (queryFilter (C.logs 0 n)) .empty = .ok t')
    (hk : k ∈ touchedAppealIds (queryFilter (C.logs m n))) :
    (appealSnapshot r k).Fits ∧ Names t'.claims (appealSnapshot r k).claimId := by
  obtain ⟨log, hlog, hid⟩ := mem_touchedAppealIds.mp hk
  obtain ⟨j, hnj, hread, hfits, -⟩ := h.records (.getAppeal k) ⟨log, hlog, hid⟩
  have hread : r.getAppeal k = (C.world j).appealsRegistry.appeals k := hread
  have hfounded := founded_later hnj .appeal (k := k)
    (Chain.appeal_exists ⟨log, logs_right hle hlog, hid⟩)
  simp only [appealSnapshot, AppealView.Fits, hread]
  exact ⟨hfits, names_claims hwhole hfounded.claim⟩

theorem Writable.agent (h : Writable C m n r)
    (hk : k ∈ touchedAgentIds (queryFilter (C.logs m n))) : (agentSnapshot r k).Fits := by
  obtain ⟨j, -, hread, hfits, -⟩ := h.records (.getAgent k) (mem_touchedAgentIds.mp hk)
  have hread : r.getAgent k = (C.world j).agentRegistry.agents k := hread
  simp only [agentSnapshot, AgentView.Fits, hread]
  exact hfits

/-- The rows of the decisions are about decisions. -/
theorem aboutDecision_rows (hle : m ≤ n)
    (h : applyChunk r₀ (queryFilter (C.logs 0 m)) .empty = .ok t) :
    Rows (AboutDecision (C.world n)) t.resolutionDecisions :=
  (Batch.keeps_rows (.empty _) (aboutDecision_put fun _ => logs_left hle)
    aboutDecision_patch).run (applyChunk_eq_ok.mp h).2.2.2.1

/-- **A chunk that finds its rows commits**, if there is nothing left to ask of it: it comes
after chunks that have made lawful tables, and all that its rows name has a row by then. -/
theorem commits_of_writable {lastBlock : ℕ} (hle : m ≤ n)
    (h : applyChunk r₀ (queryFilter (C.logs 0 m)) .empty = .ok t) (hlawful : t.Lawful)
    (hrun : applyChunk r (queryFilter (C.logs m n)) t = .ok t') (hblock : IsInteger lastBlock)
    (hwritable : Writable C m n r) :
    Commits lastBlock r (queryFilter (C.logs m n)) t t' := by
  have happend := C.logs_append (Nat.zero_le m) hle
  have hsound : LogSound (C.logs 0 m ++ C.logs m n) := happend ▸ C.logSound (Nat.zero_le n)
  have hwhole : applyChunk (r₀.followed r (C.logs 0 m) (C.logs m n)) (queryFilter (C.logs 0 n))
      .empty = .ok t' := happend ▸ applyChunk_append hsound h hrun
  have hmem : ∀ log ∈ C.logs m n, log ∈ C.logs 0 n := fun _ => logs_right hle
  -- The rows that were there are there, and so the old rows name what is there.
  obtain ⟨h₁, -, h₃, h₄, -, h₆, -⟩ := applyChunk_eq_ok.mp hrun
  have hclaims : ∀ {k}, Names t.claims k → Names t'.claims k :=
    Batch.isSome_run byKey_claimStatus.steady h₁
  have hreplications : ∀ {k}, Names t.replications k → Names t'.replications k :=
    Batch.isSome_run byKey_replicationResolution.steady h₃
  have hdecisions : ∀ {k}, Names t.resolutionDecisions k → Names t'.resolutionDecisions k :=
    Batch.isSome_run steady_effectiveDecision h₄
  have hagents : ∀ {k}, Names t.agents k → Names t'.agents k :=
    Batch.isSome_run Patch.ByKey.nil.steady h₆
  exact
    { rows := hrun
      claims := keeps_claims hwritable.logs hlawful.claims
      artifacts := keeps_artifacts hwritable.logs
        (fun log hlog _ hview => names_claims hwhole (claim_of_artifact (hmem log hlog) hview))
        (hlawful.artifacts.mono fun _ _ hrow => ⟨hrow.1, hclaims hrow.2⟩)
      replications := keeps_replications hwritable.logs
        (fun log hlog _ hview => names_claims hwhole (claim_of_replication (hmem log hlog) hview))
        (hlawful.replications.mono fun _ _ hrow => ⟨hrow.1, hclaims hrow.2⟩)
      resolutionDecisions := keeps_resolutionDecisions hmem (fun _ => names_claims hwhole)
        (fun _ => names_replications hwhole) (aboutDecision_rows hle h)
        hlawful.resolutionDecisions.one_effective_per_claim
      checkpoints := keeps_checkpoints hwritable.logs hlawful.checkpoints
      agents := keeps_agents (fun _ => hwritable.agent) hlawful.agents
      agentControllers := keeps_agentControllers
        (fun _ hk => Batch.isSome_of_put Patch.ByKey.nil.steady h₆
          ⟨_, List.mem_map_of_mem hk, rfl⟩)
        (hlawful.agentControllers.mono fun _ _ => hagents)
      forecasts := keeps_forecasts (fun _ => hwritable.forecast hle hwhole)
        (fun _ v hv hd => names_decisions hwhole ((C.emits hle).decided (C.reachable m) hv hd).1)
        (hlawful.forecasts.mono fun _ _ hrow => ⟨hrow.1, hclaims hrow.2.1,
          fun d hd => hdecisions (hrow.2.2.1 d hd), fun d hd => hdecisions (hrow.2.2.2 d hd)⟩)
      challenges := keeps_challenges (fun _ => hwritable.challenge hle hwhole)
        (hlawful.challenges.mono fun _ _ hrow => ⟨hrow.1, hclaims hrow.2⟩)
      appeals := keeps_appeals hwritable.logs (fun _ => hwritable.appeal hle hwhole)
        (hlawful.appeals.mono fun _ _ hrow => ⟨hrow.1, hclaims hrow.2⟩)
      cursor := hblock }

end

namespace Sync

variable {D : Deployment} {C : Chain D} {s : Sync} {toBlock : ℕ} {answeredAt : Getter → ℕ}

/-- **The chunk fails once the forecast is read after the second block**: its row names the
decision of that block, which has no row. -/
theorem not_commits_devnet (r : Reads) (t : Tables)
    (hask : devnetChain.ask (fun _ => 2) (getters (queryFilter (devnetChain.logs 0 1))) = .ok r) :
    ¬Commits 100 r (queryFilter (devnetChain.logs 0 1)) .empty t := by
  intro hcommits
  have hchunk : devnetChain.chunk (fun _ => 2) 0 1 .empty = .ok t := by
    rw [Chain.chunk, hask]
    exact hcommits.rows
  have hnamed : (devnetChain.chunk (fun _ => 2) 0 1 .empty).toOption.map (fun t =>
      ((t.forecasts 1).bind ForecastView.resolutionDecisionId,
        (t.resolutionDecisions 1).isSome)) = some (some 1, false) := by decide
  rw [hchunk] at hnamed
  obtain ⟨hdecision, hnone⟩ := Prod.mk.inj (Option.some.inj hnamed)
  obtain ⟨row, hrow, hd⟩ := Option.bind_eq_some_iff.mp hdecision
  have hnames := (hcommits.lawful.forecasts 1 row hrow).2.2.2 1 hd
  exact Bool.false_ne_true (hnone.symm.trans hnames)

end Sync

end ScientificProtocol.Indexer
