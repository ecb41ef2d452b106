import ScientificProtocol.Indexer.Chunk

/-!
# Two chunks are one

A chunk writes the new rows of a table before it changes old ones, so where a chunk ends
decides which changes come before which new rows. Table by table this cannot be seen in
the result, for one of the reasons of `Sql.Batch.Merges`.

| table | why | theorem |
|---|---|---|
| claims | a claim is created once | `merges_claims` |
| replications | resolving writes other columns | `merges_replications` |
| decisions | a new decision is not effective | `merges_resolutionDecisions` |
| forecasts, challenges, appeals | nothing happens after the end | `merges_forecasts`, ... |
| the others | they are only added to, or replaced | |

The promises of the contracts come in for the claims and the decisions, and for the
forecasts, challenges and appeals: a snapshot that is taken after the end would write over
what the last event has left.
-/

namespace ScientificProtocol.Indexer

open Evm Sql

variable {L M : List EventLog} {r₁ r₂ : Reads} {t t' : Tables} {k : ℕ}

/-! ### What a chunk of logs touches -/

/-- What the events of some kinds touch, if no other kind does. -/
theorem mem_touchedIds {filters : List EventFilter} {idOf : ChainEvent → Option ℕ}
    (h : ∀ e k, idOf e = some k → ∃ f ∈ filters, e.filter? = some f) :
    k ∈ touchedIds (queryFilter L) filters idOf ↔ ∃ log ∈ L, idOf log.event = some k := by
  simp only [touchedIds, List.mem_eraseDups, List.mem_filterMap, List.mem_flatMap,
    mem_queryFilter]
  constructor
  · rintro ⟨log, ⟨-, -, hlog, -⟩, hid⟩
    exact ⟨log, hlog, hid⟩
  · rintro ⟨log, hlog, hid⟩
    obtain ⟨f, hf, hfilter⟩ := h log.event k hid
    exact ⟨log, ⟨f, hf, hlog, hfilter⟩, hid⟩

theorem mem_touchedAgentIds :
    k ∈ touchedAgentIds (queryFilter L) ↔ ∃ log ∈ L, log.event.agentId? = some k :=
  mem_touchedIds fun e k h => by
    unfold ChainEvent.agentId? at h
    split at h
    all_goals first
      | cases h; exact ⟨_, by decide, rfl⟩
      | cases h

theorem mem_touchedForecastIds :
    k ∈ touchedForecastIds (queryFilter L) ↔ ∃ log ∈ L, log.event.forecastId? = some k :=
  mem_touchedIds fun e k h => by
    unfold ChainEvent.forecastId? at h
    split at h
    all_goals first
      | cases h; exact ⟨_, by decide, rfl⟩
      | cases h

theorem mem_touchedChallengeIds :
    k ∈ touchedChallengeIds (queryFilter L) ↔ ∃ log ∈ L, log.event.challengeId? = some k :=
  mem_touchedIds fun e k h => by
    unfold ChainEvent.challengeId? at h
    split at h
    all_goals first
      | cases h; exact ⟨_, by decide, rfl⟩
      | cases h

theorem mem_touchedAppealIds :
    k ∈ touchedAppealIds (queryFilter L) ↔ ∃ log ∈ L, log.event.appealId? = some k :=
  mem_touchedIds fun e k h => by
    unfold ChainEvent.appealId? at h
    split at h
    all_goals first
      | cases h; exact ⟨_, by decide, rfl⟩
      | cases h

/-! ### The reads of the merged chunk -/

section

variable (r₁ r₂ : Reads) (L M : List EventLog)

/-- What a single chunk has to read for `L` and `M`, when the reads were `r₁` for `L` and
then `r₂` for `M`. A forecast that both have touched keeps the decisions of its first
snapshot, if there were any. -/
def Reads.followed : Reads where
  getClaim k := if ∃ log ∈ M, log.event.createdClaimId? = some k then r₂.getClaim k
    else r₁.getClaim k
  getResolutionDecision k := if ∃ log ∈ M, log.event.decisionId? = some k then
    r₂.getResolutionDecision k else r₁.getResolutionDecision k
  getAgent k := if k ∈ touchedAgentIds (queryFilter M) then r₂.getAgent k else r₁.getAgent k
  getForecast k :=
    if k ∈ touchedForecastIds (queryFilter M) then
      if k ∈ touchedForecastIds (queryFilter L) then
        { r₂.getForecast k with
          effectiveDecisionIdAtCommit :=
            if (r₁.getForecast k).effectiveDecisionIdAtCommit = 0 then
              (r₂.getForecast k).effectiveDecisionIdAtCommit
            else (r₁.getForecast k).effectiveDecisionIdAtCommit
          resolutionDecisionId :=
            if (r₁.getForecast k).resolutionDecisionId = 0 then
              (r₂.getForecast k).resolutionDecisionId
            else (r₁.getForecast k).resolutionDecisionId }
      else r₂.getForecast k
    else r₁.getForecast k
  getChallenge k := if k ∈ touchedChallengeIds (queryFilter M) then r₂.getChallenge k
    else r₁.getChallenge k
  getAppeal k := if k ∈ touchedAppealIds (queryFilter M) then r₂.getAppeal k
    else r₁.getAppeal k

end

/-! ### Table by table -/

theorem byKey_claimStatus : Patch.ByKey (L.filterMap claimStatus) :=
  .filterMap (fun log s h => by
    unfold claimStatus at h
    split at h
    next => exact Option.some.inj h ▸ ⟨_, _, rfl⟩
    next => exact absurd h (by simp)) L

/-- The claims a chunk puts are those it creates. -/
theorem exists_createdClaim {r : Reads} {s : Put ℕ ClaimView}
    (h : s ∈ ((queryFilter L .claimCreated).filterMap (createdClaim r)).map upsertClaim) :
    ∃ log ∈ L, log.event.createdClaimId? = some s.key := by
  obtain ⟨view, hview, rfl⟩ := List.mem_map.mp h
  obtain ⟨log, hlog, hdecode⟩ := List.mem_filterMap.mp hview
  refine ⟨log, (mem_queryFilter.mp hlog).1, ?_⟩
  unfold createdClaim at hdecode
  split at hdecode
  next heq =>
    obtain rfl := Option.some.inj hdecode
    rw [heq]
    rfl
  next => exact absurd hdecode (by simp)

/-- A row of a claim depends on what was read for that claim. -/
theorem createdClaims_congr {r r' : Reads}
    (h : ∀ log ∈ L, ∀ k, log.event.createdClaimId? = some k → r.getClaim k = r'.getClaim k) :
    (queryFilter L .claimCreated).filterMap (createdClaim r) =
      (queryFilter L .claimCreated).filterMap (createdClaim r') := by
  refine List.filterMap_congr fun log hlog => ?_
  have hsame := h log (mem_queryFilter.mp hlog).1
  unfold createdClaim
  split
  next heq =>
    rw [hsame _ (by rw [heq]; rfl)]
  next => rfl

theorem merges_claims (hsound : LogSound (L ++ M)) :
    (claimsBatch r₁ (queryFilter L)).Merges (claimsBatch r₂ (queryFilter M))
      (claimsBatch (r₁.followed r₂ L M) (queryFilter (L ++ M))) := by
  have hnodup := hsound.claims
  rw [List.filterMap_append, List.nodup_append] at hnodup
  -- A claim is created by one of the two chunks.
  have hdisjoint : ∀ log ∈ L, ∀ log' ∈ M, ∀ k, log.event.createdClaimId? = some k →
      log'.event.createdClaimId? ≠ some k := fun log hlog log' hlog' k hid hid' =>
    hnodup.2.2 k (List.mem_filterMap.mpr ⟨log, hlog, hid⟩) k
      (List.mem_filterMap.mpr ⟨log', hlog', hid'⟩) rfl
  have hL : (queryFilter L .claimCreated).filterMap (createdClaim (r₁.followed r₂ L M)) =
      (queryFilter L .claimCreated).filterMap (createdClaim r₁) :=
    createdClaims_congr fun log hlog k hid =>
      if_neg fun ⟨log', hlog', hid'⟩ => hdisjoint log hlog log' hlog' k hid hid'
  have hM : (queryFilter M .claimCreated).filterMap (createdClaim (r₁.followed r₂ L M)) =
      (queryFilter M .claimCreated).filterMap (createdClaim r₂) :=
    createdClaims_congr fun log hlog k hid => if_pos ⟨log, hlog, hid⟩
  have hmerges := Batch.merges_of_disjoint
    (((queryFilter L .claimCreated).filterMap (createdClaim r₁)).map upsertClaim)
    (((queryFilter M .claimCreated).filterMap (createdClaim r₂)).map upsertClaim)
    ((queryFilter L .claimStatusUpdated).filterMap claimStatus)
    ((queryFilter M .claimStatusUpdated).filterMap claimStatus)
    (byKey_claimStatus.append byKey_claimStatus) fun s hs s' hs' heq => by
      obtain ⟨log, hlog, hid⟩ := exists_createdClaim hs
      obtain ⟨log', hlog', hid'⟩ := exists_createdClaim hs'
      exact hdisjoint log hlog log' hlog' _ hid (heq ▸ hid')
  simpa only [claimsBatch, queryFilter_append, List.filterMap_append, List.map_append, hL, hM]
    using hmerges

theorem merges_artifacts : (artifactsBatch (queryFilter L)).Merges
    (artifactsBatch (queryFilter M)) (artifactsBatch (queryFilter (L ++ M))) := by
  simpa only [artifactsBatch, queryFilter_append, List.filterMap_append, List.map_append]
    using Batch.merges_of_patches_nil

theorem merges_checkpoints : (checkpointsBatch (queryFilter L)).Merges
    (checkpointsBatch (queryFilter M)) (checkpointsBatch (queryFilter (L ++ M))) := by
  simpa only [checkpointsBatch, queryFilter_append, List.filterMap_append, List.map_append]
    using Batch.merges_of_patches_nil

theorem merges_agentControllers : (agentControllersBatch (queryFilter L)).Merges
    (agentControllersBatch (queryFilter M)) (agentControllersBatch (queryFilter (L ++ M))) := by
  simpa only [agentControllersBatch, queryFilter_append, List.filterMap_append,
    List.map_append] using Batch.merges_of_patches_nil

theorem eq_applyReplicationResolution {log : EventLog} {s : Patch ℕ ReplicationView String}
    (h : replicationResolution log = some s) :
    ∃ k resolution, s = applyReplicationResolution k resolution := by
  unfold replicationResolution at h
  split at h
  next => exact Option.some.inj h ▸ ⟨_, _, rfl⟩
  next => exact absurd h (by simp)

/-- What is submitted and what is resolved are different columns. -/
theorem merges_replications : (replicationsBatch (queryFilter L)).Merges
    (replicationsBatch (queryFilter M)) (replicationsBatch (queryFilter (L ++ M))) := by
  have hkey : ∀ L : List EventLog, Patch.ByKey (L.filterMap replicationResolution) :=
    Patch.ByKey.filterMap fun log s h => by
      obtain ⟨k, resolution, rfl⟩ := eq_applyReplicationResolution h
      exact ⟨_, _, rfl⟩
  have hmerges := Batch.merges_of_commute
    (((queryFilter L .replicationSubmitted).filterMap submittedReplication).map
      upsertReplicationSubmission)
    (((queryFilter M .replicationSubmitted).filterMap submittedReplication).map
      upsertReplicationSubmission)
    ((queryFilter L .replicationResolved).filterMap replicationResolution)
    ((queryFilter M .replicationResolved).filterMap replicationResolution)
    ((hkey _).append (hkey _)).steady ((hkey _).kept _)
    (fun s hs s' hs' hne => (hkey _ s' hs').2 _ (Ne.symm hne) _)
    (fun s hs s' hs' row => by
      obtain ⟨view, -, rfl⟩ := List.mem_map.mp hs
      obtain ⟨log, -, hlog⟩ := List.mem_filterMap.mp hs'
      obtain ⟨k, resolution, rfl⟩ := eq_applyReplicationResolution hlog
      simp only [applyReplicationResolution, Patch.byKey, upsertReplicationSubmission, Put.upsert,
        Option.map_some, Option.getD_some]
      split <;> rfl)
  simpa only [replicationsBatch, queryFilter_append, List.filterMap_append, List.map_append]
    using hmerges

theorem eq_markEffective {log : EventLog} {s : Patch ℕ ResolutionDecisionView String}
    (h : effectiveDecision log = some s) :
    ∃ claimId decisionId, s = markEffectiveResolutionDecision claimId decisionId := by
  unfold effectiveDecision at h
  split at h
  next => exact Option.some.inj h ▸ ⟨_, _, rfl⟩
  next => exact absurd h (by simp)

/-- A mark does not move a decision to another claim. -/
theorem markEffective_claimId (claimId decisionId k : ℕ) (row : ResolutionDecisionView) :
    ((markEffectiveResolutionDecision claimId decisionId).set k row).claimId = row.claimId := by
  simp only [markEffectiveResolutionDecision]
  split <;> split <;> rfl

/-- A decision that is not marked, and not effective, stays as it is. -/
theorem markEffective_of_ne {claimId decisionId k : ℕ} (hne : decisionId ≠ k)
    {row : ResolutionDecisionView} (h : row.effective = false) :
    (markEffectiveResolutionDecision claimId decisionId).set k row = row := by
  obtain ⟨⟩ := row
  simp only [markEffectiveResolutionDecision, Ne.symm hne, and_false, if_false] at h ⊢
  split
  · rw [h]
  · rfl

theorem steady_effectiveDecision : Patch.Steady (L.filterMap effectiveDecision) := by
  intro s hs s' hs' k row
  obtain ⟨_, -, h⟩ := List.mem_filterMap.mp hs
  obtain ⟨_, -, h'⟩ := List.mem_filterMap.mp hs'
  obtain ⟨claimId, decisionId, rfl⟩ := eq_markEffective h
  obtain ⟨claimId', decisionId', rfl⟩ := eq_markEffective h'
  exact congrArg (fun claim => decide (claim = claimId)) (markEffective_claimId _ _ k row)

/-- A row of a decision depends on what was read for that decision. -/
theorem resolutionDecisions_congr {r r' : Reads}
    (h : ∀ log ∈ L, ∀ k, log.event.decisionId? = some k →
      (r.getResolutionDecision k).createdAt = (r'.getResolutionDecision k).createdAt) :
    (queryFilter L .resolutionDecisionRecorded).filterMap (resolutionDecisionOf r) =
      (queryFilter L .resolutionDecisionRecorded).filterMap (resolutionDecisionOf r') := by
  refine List.filterMap_congr fun log hlog => ?_
  have hsame := h log (mem_queryFilter.mp hlog).1
  unfold resolutionDecisionOf
  split
  next heq =>
    rw [hsame _ (by rw [heq]; rfl)]
  next => rfl

/-- **A new decision is not effective**, so no mark that comes before it changes it. -/
theorem merges_resolutionDecisions (hsound : LogSound (L ++ M)) :
    (resolutionDecisionsBatch r₁ (queryFilter L)).Merges
      (resolutionDecisionsBatch r₂ (queryFilter M))
      (resolutionDecisionsBatch (r₁.followed r₂ L M) (queryFilter (L ++ M))) := by
  have hnodup := hsound.decisions
  rw [List.filterMap_append, List.nodup_append] at hnodup
  have hL : (queryFilter L .resolutionDecisionRecorded).filterMap
      (resolutionDecisionOf (r₁.followed r₂ L M)) =
        (queryFilter L .resolutionDecisionRecorded).filterMap (resolutionDecisionOf r₁) :=
    resolutionDecisions_congr fun log hlog k hid => congrArg ResolutionDecision.createdAt <|
      if_neg fun ⟨log', hlog', hid'⟩ =>
        hnodup.2.2 k (List.mem_filterMap.mpr ⟨log, hlog, hid⟩) k
          (List.mem_filterMap.mpr ⟨log', hlog', hid'⟩) rfl
  have hM : (queryFilter M .resolutionDecisionRecorded).filterMap
      (resolutionDecisionOf (r₁.followed r₂ L M)) =
        (queryFilter M .resolutionDecisionRecorded).filterMap (resolutionDecisionOf r₂) :=
    resolutionDecisions_congr fun log hlog k hid => congrArg ResolutionDecision.createdAt <|
      if_pos ⟨log, hlog, hid⟩
  have hignore : ∀ s ∈ ((queryFilter M .resolutionDecisionRecorded).filterMap
      (resolutionDecisionOf r₂)).map insertResolutionDecision, ∀ row, s.value (some row) = row := by
    intro s hs row
    obtain ⟨view, -, rfl⟩ := List.mem_map.mp hs
    rfl
  have hmerges := Batch.merges_of_commute
    (((queryFilter L .resolutionDecisionRecorded).filterMap
      (resolutionDecisionOf r₁)).map insertResolutionDecision)
    (((queryFilter M .resolutionDecisionRecorded).filterMap
      (resolutionDecisionOf r₂)).map insertResolutionDecision)
    ((queryFilter L .effectiveResolutionDecisionUpdated).filterMap effectiveDecision)
    ((queryFilter M .effectiveResolutionDecisionUpdated).filterMap effectiveDecision)
    (by rw [← List.filterMap_append]; exact steady_effectiveDecision)
    (fun s hs row hfinds => by
      rw [Put.apply_some_eq_self hignore]
      exact hfinds)
    (fun s hs s' hs' hne => by
      obtain ⟨view, -, rfl⟩ := List.mem_map.mp hs
      obtain ⟨_, -, hlog⟩ := List.mem_filterMap.mp hs'
      obtain ⟨claimId, decisionId, rfl⟩ := eq_markEffective hlog
      exact markEffective_of_ne hne rfl)
    (fun s hs s' hs' row => by rw [hignore s hs, hignore s hs])
  simpa only [resolutionDecisionsBatch, queryFilter_append, List.filterMap_append,
    List.map_append, hL, hM] using hmerges

/-! ### Snapshots -/

theorem touchedIds_nodup {filters : List EventFilter} {idOf : ChainEvent → Option ℕ}
    (events : ChunkEvents) : (touchedIds events filters idOf).Nodup :=
  Js.nodup_eraseDups _

theorem exists_or_append {p : EventLog → Prop} :
    (∃ log ∈ L ++ M, p log) ↔ (∃ log ∈ L, p log) ∨ ∃ log ∈ M, p log := by
  simp only [List.mem_append, or_and_right, exists_or]

theorem merges_agents : (agentsBatch r₁ (queryFilter L)).Merges
    (agentsBatch r₂ (queryFilter M)) (agentsBatch (r₁.followed r₂ L M) (queryFilter (L ++ M))) :=
  Batch.merges_snapshots (touchedIds_nodup _) (touchedIds_nodup _) (touchedIds_nodup _)
    (fun k => by
      simp only [mem_touchedAgentIds]
      exact exists_or_append)
    .nil (fun _ h => absurd h List.not_mem_nil) (fun _ _ => rfl)
    (fun _ h => absurd h List.not_mem_nil)
    (fun k _ hM => by
      simp only [agentSnapshot, Reads.followed, if_neg hM])
    (fun k hM _ => by
      simp only [agentSnapshot, Reads.followed, if_pos hM])
    (fun k _ hM => by
      simp only [agentSnapshot, Reads.followed, if_pos hM, Option.map_none,
        Option.getD_none, Option.map_some, Option.getD_some])

theorem nullIfZero_ite (a b : ℕ) :
    nullIfZero (if a = 0 then b else a) = (nullIfZero a).or (nullIfZero b) := by
  by_cases h : a = 0
  · simp [nullIfZero, h]
  · simp [nullIfZero, h]

theorem forecastSettlement_eq {log : EventLog} {s : Patch ℕ ForecastView String}
    (h : forecastSettlement log = some s) :
    log.event.settledForecastId? = some s.key ∧ ∃ f missing, s = .byKey s.key f missing := by
  unfold forecastSettlement at h
  split at h
  next heq =>
    obtain rfl := Option.some.inj h
    rw [heq]
    exact ⟨rfl, _, _, rfl⟩
  next => exact absurd h (by simp)

theorem byKey_forecastSettlement : Patch.ByKey (L.filterMap forecastSettlement) :=
  .filterMap (fun _ _ h => (forecastSettlement_eq h).2) L

/-- **No snapshot is taken of a settled forecast** by a later chunk. -/
theorem merges_forecasts (hsound : LogSound (L ++ M)) :
    (forecastsBatch r₁ (queryFilter L)).Merges (forecastsBatch r₂ (queryFilter M))
      (forecastsBatch (r₁.followed r₂ L M) (queryFilter (L ++ M))) := by
  have happend : (queryFilter (L ++ M) .forecastSettled).filterMap forecastSettlement =
      (queryFilter L .forecastSettled).filterMap forecastSettlement ++
        (queryFilter M .forecastSettled).filterMap forecastSettlement := by
    rw [queryFilter_append, List.filterMap_append]
  refine Batch.merges_snapshots (touchedIds_nodup _) (touchedIds_nodup _) (touchedIds_nodup _)
    (fun k => ?_) (byKey_forecastSettlement.append byKey_forecastSettlement)
    (fun s hs => happend ▸ hs) (fun k row => by rw [happend]) (fun s hs hM => ?_)
    (fun k _ hM => ?_) (fun k hM hL => ?_) (fun k hL hM => ?_)
  · simp only [mem_touchedForecastIds]
    exact exists_or_append
  · obtain ⟨log, hlog, hdecode⟩ := List.mem_filterMap.mp hs
    obtain ⟨log', hlog', hid⟩ := mem_touchedForecastIds.mp hM
    exact (List.pairwise_append.mp hsound.forecasts).2.2 log (mem_queryFilter.mp hlog).1 log' hlog'
      s.key (forecastSettlement_eq hdecode).1 hid
  · simp only [forecastSnapshot, Reads.followed, if_neg hM]
  · simp only [forecastSnapshot, Reads.followed, if_pos hM, if_neg hL]
  · simp only [forecastSnapshot, Reads.followed, if_pos hM, if_pos hL,
      nullIfZero_ite, Option.map_none, Option.getD_none, Option.map_some, Option.getD_some,
      Option.none_or]

theorem challengeResolution_eq {log : EventLog} {s : Patch ℕ ChallengeView String}
    (h : challengeResolution log = some s) : log.event.closedChallengeId? = some s.key ∧
      ∃ status resolutionHash payoutAmount,
        s = applyChallengeResolution s.key status resolutionHash payoutAmount := by
  unfold challengeResolution at h
  split at h
  next heq =>
    obtain rfl := Option.some.inj h
    rw [heq]
    exact ⟨rfl, _, _, _, rfl⟩
  next => exact absurd h (by simp)

theorem challengeWithdrawal_eq {log : EventLog} {s : Patch ℕ ChallengeView String}
    (h : challengeWithdrawal log = some s) : log.event.closedChallengeId? = some s.key ∧
      ∃ refundedAmount, s = applyChallengeWithdrawal s.key refundedAmount := by
  unfold challengeWithdrawal at h
  split at h
  next heq =>
    obtain rfl := Option.some.inj h
    rw [heq]
    exact ⟨rfl, _, rfl⟩
  next => exact absurd h (by simp)

theorem byKey_challengeResolution : Patch.ByKey (L.filterMap challengeResolution) :=
  .filterMap (fun _ _ h => by
    obtain ⟨-, _, _, _, heq⟩ := challengeResolution_eq h
    exact ⟨_, _, heq⟩) L

theorem byKey_challengeWithdrawal : Patch.ByKey (L.filterMap challengeWithdrawal) :=
  .filterMap (fun _ _ h => by
    obtain ⟨-, _, heq⟩ := challengeWithdrawal_eq h
    exact ⟨_, _, heq⟩) L

/-- Resolving and withdrawing write different columns. -/
theorem challenge_patches_comm (row : ChallengeView) :
    Patch.apply k (M.filterMap challengeResolution)
        (Patch.apply k (L.filterMap challengeWithdrawal) row) =
      Patch.apply k (L.filterMap challengeWithdrawal)
        (Patch.apply k (M.filterMap challengeResolution) row) := by
  refine Patch.apply_swap (fun s hs s' hs' row => ?_) row
  obtain ⟨_, -, h⟩ := List.mem_filterMap.mp hs
  obtain ⟨_, -, h'⟩ := List.mem_filterMap.mp hs'
  obtain ⟨-, _, _, _, heq⟩ := challengeResolution_eq h
  obtain ⟨-, _, heq'⟩ := challengeWithdrawal_eq h'
  rw [heq, heq']
  simp only [applyChallengeResolution, applyChallengeWithdrawal, Patch.byKey]
  split <;> split <;> rfl

variable (r₁) in
theorem closed_of_mem_challengePatches {s : Patch ℕ ChallengeView String}
    (h : s ∈ (challengesBatch r₁ (queryFilter L)).patches) :
    ∃ log ∈ L, log.event.closedChallengeId? = some s.key := by
  rcases List.mem_append.mp h with h | h
  · obtain ⟨log, hlog, hdecode⟩ := List.mem_filterMap.mp h
    exact ⟨log, (mem_queryFilter.mp hlog).1, (challengeResolution_eq hdecode).1⟩
  · obtain ⟨log, hlog, hdecode⟩ := List.mem_filterMap.mp h
    exact ⟨log, (mem_queryFilter.mp hlog).1, (challengeWithdrawal_eq hdecode).1⟩

/-- **No snapshot is taken of a closed challenge** by a later chunk. -/
theorem merges_challenges (hsound : LogSound (L ++ M)) :
    (challengesBatch r₁ (queryFilter L)).Merges (challengesBatch r₂ (queryFilter M))
      (challengesBatch (r₁.followed r₂ L M) (queryFilter (L ++ M))) := by
  have hkey : ∀ L : List EventLog, Patch.ByKey (challengesBatch r₁ (queryFilter L)).patches :=
    fun _ => byKey_challengeResolution.append byKey_challengeWithdrawal
  refine Batch.merges_snapshots (touchedIds_nodup _) (touchedIds_nodup _) (touchedIds_nodup _)
    (fun k => ?_) ((hkey L).append (hkey M)) (fun s hs => ?_) (fun k row => ?_)
    (fun s hs hM => ?_) (fun k _ hM => ?_) (fun k hM hL => ?_) (fun k hL hM => ?_)
  · simp only [mem_touchedChallengeIds]
    exact exists_or_append
  · simp only [queryFilter_append, List.filterMap_append, List.mem_append] at hs ⊢
    tauto
  · simp only [queryFilter_append, List.filterMap_append, Patch.apply_append]
    rw [challenge_patches_comm]
  · obtain ⟨log, hlog, hclosed⟩ := closed_of_mem_challengePatches r₁ hs
    obtain ⟨log', hlog', hid⟩ := mem_touchedChallengeIds.mp hM
    exact (List.pairwise_append.mp hsound.challenges).2.2 log hlog log' hlog' s.key hclosed hid
  · simp only [challengeSnapshot, Reads.followed, if_neg hM]
  · simp only [challengeSnapshot, Reads.followed, if_pos hM]
  · simp only [challengeSnapshot, Reads.followed, if_pos hM, Option.map_none, Option.getD_none,
      Option.map_some, Option.getD_some, Option.none_or]

theorem appealAdjudication_eq {log : EventLog} {s : Patch ℕ AppealView String}
    (h : appealAdjudication log = some s) :
    log.event.adjudicatedAppealId? = some s.key ∧ ∃ f missing, s = .byKey s.key f missing := by
  unfold appealAdjudication at h
  split at h
  next heq =>
    obtain rfl := Option.some.inj h
    rw [heq]
    exact ⟨rfl, _, _, rfl⟩
  next => exact absurd h (by simp)

theorem byKey_appealAdjudication : Patch.ByKey (L.filterMap appealAdjudication) :=
  .filterMap (fun _ _ h => (appealAdjudication_eq h).2) L

/-- **No snapshot is taken of an adjudicated appeal** by a later chunk. -/
theorem merges_appeals (hsound : LogSound (L ++ M)) :
    (appealsBatch r₁ (queryFilter L)).Merges (appealsBatch r₂ (queryFilter M))
      (appealsBatch (r₁.followed r₂ L M) (queryFilter (L ++ M))) := by
  have happend : (queryFilter (L ++ M) .appealAdjudicated).filterMap appealAdjudication =
      (queryFilter L .appealAdjudicated).filterMap appealAdjudication ++
        (queryFilter M .appealAdjudicated).filterMap appealAdjudication := by
    rw [queryFilter_append, List.filterMap_append]
  refine Batch.merges_snapshots (touchedIds_nodup _) (touchedIds_nodup _) (touchedIds_nodup _)
    (fun k => ?_) (byKey_appealAdjudication.append byKey_appealAdjudication)
    (fun s hs => happend ▸ hs) (fun k row => by rw [happend]) (fun s hs hM => ?_)
    (fun k _ hM => ?_) (fun k hM hL => ?_) (fun k hL hM => ?_)
  · simp only [mem_touchedAppealIds]
    exact exists_or_append
  · obtain ⟨log, hlog, hdecode⟩ := List.mem_filterMap.mp hs
    obtain ⟨log', hlog', hid⟩ := mem_touchedAppealIds.mp hM
    exact (List.pairwise_append.mp hsound.appeals).2.2 log (mem_queryFilter.mp hlog).1 log' hlog'
      s.key (appealAdjudication_eq hdecode).1 hid
  · simp only [appealSnapshot, Reads.followed, if_neg hM]
  · simp only [appealSnapshot, Reads.followed, if_pos hM]
  · simp only [appealSnapshot, Reads.followed, if_pos hM, Option.map_none, Option.getD_none,
      Option.map_some, Option.getD_some, Option.none_or]

/-! ### The whole chunk -/

/-- **Two chunks are one.** -/
theorem applyChunk_append (hsound : LogSound (L ++ M))
    (h₁ : applyChunk r₁ (queryFilter L) .empty = .ok t)
    (h₂ : applyChunk r₂ (queryFilter M) t = .ok t') :
    applyChunk (r₁.followed r₂ L M) (queryFilter (L ++ M)) .empty = .ok t' := by
  obtain ⟨a₁, a₂, a₃, a₄, a₅, a₆, a₇, a₈, a₉, a₁₀⟩ := applyChunk_eq_ok.mp h₁
  obtain ⟨b₁, b₂, b₃, b₄, b₅, b₆, b₇, b₈, b₉, b₁₀⟩ := applyChunk_eq_ok.mp h₂
  exact applyChunk_eq_ok.mpr
    ⟨(merges_claims hsound).run a₁ b₁, merges_artifacts.run a₂ b₂, merges_replications.run a₃ b₃,
      (merges_resolutionDecisions hsound).run a₄ b₄, merges_checkpoints.run a₅ b₅,
      merges_agents.run a₆ b₆, merges_agentControllers.run a₇ b₇,
      (merges_forecasts hsound).run a₈ b₈, (merges_challenges hsound).run a₉ b₉,
      (merges_appeals hsound).run a₁₀ b₁₀⟩

end ScientificProtocol.Indexer
