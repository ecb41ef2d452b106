import ScientificProtocol.Indexer.Merging
import ScientificProtocol.System.World

/-!
# The getters a chunk asks

`applyChunk` asks getters of the contracts about what the events of a chunk name, each in
a call of its own, and each call is answered by the state of the chain at that moment
(`ScientificProtocol.Indexer.Getter.read`). The rows of the chunk depend on nothing else
(`ScientificProtocol.Indexer.applyChunk_congr`); of what a getter answers they depend on
the columns of its table alone, and on the status of a new claim only if no event of the
chunk moves it.
-/

namespace ScientificProtocol.Indexer

open Evm Sql

/-- A call of a getter. -/
inductive Getter where
  | getClaim (claimId : ℕ)
  | getResolutionDecision (decisionId : ℕ)
  | getAgent (agentId : ℕ)
  | getForecast (forecastId : ℕ)
  | getChallenge (challengeId : ℕ)
  | getAppeal (appealId : ℕ)
  deriving DecidableEq

/-- What a getter answers in some state of the chain, noted down. Half of the getters revert
if there is no such record. -/
def Getter.read (w : World) (r : Reads) : Getter → Tx Revert Reads
  | .getClaim k => do
    let record ← w.claimRegistry.getClaim k
    return { r with getClaim := Function.update r.getClaim k record }
  | .getResolutionDecision k => do
    let record ← w.claimRegistry.getResolutionDecision k
    return { r with getResolutionDecision := Function.update r.getResolutionDecision k record }
  | .getAgent k => do
    let record ← w.agentRegistry.getAgent k
    return { r with getAgent := Function.update r.getAgent k record }
  | .getForecast k =>
    return { r with
      getForecast := Function.update r.getForecast k (w.epistemicMarket.getForecast k) }
  | .getChallenge k =>
    return { r with
      getChallenge := Function.update r.getChallenge k (w.epistemicMarket.getChallenge k) }
  | .getAppeal k =>
    return { r with getAppeal := Function.update r.getAppeal k (w.appealsRegistry.getAppeal k) }

/-- The calls a chunk makes. -/
def getters (events : ChunkEvents) : List Getter :=
  ((events .claimCreated).filterMap (·.event.createdClaimId?)).map .getClaim ++
    ((events .resolutionDecisionRecorded).filterMap (·.event.decisionId?)).map
      .getResolutionDecision ++
    (touchedAgentIds events).map .getAgent ++
    (touchedForecastIds events).map .getForecast ++
    (touchedChallengeIds events).map .getChallenge ++
    (touchedAppealIds events).map .getAppeal

/-- The event that makes a chunk ask. -/
def ChainEvent.asks (e : ChainEvent) : Getter → Prop
  | .getClaim k => e.createdClaimId? = some k
  | .getResolutionDecision k => e.decisionId? = some k
  | .getAgent k => e.agentId? = some k
  | .getForecast k => e.forecastId? = some k
  | .getChallenge k => e.challengeId? = some k
  | .getAppeal k => e.appealId? = some k

/-- All the answers of a state of the chain. -/
def Reads.ofWorld (w : World) : Reads where
  getClaim := w.claimRegistry.claims
  getResolutionDecision := w.claimRegistry.decisions
  getAgent := w.agentRegistry.agents
  getForecast := w.epistemicMarket.forecasts
  getChallenge := w.epistemicMarket.challenges
  getAppeal := w.appealsRegistry.appeals

/-- Two answers that cannot be told apart in the rows of a chunk of logs. -/
def Getter.Same (L : List EventLog) (r r' : Reads) : Getter → Prop
  | .getClaim k => (r.getClaim k).revisionOfClaimId = (r'.getClaim k).revisionOfClaimId ∧
    ((r.getClaim k).status = (r'.getClaim k).status ∨
      ∃ log ∈ L, log.event.movedClaimId? = some k)
  | .getResolutionDecision k =>
    (r.getResolutionDecision k).createdAt = (r'.getResolutionDecision k).createdAt
  | .getAgent k => agentSnapshot r k = agentSnapshot r' k
  | .getForecast k => forecastSnapshot r k = forecastSnapshot r' k
  | .getChallenge k => challengeSnapshot r k = challengeSnapshot r' k
  | .getAppeal k => appealSnapshot r k = appealSnapshot r' k

/-- Two answers that are the same record. -/
def Getter.SameRecord (r r' : Reads) : Getter → Prop
  | .getClaim k => r.getClaim k = r'.getClaim k
  | .getResolutionDecision k => r.getResolutionDecision k = r'.getResolutionDecision k
  | .getAgent k => r.getAgent k = r'.getAgent k
  | .getForecast k => r.getForecast k = r'.getForecast k
  | .getChallenge k => r.getChallenge k = r'.getChallenge k
  | .getAppeal k => r.getAppeal k = r'.getAppeal k

variable {L M : List EventLog} {r r' r'' : Reads} {g : Getter}

theorem mem_getters :
    g ∈ getters (queryFilter L) ↔ ∃ log ∈ L, log.event.asks g := by
  have hfilter : ∀ {filter : EventFilter} {idOf : ChainEvent → Option ℕ} {k : ℕ},
      (∀ e, idOf e = some k → e.filter? = some filter) →
      ((∃ log ∈ queryFilter L filter, idOf log.event = some k) ↔
        ∃ log ∈ L, idOf log.event = some k) := by
    intro filter idOf k h
    refine exists_congr fun log => ?_
    rw [mem_queryFilter]
    exact ⟨fun ⟨hlog, hid⟩ => ⟨hlog.1, hid⟩, fun ⟨hlog, hid⟩ => ⟨⟨hlog, h _ hid⟩, hid⟩⟩
  cases g with
  | getClaim k =>
    have hone := @hfilter .claimCreated ChainEvent.createdClaimId? k fun e h => by
      unfold ChainEvent.createdClaimId? at h
      split at h
      · rfl
      · cases h
    simpa [getters, ChainEvent.asks] using hone
  | getResolutionDecision k =>
    have hone := @hfilter .resolutionDecisionRecorded ChainEvent.decisionId? k fun e h => by
      unfold ChainEvent.decisionId? at h
      split at h
      · rfl
      · cases h
    simpa [getters, ChainEvent.asks] using hone
  | getAgent k => simpa [getters, ChainEvent.asks] using mem_touchedAgentIds
  | getForecast k => simpa [getters, ChainEvent.asks] using mem_touchedForecastIds
  | getChallenge k => simpa [getters, ChainEvent.asks] using mem_touchedChallengeIds
  | getAppeal k => simpa [getters, ChainEvent.asks] using mem_touchedAppealIds

theorem Getter.SameRecord.same (h : g.SameRecord r r') (L : List EventLog) : g.Same L r r' := by
  cases g <;> unfold SameRecord at h
  case getClaim => exact ⟨by rw [h], .inl (by rw [h])⟩
  all_goals
    simp only [Same, agentSnapshot, forecastSnapshot, challengeSnapshot, appealSnapshot, h]

theorem Getter.SameRecord.trans (h : g.SameRecord r r') (h' : g.SameRecord r' r'') :
    g.SameRecord r r'' := by
  cases g <;> exact Eq.trans h h'

theorem Getter.Same.symm (h : g.Same L r r') : g.Same L r' r := by
  cases g with
  | getClaim k => exact ⟨h.1.symm, h.2.imp_left Eq.symm⟩
  | _ => exact Eq.symm h

theorem Getter.Same.trans (h : g.Same L r r') (h' : g.Same L r' r'') : g.Same L r r'' := by
  cases g with
  | getClaim k =>
    refine ⟨h.1.trans h'.1, ?_⟩
    rcases h.2 with heq | hmoved
    · exact h'.2.imp_left heq.trans
    · exact .inr hmoved
  | _ => exact Eq.trans h h'

theorem Getter.Same.mono (h : g.Same L r r') (hsub : ∀ log ∈ L, log ∈ M) : g.Same M r r' := by
  cases g with
  | getClaim k => exact ⟨h.1, h.2.imp_right fun ⟨log, hlog, hid⟩ => ⟨log, hsub log hlog, hid⟩⟩
  | _ => exact h

/-! ### What is read is what is there -/

/-- Noting down what a state of the chain has. -/
def Reads.note (r : Reads) (w : World) : Getter → Reads
  | .getClaim k =>
    { r with getClaim := Function.update r.getClaim k (w.claimRegistry.claims k) }
  | .getResolutionDecision k =>
    { r with getResolutionDecision :=
        Function.update r.getResolutionDecision k (w.claimRegistry.decisions k) }
  | .getAgent k => { r with getAgent := Function.update r.getAgent k (w.agentRegistry.agents k) }
  | .getForecast k =>
    { r with getForecast := Function.update r.getForecast k (w.epistemicMarket.forecasts k) }
  | .getChallenge k =>
    { r with getChallenge := Function.update r.getChallenge k (w.epistemicMarket.challenges k) }
  | .getAppeal k =>
    { r with getAppeal := Function.update r.getAppeal k (w.appealsRegistry.appeals k) }

theorem Getter.eq_note_of_read {w : World} (h : g.read w r = .ok r') : r' = r.note w g := by
  cases g <;>
    simp only [read, ClaimRegistry.getClaim, ClaimRegistry.requireExistingClaim,
      ClaimRegistry.getResolutionDecision, AgentRegistry.getAgent,
      AgentRegistry.requireExistingAgent, EpistemicMarket.getForecast,
      EpistemicMarket.getChallenge, AppealsRegistry.getAppeal, bind_eq_ok, pure_eq_ok,
      Except.ok.injEq, exists_and_left, revertIf_eq_ok] at h
  case getForecast | getChallenge | getAppeal => exact h.symm
  all_goals
    obtain ⟨_, ⟨_, _, rfl⟩, rfl⟩ := h
    rfl

/-- What a getter answers is noted under it. -/
theorem Getter.sameRecord_of_read {w : World} (h : g.read w r = .ok r') :
    g.SameRecord r' (.ofWorld w) := by
  obtain rfl := Getter.eq_note_of_read h
  cases g <;> exact Function.update_self ..

/-- What the others have answered stays. -/
theorem Getter.sameRecord_of_read_of_ne {w : World} {g' : Getter} (h : g.read w r = .ok r')
    (hne : g' ≠ g) : g'.SameRecord r' r := by
  obtain rfl := Getter.eq_note_of_read h
  clear h
  -- Another getter has another list of answers, or it was asked about another record.
  cases g <;> cases g' <;>
    first
    | rfl
    | exact Function.update_of_ne (fun heq => hne (by rw [heq])) _ _

/-! ### What the rows depend on -/

/-- The row of a claim, whatever its status. -/
def ClaimView.clear (row : ClaimView) : ClaimView := { row with status := .draft }

theorem upsertClaim_value (claim : ClaimView) (row : Option ClaimView) :
    (upsertClaim claim).value row = claim := by
  cases row <;> rfl

/-- **The status that was read is not seen** if it is moved. -/
theorem claimStatus_hides {patches : List (Patch ℕ ClaimView String)} {k : ℕ}
    (hpatches : ∀ s ∈ patches, ∃ claimId status, s = updateClaimStatus claimId status)
    (hmoved : ∃ s ∈ patches, s.key = k) {row row' : ClaimView} (h : row.clear = row'.clear) :
    Patch.apply k patches row = Patch.apply k patches row' := by
  induction patches generalizing row row' with
  | nil => exact absurd hmoved (by simp)
  | cons s patches ih =>
    obtain ⟨claimId, status, rfl⟩ := hpatches s List.mem_cons_self
    have ih := @ih fun s' hs' => hpatches s' (List.mem_cons_of_mem _ hs')
    rw [Patch.apply_cons, Patch.apply_cons]
    by_cases hkey : claimId = k
    · have hset : ∀ row : ClaimView, (updateClaimStatus claimId status).set k row =
          { row.clear with status } := fun row => if_pos hkey.symm
      rw [hset, hset, h]
    · have hset : ∀ row, (updateClaimStatus claimId status).set k row = row :=
        fun row => if_neg (Ne.symm hkey)
      obtain ⟨s', hs', hkey'⟩ := hmoved
      have hmem : s' ∈ patches := by
        rcases List.mem_cons.mp hs' with rfl | hmem
        · exact absurd hkey' hkey
        · exact hmem
      rw [hset, hset]
      exact ih ⟨s', hmem, hkey'⟩ h

theorem exists_claimStatus {k : ℕ} (h : ∃ log ∈ L, log.event.movedClaimId? = some k) :
    ∃ s ∈ (queryFilter L .claimStatusUpdated).filterMap claimStatus, s.key = k := by
  obtain ⟨log, hlog, hid⟩ := h
  unfold ChainEvent.movedClaimId? at hid
  split at hid
  next claimId _ newStatus _ heq =>
    obtain rfl := Option.some.inj hid
    refine ⟨updateClaimStatus claimId newStatus, List.mem_filterMap.mpr ⟨log, ?_, ?_⟩, rfl⟩
    · exact mem_queryFilter.mpr ⟨hlog, by rw [heq]; rfl⟩
    · rw [claimStatus, heq]
  next => exact absurd hid (by simp)

theorem map_apply_of_clear {k : ℕ}
    (hmoved : ∃ s ∈ (queryFilter L .claimStatusUpdated).filterMap claimStatus, s.key = k)
    {row row' : Option ClaimView} (h : row.map ClaimView.clear = row'.map ClaimView.clear) :
    row.map (Patch.apply k ((queryFilter L .claimStatusUpdated).filterMap claimStatus)) =
      row'.map (Patch.apply k ((queryFilter L .claimStatusUpdated).filterMap claimStatus)) := by
  have hpatches : ∀ s ∈ (queryFilter L .claimStatusUpdated).filterMap claimStatus,
      ∃ claimId status, s = updateClaimStatus claimId status := by
    intro s hs
    obtain ⟨log, -, hdecode⟩ := List.mem_filterMap.mp hs
    unfold claimStatus at hdecode
    split at hdecode
    next => exact ⟨_, _, (Option.some.inj hdecode).symm⟩
    next => exact absurd hdecode (by simp)
  cases row <;> cases row' <;>
    simp only [Option.map_none, Option.map_some, Option.some.injEq, reduceCtorEq] at h ⊢
  exact claimStatus_hides hpatches hmoved h

/-- What is decoded as a new claim, for any answers, and what is not. -/
theorem createdClaim_cases (r r' : Reads) (log : EventLog) :
    (log.event.createdClaimId? = none ∧ createdClaim r log = none ∧ createdClaim r' log = none) ∨
      ∃ view view', log.event.createdClaimId? = some view.claimId ∧
        view'.claimId = view.claimId ∧ createdClaim r log = some view ∧
        createdClaim r' log = some view' ∧
        ((r.getClaim view.claimId).revisionOfClaimId =
            (r'.getClaim view.claimId).revisionOfClaimId → view.clear = view'.clear) ∧
        ((r.getClaim view.claimId).revisionOfClaimId =
            (r'.getClaim view.claimId).revisionOfClaimId →
          (r.getClaim view.claimId).status = (r'.getClaim view.claimId).status → view = view') := by
  obtain ⟨blockNumber, event⟩ := log
  by_cases hcreated : ∃ claimId author domainId metadataHash resolutionModule bond,
      event = .claimRegistry
        (.claimCreated claimId author domainId metadataHash resolutionModule bond)
  · obtain ⟨claimId, author, domainId, metadataHash, resolutionModule, bond, rfl⟩ := hcreated
    refine .inr ⟨_, _, rfl, ?_, rfl, rfl, fun h => ?_, fun h h' => ?_⟩
    · rfl
    · simp only [ClaimView.clear, h]
    · simp only [h, h']
  · refine .inl ?_
    rcases event with event | event | event | event | event | event | event
    all_goals try exact ⟨rfl, rfl, rfl⟩
    cases event
    all_goals first
      | exact ⟨rfl, rfl, rfl⟩
      | exact absurd ⟨_, _, _, _, _, _, rfl⟩ hcreated

variable (r r') in
/-- Two readings of the same logs: the row of a claim depends on the readings of that
claim. -/
theorem createdClaims_map {β : Type} (f : ClaimView → β) {k : ℕ} {row row' : Option ClaimView}
    (h : ∀ log ∈ L, log.event.createdClaimId? = some k →
      (createdClaim r log).map f = (createdClaim r' log).map f)
    (hrow : row.map f = row'.map f) :
    (Put.apply k ((L.filterMap (createdClaim r)).map upsertClaim) row).map f =
      (Put.apply k ((L.filterMap (createdClaim r')).map upsertClaim) row').map f := by
  induction L generalizing row row' with
  | nil => exact hrow
  | cons log L ih =>
    have ih := fun {row row'} => @ih row row' fun log' hlog' =>
      h log' (List.mem_cons_of_mem _ hlog')
    rcases createdClaim_cases r r' log with
      ⟨-, hnone, hnone'⟩ | ⟨view, view', hid, hkey, hview, hview', -⟩
    · rw [List.filterMap_cons_none hnone, List.filterMap_cons_none hnone']
      exact ih hrow
    · rw [List.filterMap_cons_some hview, List.filterMap_cons_some hview', List.map_cons,
        List.map_cons]
      by_cases heq : view.claimId = k
      · subst heq
        have hsame := h log List.mem_cons_self hid
        rw [hview, hview'] at hsame
        have hput' := Put.apply_cons_self (upsertClaim view')
        rw [show (upsertClaim view').key = view.claimId from hkey] at hput'
        rw [hput', show Put.apply view.claimId (upsertClaim view :: _) row = _ from
          Put.apply_cons_self (upsertClaim view) _ row, upsertClaim_value, upsertClaim_value]
        exact ih hsame
      · rw [Put.apply_cons_of_ne (s := upsertClaim view) heq,
          Put.apply_cons_of_ne (s := upsertClaim view') (hkey.trans_ne heq)]
        exact ih hrow

theorem claims_congr {t : Table ℕ ClaimView}
    (h : ∀ log ∈ L, ∀ k, log.event.createdClaimId? = some k → (Getter.getClaim k).Same L r r')
    (hrun : (claimsBatch r (queryFilter L)).run .empty = .ok t) :
    (claimsBatch r' (queryFilter L)).run .empty = .ok t := by
  refine Batch.run_congr byKey_claimStatus (fun k => ?_) hrun
  by_cases hmoved : ∃ log ∈ L, log.event.movedClaimId? = some k
  -- The status is moved, and only the rest of the row counts.
  · have hclear := createdClaims_map (L := queryFilter L .claimCreated) r r'
      ClaimView.clear (k := k) (fun log hlog hid => by
        obtain ⟨hrevision, -⟩ := h log (mem_queryFilter.mp hlog).1 k hid
        rcases createdClaim_cases r r' log with
          ⟨hnone, -⟩ | ⟨view, view', hid', -, hview, hview', hclear, -⟩
        · exact absurd (hnone.symm.trans hid) (by simp)
        · obtain rfl := Option.some.inj (hid'.symm.trans hid)
          rw [hview, hview', Option.map_some, Option.map_some, hclear hrevision])
      (show Option.map ClaimView.clear none = Option.map ClaimView.clear none from rfl)
    exact map_apply_of_clear (exists_claimStatus hmoved) hclear
  · have hsame := createdClaims_map (L := queryFilter L .claimCreated) r r'
      id (k := k) (fun log hlog hid => by
        obtain ⟨hrevision, hstatus⟩ := h log (mem_queryFilter.mp hlog).1 k hid
        rcases createdClaim_cases r r' log with
          ⟨hnone, -⟩ | ⟨view, view', hid', -, hview, hview', -, hview_eq⟩
        · exact absurd (hnone.symm.trans hid) (by simp)
        · obtain rfl := Option.some.inj (hid'.symm.trans hid)
          rw [hview, hview', hview_eq hrevision (hstatus.resolve_right hmoved)])
      (show Option.map id none = Option.map id none from rfl)
    exact congrArg _ (by simpa only [Option.map_id, id_eq] using hsame)

/-- **The rows of a chunk depend on what was asked**, and of the answers on what can be
told apart. -/
theorem applyChunk_congr {t : Tables} (h : ∀ log ∈ L, ∀ g, log.event.asks g → g.Same L r r')
    (hrun : applyChunk r (queryFilter L) .empty = .ok t) :
    applyChunk r' (queryFilter L) .empty = .ok t := by
  obtain ⟨h₁, h₂, h₃, h₄, h₅, h₆, h₇, h₈, h₉, h₁₀⟩ := applyChunk_eq_ok.mp hrun
  have hdecisions : (queryFilter L .resolutionDecisionRecorded).filterMap (resolutionDecisionOf r)
      = (queryFilter L .resolutionDecisionRecorded).filterMap (resolutionDecisionOf r') :=
    resolutionDecisions_congr fun log hlog k hid => h log hlog (.getResolutionDecision k) hid
  refine applyChunk_eq_ok.mpr ⟨claims_congr (fun log hlog k => h log hlog (.getClaim k)) h₁, h₂,
    h₃, ?_, h₅, ?_, h₇, ?_, ?_, ?_⟩
  · rwa [resolutionDecisionsBatch, ← hdecisions]
  · rwa [agentsBatch, ← List.map_congr_left fun k hk => by
      obtain ⟨log, hlog, hid⟩ := mem_touchedAgentIds.mp hk
      exact congrArg upsertAgent (h log hlog (.getAgent k) hid)]
  · rwa [forecastsBatch, ← List.map_congr_left fun k hk => by
      obtain ⟨log, hlog, hid⟩ := mem_touchedForecastIds.mp hk
      exact congrArg upsertForecast (h log hlog (.getForecast k) hid)]
  · rwa [challengesBatch, ← List.map_congr_left fun k hk => by
      obtain ⟨log, hlog, hid⟩ := mem_touchedChallengeIds.mp hk
      exact congrArg upsertChallenge (h log hlog (.getChallenge k) hid)]
  · rwa [appealsBatch, ← List.map_congr_left fun k hk => by
      obtain ⟨log, hlog, hid⟩ := mem_touchedAppealIds.mp hk
      exact congrArg upsertAppeal (h log hlog (.getAppeal k) hid)]

end ScientificProtocol.Indexer
