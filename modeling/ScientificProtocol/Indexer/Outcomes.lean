import ScientificProtocol.Indexer.AppealReports
import ScientificProtocol.Indexer.MarketReports
import ScientificProtocol.Indexer.Mirror

/-!
# How everything ended

The rows of forecasts, challenges and appeals are snapshots of records, with columns besides
that only the log of an end fills: the verdict, the payout, the refund. A log is of its
block, and a snapshot of some block after it, and an upsert and a statement that looks for
its row write them one after the other. **They agree**
(`ScientificProtocol.Indexer.Sync.concludes`): in a caught-up read model a forecast has a
verdict exactly if it is settled, and it is the status of the decision it was settled by; a
challenge is resolved or withdrawn as its record says, and an appeal adjudicated; and what
was paid is what the contracts pay for such an end.
-/

namespace ScientificProtocol.Indexer

open Evm Sql EpistemicMarket AppealsRegistry

/-! ### What the rows are to be -/

/-- A forecast, with the verdict it has got. -/
def forecastColumns (w : World) (k : ℕ) : ForecastView :=
  let record := w.epistemicMarket.forecasts k
  let finalStatus :=
    if record.resolutionDecisionId = 0 then .pending
    else (w.claimRegistry.decisions record.resolutionDecisionId).status
  { forecastSnapshot (.ofWorld w) k with
    finalStatus := if record.settled then some finalStatus else none
    matched :=
      if record.settled then
        some (record.revealed && forecastMatches record.direction finalStatus)
      else none }

/-- A challenge, with the end it has come to. A resolution has a hash, if only zero. -/
def challengeColumns (w : World) (k : ℕ) : ChallengeView :=
  let record := w.epistemicMarket.challenges k
  let snapshot := challengeSnapshot (.ofWorld w) k
  { snapshot with
    resolutionHash :=
      if record.status = .«open» ∨ record.status = .withdrawn then snapshot.resolutionHash
      else some record.resolutionHash
    refundedAmount := if record.status = .withdrawn then some record.bondAmount else none }

/-- An appeal, with its adjudication. -/
def appealColumns (w : World) (k : ℕ) : AppealView :=
  let record := w.appealsRegistry.appeals k
  let snapshot := appealSnapshot (.ofWorld w) k
  if record.adjudicatedAt = 0 then snapshot
  else
    { snapshot with
      adjudicationHash := some record.adjudicationHash
      adjudicationURI := some record.adjudicationURI
      refundedAmount := some (if forfeits record.status then 0 else record.bondAmount) }

/-- Forgetting what a forecast was paid, which its record does not have. -/
def ForecastView.unpaid (row : ForecastView) : ForecastView := { row with payoutAmount := none }

/-- Forgetting what a challenge was paid, which its record does not have. -/
def ChallengeView.unpaid (row : ChallengeView) : ChallengeView := { row with payoutAmount := none }

/-- A forecast is paid when it is settled, by whether it matches. -/
def ForecastView.Paid (row : ForecastView) : Prop :=
  row.payoutAmount.isSome = row.settled ∧ ∀ payoutAmount, row.payoutAmount = some payoutAmount →
    StakePaid row.stakeAmount row.resolutionDecisionId.isSome row.revealed
      (row.matched.getD false) payoutAmount

/-- A challenge is paid when it is resolved, by how. -/
def ChallengeView.Paid (row : ChallengeView) : Prop :=
  row.payoutAmount.isSome = decide (row.status ≠ .«open» ∧ row.status ≠ .withdrawn) ∧
    ∀ payoutAmount, row.payoutAmount = some payoutAmount →
      BondPaid row.bondAmount row.status payoutAmount

/-- **The tables say how everything ended.** -/
structure Concludes (w : World) (t : Tables) : Prop where
  forecasts : ∀ k, (t.forecasts k).map ForecastView.unpaid =
    if (w.epistemicMarket.forecasts k).forecastId = 0 then none else some (forecastColumns w k)
  forecasts_paid : ∀ k row, t.forecasts k = some row → row.Paid
  challenges : ∀ k, (t.challenges k).map ChallengeView.unpaid =
    if (w.epistemicMarket.challenges k).challengeId = 0 then none
    else some (challengeColumns w k)
  challenges_paid : ∀ k row, t.challenges k = some row → row.Paid
  appeals : ∀ k, t.appeals k =
    if (w.appealsRegistry.appeals k).appealId = 0 then none else some (appealColumns w k)

/-! ### Statements and reports -/

/-- The columns a verdict writes. -/
def writeVerdict (v : Verdict) (row : ForecastView) : ForecastView :=
  { row with
    resolutionDecisionId := (nullIfZero v.resolutionDecisionId).bind nullIfZero
    finalStatus := some v.finalStatus
    matched := some v.matched
    payoutAmount := some v.payoutAmount
    settled := true }

/-- The columns a closure writes. -/
def writeClosure (closure : Closure) (row : ChallengeView) : ChallengeView :=
  match closure with
  | .resolved status resolutionHash payoutAmount =>
    { row with
      status
      resolutionHash := some resolutionHash
      payoutAmount := some payoutAmount }
  | .withdrawn refundedAmount => { row with refundedAmount := some refundedAmount }

/-- The columns an adjudication writes. -/
def writeAdjudication (x : Adjudication) (row : AppealView) : AppealView :=
  { row with
    status := x.status
    adjudicationHash := some x.adjudicationHash
    adjudicationURI := some x.adjudicationURI
    refundedAmount := some x.refundedAmount }

section

variable {L : List EventLog} {k : ℕ}

/-- The reports the logs make. -/
def reported {β : Type} (report : ChainEvent → Option (ℕ × Option β)) (L : List EventLog) :
    List (ℕ × Option β) :=
  (L.map EventLog.event).filterMap report

theorem mem_reported {β : Type} {report : ChainEvent → Option (ℕ × Option β)}
    {word : ℕ × Option β} :
    word ∈ reported report L ↔ ∃ log ∈ L, report log.event = some word := by
  rw [reported, List.filterMap_map]
  exact List.mem_filterMap

/-- The records that are touched are those that are reported. -/
theorem touched_iff_reported {β : Type} {idOf : ChainEvent → Option ℕ}
    {report : ChainEvent → Option (ℕ × Option β)} (h : ∀ e, (report e).map Prod.fst = idOf e) :
    (∃ log ∈ L, idOf log.event = some k) ↔ ∃ b, (k, b) ∈ reported report L := by
  simp only [mem_reported]
  constructor
  · rintro ⟨log, hlog, hid⟩
    rw [← h] at hid
    obtain ⟨⟨k', b⟩, hreport, rfl⟩ := Option.map_eq_some_iff.mp hid
    exact ⟨b, log, hlog, hreport⟩
  · rintro ⟨b, log, hlog, hreport⟩
    exact ⟨log, hlog, by rw [← h, hreport]; rfl⟩

/-- **The statements are the reports**: each writes the end of its record, and each end is
written. -/
structure Writes {β ρ : Type} (reports : List (ℕ × Option β)) (write : β → ρ → ρ)
    (patches : List (Patch ℕ ρ String)) : Prop where
  sound : ∀ s ∈ patches, ∃ b, (s.key, some b) ∈ reports ∧ ∀ row, s.set s.key row = write b row
  complete : ∀ k b, (k, some b) ∈ reports → ∃ s ∈ patches, s.key = k

/-- A statement writes the end of a record, if it is decoded from the report of one. -/
theorem exists_reported {β ρ : Type} {filter : EventFilter}
    {decode : EventLog → Option (Patch ℕ ρ String)}
    {report : ChainEvent → Option (ℕ × Option β)} {write : β → ρ → ρ}
    (h : ∀ log s, decode log = some s → ∃ b, report log.event = some (s.key, some b) ∧
      ∀ row, s.set s.key row = write b row)
    {s : Patch ℕ ρ String} (hs : s ∈ (queryFilter L filter).filterMap decode) :
    ∃ b, (s.key, some b) ∈ reported report L ∧ ∀ row, s.set s.key row = write b row := by
  obtain ⟨log, hlog, hdecode⟩ := List.mem_filterMap.mp hs
  obtain ⟨b, hreport, hset⟩ := h log s hdecode
  exact ⟨b, mem_reported.mpr ⟨log, (mem_queryFilter.mp hlog).1, hreport⟩, hset⟩

theorem writes_forecasts (L : List EventLog) :
    Writes (reported ChainEvent.forecastReport? L) writeVerdict
      ((queryFilter L .forecastSettled).filterMap forecastSettlement) where
  sound s hs := by
    refine exists_reported (fun log s hdecode => ?_) hs
    unfold forecastSettlement at hdecode
    split at hdecode
    next heq =>
      obtain rfl := Option.some.inj hdecode
      rw [heq]
      exact ⟨⟨_, _, _, _⟩, rfl, fun row => if_pos rfl⟩
    next => exact absurd hdecode (by simp)
  complete k v hv := by
    obtain ⟨⟨block, event⟩, hlog, hreport⟩ := mem_reported.mp hv
    cases event with
    | epistemicMarket e => cases e with
      | forecastSettled =>
        obtain ⟨rfl, -⟩ := Prod.mk.inj (Option.some.inj hreport)
        exact ⟨_, List.mem_filterMap.mpr ⟨_, mem_queryFilter.mpr ⟨hlog, rfl⟩, rfl⟩, rfl⟩
      | _ => exact absurd hreport (by simp [ChainEvent.forecastReport?, Event.forecastReport?])
    | _ => exact absurd hreport (by simp [ChainEvent.forecastReport?])

theorem writes_challenges (r : Reads) (L : List EventLog) :
    Writes (reported ChainEvent.challengeReport? L) writeClosure
      (challengesBatch r (queryFilter L)).patches where
  sound s hs := by
    rcases List.mem_append.mp hs with hs | hs
    · refine exists_reported (fun log s hdecode => ?_) hs
      unfold challengeResolution at hdecode
      split at hdecode
      next heq =>
        obtain rfl := Option.some.inj hdecode
        rw [heq]
        exact ⟨.resolved _ _ _, rfl, fun row => if_pos rfl⟩
      next => exact absurd hdecode (by simp)
    · refine exists_reported (fun log s hdecode => ?_) hs
      unfold challengeWithdrawal at hdecode
      split at hdecode
      next heq =>
        obtain rfl := Option.some.inj hdecode
        rw [heq]
        exact ⟨.withdrawn _, rfl, fun row => if_pos rfl⟩
      next => exact absurd hdecode (by simp)
  complete k closure hclosure := by
    obtain ⟨⟨block, event⟩, hlog, hreport⟩ := mem_reported.mp hclosure
    cases event with
    | epistemicMarket e => cases e with
      | challengeResolved =>
        obtain ⟨rfl, -⟩ := Prod.mk.inj (Option.some.inj hreport)
        exact ⟨_, List.mem_append_left _
          (List.mem_filterMap.mpr ⟨_, mem_queryFilter.mpr ⟨hlog, rfl⟩, rfl⟩), rfl⟩
      | challengeWithdrawn =>
        obtain ⟨rfl, -⟩ := Prod.mk.inj (Option.some.inj hreport)
        exact ⟨_, List.mem_append_right _
          (List.mem_filterMap.mpr ⟨_, mem_queryFilter.mpr ⟨hlog, rfl⟩, rfl⟩), rfl⟩
      | _ => exact absurd hreport (by simp [ChainEvent.challengeReport?, Event.challengeReport?])
    | _ => exact absurd hreport (by simp [ChainEvent.challengeReport?])

theorem writes_appeals (L : List EventLog) :
    Writes (reported ChainEvent.appealReport? L) writeAdjudication
      ((queryFilter L .appealAdjudicated).filterMap appealAdjudication) where
  sound s hs := by
    refine exists_reported (fun log s hdecode => ?_) hs
    unfold appealAdjudication at hdecode
    split at hdecode
    next heq =>
      obtain rfl := Option.some.inj hdecode
      rw [heq]
      exact ⟨⟨_, _, _, _⟩, rfl, fun row => if_pos rfl⟩
    next => exact absurd hdecode (by simp)
  complete k x hx := by
    obtain ⟨⟨block, event⟩, hlog, hreport⟩ := mem_reported.mp hx
    cases event with
    | appealsRegistry e => cases e with
      | appealAdjudicated =>
        obtain ⟨rfl, -⟩ := Prod.mk.inj (Option.some.inj hreport)
        exact ⟨_, List.mem_filterMap.mpr ⟨_, mem_queryFilter.mpr ⟨hlog, rfl⟩, rfl⟩, rfl⟩
      | _ => exact absurd hreport (by simp [ChainEvent.appealReport?, Event.appealReport?])
    | _ => exact absurd hreport (by simp [ChainEvent.appealReport?])

end

/-! ### Rows -/

/-- **A table of snapshots**, as far as the reports go: no row, the snapshot, or the snapshot
with the end of the record written into it. -/
theorem row_cases {V β ρ : Type} {life : Life V β} {record record' : ℕ → V}
    {reports : List (ℕ × Option β)} (h : Reports life record reports record')
    (hbegun : ∀ k, ¬life.begun (record k)) (hended : ∀ k, ¬life.ended (record k))
    {keys : List ℕ} (hnodup : keys.Nodup) (hkeys : ∀ k, k ∈ keys ↔ ∃ b, (k, b) ∈ reports)
    {value : ℕ → Option ρ → ρ} {patches : List (Patch ℕ ρ String)}
    (hkey : Patch.ByKey patches) {write : β → ρ → ρ} (hwrites : Writes reports write patches)
    (hwrite : ∀ b row, write b (write b row) = write b row) {t : Table ℕ ρ}
    (hrun : (Batch.mk (keys.map fun key => ⟨key, value key⟩) patches).run .empty = .ok t)
    (k : ℕ) :
    (¬life.begun (record' k) ∧ t k = none) ∨
    (life.begun (record' k) ∧ ¬life.ended (record' k) ∧ t k = some (value k none)) ∨
    (life.begun (record' k) ∧ ∃ b, (k, some b) ∈ reports ∧ life.fits (record' k) b ∧
      t k = some (write b (value k none))) := by
  have hrow : t k = (if k ∈ keys then some (value k none) else none).map
      (Patch.apply k patches) :=
    (((Batch.run_eq_ok hkey.steady).mp hrun).2 k).trans
      (congrArg (Option.map _) (Put.apply_map_keys hnodup value k none))
  by_cases hexists : life.begun (record' k)
  · have hmem : k ∈ keys := (hkeys k).mpr ((h.begins k hexists).resolve_left (hbegun k))
    rw [if_pos hmem, Option.map_some] at hrow
    by_cases hend : life.ended (record' k)
    · obtain ⟨b, hb⟩ := (h.ends k hend).resolve_left (hended k)
      refine .inr (.inr ⟨hexists, b, hb, h.fits k b hb, ?_⟩)
      -- All the statements about the record write the one end it has.
      rw [hrow, hkey.apply_of_same (g := write b) (fun s hs hsk row => ?_) (hwrite b)
        (hwrites.complete k b hb)]
      obtain ⟨b', hb', hset⟩ := hwrites.sound s hs
      rw [hsk] at hb' hset
      rw [hset, h.once k b' b hb' hb]
    · refine .inr (.inl ⟨hexists, hend, ?_⟩)
      rw [hrow, hkey.apply_eq_self fun s hs heq => ?_]
      obtain ⟨b, hb, -⟩ := hwrites.sound s hs
      exact hend (life.ended_of_fits (h.fits k b (heq ▸ hb)))
  · have hnot : k ∉ keys := fun hmem => by
      obtain ⟨b, hb⟩ := (hkeys k).mp hmem
      exact hexists (h.begun _ hb)
    rw [if_neg hnot] at hrow
    exact .inl ⟨hexists, hrow⟩

section

variable {D : Deployment} {C : Chain D} {n : ℕ}

/-- Nothing has been written before the first block. -/
theorem Chain.blank (C : Chain D) (k : ℕ) :
    (C.world 0).epistemicMarket.forecasts k = default ∧
      (C.world 0).epistemicMarket.challenges k = default ∧
      (C.world 0).appealsRegistry.appeals k = default := by
  obtain ⟨now, hasRole, -, -, hdeployed⟩ := C.deployed
  rw [hdeployed]
  exact ⟨rfl, rfl, rfl⟩

/-- What is zero twice is zero once. -/
theorem nullIfZero_bind (value : ℕ) : (nullIfZero value).bind nullIfZero = nullIfZero value := by
  unfold nullIfZero
  split
  next => rfl
  next hne => exact if_neg hne

theorem isSome_nullIfZero (value : ℕ) : (nullIfZero value).isSome = decide (value ≠ 0) := by
  unfold nullIfZero
  split <;> simp [*]

/-- The row of a forecast. -/
theorem forecast_row {t : Table ℕ ForecastView}
    (h : (forecastsBatch (.ofWorld (C.world n)) (queryFilter (C.logs 0 n))).run .empty = .ok t)
    (k : ℕ) :
    ((C.world n).epistemicMarket.forecasts k).forecastId = 0 ∧ t k = none ∨
    ((C.world n).epistemicMarket.forecasts k).forecastId ≠ 0 ∧
      ∃ row, t k = some row ∧ row.unpaid = forecastColumns (C.world n) k ∧ row.Paid := by
  have hreachable := C.reachable 0
  have hemits := C.emits (Nat.zero_le n)
  have hcases := row_cases (hemits.forecastReports hreachable)
    (fun k => by rw [(C.blank k).1]; exact fun h => h rfl)
    (fun k => by rw [(C.blank k).1]; exact Bool.false_ne_true) (touchedIds_nodup _)
    (fun k => mem_touchedForecastIds.trans (touched_iff_reported map_fst_forecastReport?))
    byKey_forecastSettlement (writes_forecasts _) (fun _ _ => rfl) h k
  rcases hcases with ⟨hnone, hrow⟩ | ⟨hexists, hopen, hrow⟩ | ⟨hexists, v, hv, hfits, hrow⟩
  · exact .inl ⟨not_not.mp hnone, hrow⟩
  · have hopen : ((C.world n).epistemicMarket.forecasts k).settled = false :=
      Bool.eq_false_iff.mpr hopen
    refine .inr ⟨hexists, _, hrow, ?_, ?_, fun payoutAmount hpaid => ?_⟩
    · simp only [forecastColumns, hopen]
      rfl
    · exact hopen.symm
    · exact absurd hpaid.symm (Option.some_ne_none payoutAmount)
  · have hfits : v.Fits ((C.world n).epistemicMarket.forecasts k) := hfits
    have hstatus : v.finalStatus =
        if ((C.world n).epistemicMarket.forecasts k).resolutionDecisionId = 0 then .pending
        else ((C.world n).claimRegistry.decisions
          ((C.world n).epistemicMarket.forecasts k).resolutionDecisionId).status := by
      rw [hfits.named]
      split
      next hzero => exact hfits.undecided hzero
      next hd => exact (hemits.decided hreachable hv hd).2.symm
    have hrow : t k = some (writeVerdict v (forecastSnapshot (.ofWorld (C.world n)) k)) := hrow
    refine .inr ⟨hexists, _, hrow, ?_, rfl, fun payoutAmount hpaid => ?_⟩
    · simp only [ForecastView.unpaid, writeVerdict, forecastColumns, forecastSnapshot,
        Reads.ofWorld, nullIfZero_bind, hfits.settled, hfits.matched, hfits.named, hstatus,
        reduceIte]
    · obtain rfl := Option.some.inj hpaid
      have hpaid := hfits.paid
      simpa only [writeVerdict, forecastSnapshot, Reads.ofWorld, nullIfZero_bind,
        isSome_nullIfZero, Option.getD_some] using hpaid

/-- The row of a challenge. -/
theorem challenge_row {t : Table ℕ ChallengeView}
    (h : (challengesBatch (.ofWorld (C.world n)) (queryFilter (C.logs 0 n))).run .empty = .ok t)
    (k : ℕ) :
    ((C.world n).epistemicMarket.challenges k).challengeId = 0 ∧ t k = none ∨
    ((C.world n).epistemicMarket.challenges k).challengeId ≠ 0 ∧
      ∃ row, t k = some row ∧ row.unpaid = challengeColumns (C.world n) k ∧ row.Paid := by
  have hemits := C.emits (Nat.zero_le n)
  have hcases := row_cases (hemits.challengeReports (C.reachable 0))
    (fun k => by rw [(C.blank k).2.1]; exact fun h => h rfl)
    (fun k => by rw [(C.blank k).2.1]; exact fun h => h rfl) (touchedIds_nodup _)
    (fun k => mem_touchedChallengeIds.trans (touched_iff_reported map_fst_challengeReport?))
    (byKey_challengeResolution.append byKey_challengeWithdrawal)
    (writes_challenges (.ofWorld (C.world n)) _)
    (fun closure _ => by cases closure <;> rfl) h k
  rcases hcases with ⟨hnone, hrow⟩ | ⟨hexists, hopen, hrow⟩ | ⟨hexists, closure, -, hfits, hrow⟩
  · exact .inl ⟨not_not.mp hnone, hrow⟩
  · have hopen : ((C.world n).epistemicMarket.challenges k).status = .«open» := not_not.mp hopen
    have hrow : t k = some (challengeSnapshot (.ofWorld (C.world n)) k) := hrow
    refine .inr ⟨hexists, _, hrow, ?_, ?_, fun payoutAmount hpaid => ?_⟩
    · simp [ChallengeView.unpaid, challengeColumns, challengeSnapshot, Reads.ofWorld, hopen]
    · simp [challengeSnapshot, Reads.ofWorld, hopen]
    · exact absurd hpaid.symm (Option.some_ne_none payoutAmount)
  · have hrow : t k = some (writeClosure closure (challengeSnapshot (.ofWorld (C.world n)) k)) :=
      hrow
    refine .inr ⟨hexists, _, hrow, ?_⟩
    cases closure with
    | resolved status resolutionHash payoutAmount =>
      obtain ⟨rfl, hopen, hwithdrawn, rfl, hpaid⟩ := hfits
      refine ⟨?_, ?_, fun payoutAmount' hpaid' => ?_⟩
      · simp [ChallengeView.unpaid, writeClosure, challengeColumns, challengeSnapshot,
          Reads.ofWorld, hopen, hwithdrawn]
      · simp [writeClosure, hopen, hwithdrawn]
      · obtain rfl := Option.some.inj hpaid'
        exact hpaid
    | withdrawn refundedAmount =>
      obtain ⟨hstatus, rfl⟩ := hfits
      have hstatus : ((C.world n).epistemicMarket.challenges k).status = .withdrawn := hstatus
      refine ⟨?_, ?_, fun payoutAmount hpaid =>
        absurd hpaid.symm (Option.some_ne_none payoutAmount)⟩
      · simp [ChallengeView.unpaid, writeClosure, challengeColumns, challengeSnapshot,
          Reads.ofWorld, hstatus]
      · simp [writeClosure, challengeSnapshot, Reads.ofWorld, hstatus]

/-- The row of an appeal. -/
theorem appeal_row {t : Table ℕ AppealView}
    (h : (appealsBatch (.ofWorld (C.world n)) (queryFilter (C.logs 0 n))).run .empty = .ok t)
    (k : ℕ) : t k = if ((C.world n).appealsRegistry.appeals k).appealId = 0 then none
      else some (appealColumns (C.world n) k) := by
  have hemits := C.emits (Nat.zero_le n)
  have hcases := row_cases (hemits.appealReports (C.reachable 0))
    (fun k => by rw [appealStates_apply, (C.blank k).2.2]; exact fun h => h rfl)
    (fun k => by rw [appealStates_apply, (C.blank k).2.2]; exact fun h => h.1 rfl)
    (touchedIds_nodup _)
    (fun k => mem_touchedAppealIds.trans (touched_iff_reported map_fst_appealReport?))
    byKey_appealAdjudication (writes_appeals _) (fun _ _ => rfl) h k
  rw [appealStates_apply] at hcases
  rcases hcases with ⟨hnone, hrow⟩ | ⟨hexists, hopen, hrow⟩ | ⟨hexists, x, -, ⟨hfits, -⟩, hrow⟩
  · rw [if_pos (not_not.mp hnone), hrow]
  · have hopen : ((C.world n).appealsRegistry.appeals k).adjudicatedAt = 0 := by
      by_contra hne
      exact hopen ⟨hne, rfl⟩
    have hrow : t k = some (appealSnapshot (.ofWorld (C.world n)) k) := hrow
    rw [if_neg hexists, hrow]
    exact congrArg some (if_pos hopen).symm
  · have hfits : x.Fits ((C.world n).appealsRegistry.appeals k) := hfits
    have hrow : t k = some (writeAdjudication x (appealSnapshot (.ofWorld (C.world n)) k)) := hrow
    rw [if_neg hexists, hrow]
    refine congrArg some (Eq.trans ?_ (if_neg hfits.adjudicated).symm)
    simp only [writeAdjudication, appealSnapshot, Reads.ofWorld, hfits.status,
      hfits.adjudicationHash, hfits.adjudicationURI, hfits.refunded]

end

/-! ### The read model -/

/-- **A caught-up read model says how everything ended.** -/
theorem Sync.concludes {D : Deployment} {C : Chain D} {s : Sync} (h : Sync.Reachable C s)
    (hquiet : C.logs s.cursor s.head = []) : Concludes (C.world s.cursor) s.tables := by
  obtain ⟨-, -, -, -, -, -, -, hforecasts, hchallenges, happeals⟩ :=
    applyChunk_eq_ok.mp (applyChunk_caught_up h hquiet)
  have hforecast := forecast_row hforecasts
  have hchallenge := challenge_row hchallenges
  exact
    { forecasts := fun k => by
        rcases hforecast k with ⟨hzero, hrow⟩ | ⟨hexists, row, hrow, hcolumns, -⟩
        · rw [if_pos hzero, hrow]
          rfl
        · rw [if_neg hexists, hrow, Option.map_some, hcolumns]
      forecasts_paid := fun k row hk => by
        rcases hforecast k with ⟨-, hrow⟩ | ⟨-, row', hrow, -, hpaid⟩
        · exact absurd (hk.symm.trans hrow) (Option.some_ne_none row)
        · exact Option.some.inj (hrow.symm.trans hk) ▸ hpaid
      challenges := fun k => by
        rcases hchallenge k with ⟨hzero, hrow⟩ | ⟨hexists, row, hrow, hcolumns, -⟩
        · rw [if_pos hzero, hrow]
          rfl
        · rw [if_neg hexists, hrow, Option.map_some, hcolumns]
      challenges_paid := fun k row hk => by
        rcases hchallenge k with ⟨-, hrow⟩ | ⟨-, row', hrow, -, hpaid⟩
        · exact absurd (hk.symm.trans hrow) (Option.some_ne_none row)
        · exact Option.some.inj (hrow.symm.trans hk) ▸ hpaid
      appeals := appeal_row happeals }

/-- The read model of the two blocks says so: of the forecast that is settled in the second one, of
the challenge that is withdrawn, and of the appeal that is adjudicated. -/
theorem Sync.concludes_devnet :
    (Sync.resolvedTables.forecasts 1).map (fun row => (row.matched, row.payoutAmount)) =
        some (some true, some 10) ∧
      (Sync.resolvedTables.challenges 1).map (fun row => (row.status, row.refundedAmount)) =
        some (.withdrawn, some 7) ∧
      (Sync.resolvedTables.appeals 1).map (fun row => row.status) = some .closed ∧
      Concludes resolved.world Sync.resolvedTables :=
  ⟨by decide, by decide, by decide, Sync.concludes Sync.reachable_resolved (Chain.logs_self 2)⟩

end ScientificProtocol.Indexer
