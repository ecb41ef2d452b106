import ScientificProtocol.Sources.Ingestion

/-!
# Ingestion creates one record

However the calls of `ingestSource` overlap, and wherever they crash, a canonical key gets one
source. A lease may be taken over from a call that is still at work, so that several calls may
fetch a source and try to write it. Two things keep all of them but one from doing so: the
transaction looks for the source again under the lock of the key, and it throws unless the
attempt is still that of its caller. An attempt that has been completed has no lease, and so
can neither be reserved nor completed again.

* `ScientificProtocol.Sources.Ingested`: what holds of the tables at any time;
* `ScientificProtocol.Sources.Recorded`: what stays as it is;
* `ScientificProtocol.Sources.oneRecord`: the source of a key, over a whole history.
-/

namespace ScientificProtocol.Sources

open Concurrency Evm
open Review (Time ReviewDb ReviewCall)

/-- A submission that created a source. -/
def isCreation (sourceId : ℕ) (submission : SourceSubmissionRecord) : Bool :=
  decide (submission.sourceId = sourceId ∧ submission.submissionOutcome = .created)

/-- An attempt that has been completed, for a source. -/
structure SourceIngestionAttempt.CompletedFor (attempt : SourceIngestionAttempt) (sourceId : ℕ) :
    Prop where
  status_eq : attempt.status = .completed
  sourceId_eq : attempt.sourceId = some sourceId
  unleased : attempt.leaseExpiresAt = none

/-- **What ingestion keeps.** -/
structure Ingested (db : SourceDb) : Prop where
  /-- A key has one source, -/
  unique : db.sources.Unique SourceRecord.canonicalSourceKey
  /-- whose attempt has been completed for it, -/
  completed : ∀ {sourceId source}, db.sources sourceId = some source →
    ∃ attempt, db.ingestionAttempts source.canonicalSourceKey = some attempt ∧
      attempt.CompletedFor sourceId
  /-- which one submission has created, -/
  created : ∀ {sourceId source}, db.sources sourceId = some source →
    db.submissions.count (fun _ submission => isCreation sourceId submission) = 1
  /-- and which can be shown to whoever submits it again. -/
  replayable : ∀ {sourceId source}, db.sources sourceId = some source →
    isReplayable db source = true
  /-- A submission is of a source that is there. -/
  listed : ∀ {k submission}, db.submissions k = some submission →
    ∃ source, db.sources submission.sourceId = some source ∧
      source.canonicalSourceKey = submission.canonicalSourceKey
  /-- `source_submission_records_request_hash_idx`. -/
  hashed : ∀ {k k' submission submission'}, db.submissions k = some submission →
    db.submissions k' = some submission' → submission.requestHash = submission'.requestHash →
    submission.requestHash.isSome = true → k = k'

theorem ingested_empty : Ingested .empty where
  unique := Sql.Serial.unique_empty
  completed h := absurd h (by simp [SourceDb.empty])
  created h := absurd h (by simp [SourceDb.empty])
  replayable h := absurd h (by simp [SourceDb.empty])
  listed h := absurd h (by simp [SourceDb.empty])
  hashed h := absurd h (by simp [SourceDb.empty])

/-- **What ingestion leaves as it is**: the key of a source, a submission, an attempt that has
been completed, and that an artifact is there. -/
structure Recorded (db db' : SourceDb) : Prop where
  source : ∀ {sourceId source}, db.sources sourceId = some source →
    ∃ source', db'.sources sourceId = some source' ∧
      source'.canonicalSourceKey = source.canonicalSourceKey
  submission : ∀ {k submission}, db.submissions k = some submission →
    db'.submissions k = some submission
  attempt : ∀ {key attempt sourceId}, db.ingestionAttempts key = some attempt →
    attempt.CompletedFor sourceId → db'.ingestionAttempts key = some attempt
  artifact : ∀ {key}, (db.artifacts key).isSome = true → (db'.artifacts key).isSome = true

/-- A call relies on a source that is there. -/
def IngestProcess.Sound (db : SourceDb) (p : IngestProcess) : Prop :=
  ∀ source ∈ p.relied, ∃ row, db.sources source.1 = some row ∧ row.canonicalSourceKey = source.2

section

variable {now : Time} {db db' db'' : SourceDb} {a : IngestAction} {p p' : IngestProcess}

theorem Recorded.refl (db : SourceDb) : Recorded db db :=
  ⟨fun h => ⟨_, h, rfl⟩, id, fun h _ => h, id⟩

theorem Recorded.trans (h : Recorded db db') (h' : Recorded db' db'') : Recorded db db'' := by
  refine ⟨fun hsource => ?_, fun hs => h'.submission (h.submission hs),
    fun ha hdone => h'.attempt (h.attempt ha hdone) hdone, fun ha => h'.artifact (h.artifact ha)⟩
  obtain ⟨source', hsource', hkey⟩ := h.source hsource
  obtain ⟨source'', hsource'', hkey'⟩ := h'.source hsource'
  exact ⟨source'', hsource'', hkey'.trans hkey⟩

/-- Tables that differ in attempts at most, none of which had been completed. -/
theorem Recorded.of_attempts {attempts : Sql.Table String SourceIngestionAttempt}
    {review : ReviewDb}
    (h : ∀ {key attempt sourceId}, db.ingestionAttempts key = some attempt →
      attempt.CompletedFor sourceId → attempts key = some attempt) :
    Recorded db { db with ingestionAttempts := attempts, review } :=
  ⟨fun h => ⟨_, h, rfl⟩, id, h, id⟩

theorem isReplayable_of_recorded (h : Recorded db db') {source : SourceRecord}
    (hreplayable : isReplayable db source = true) : isReplayable db' source = true := by
  simp only [isReplayable, Bool.and_eq_true, Option.any_eq_true] at hreplayable ⊢
  obtain ⟨⟨⟨⟨key, hkey, hsnapshot⟩, ⟨key', hkey', hextraction⟩⟩, hpreview⟩, hversion⟩ := hreplayable
  exact ⟨⟨⟨⟨key, hkey, h.artifact hsnapshot⟩, ⟨key', hkey', h.artifact hextraction⟩⟩, hpreview⟩,
    hversion⟩

theorem IngestProcess.Sound.recorded (h : p.Sound db) (hrecorded : Recorded db db') :
    p.Sound db' := by
  intro source hmem
  obtain ⟨row, hrow, hkey⟩ := h source hmem
  obtain ⟨row', hrow', hkey'⟩ := hrecorded.source hrow
  exact ⟨row', hrow', hkey'.trans hkey⟩

/-- The tables with the same sources and submissions. -/
theorem Ingested.of_attempts {attempts : Sql.Table String SourceIngestionAttempt}
    {review : ReviewDb} (h : Ingested db)
    (hkept : ∀ {key attempt sourceId}, db.ingestionAttempts key = some attempt →
      attempt.CompletedFor sourceId → attempts key = some attempt) :
    Ingested { db with ingestionAttempts := attempts, review } where
  unique := h.unique
  completed hsource := by
    obtain ⟨attempt, hattempt, hdone⟩ := h.completed hsource
    exact ⟨attempt, hkept hattempt hdone, hdone⟩
  created := h.created
  replayable := h.replayable
  listed := h.listed
  hashed := h.hashed

/-! ### Reserving, failing, and submitting again -/

/-- **An attempt that has been completed is not reserved.** -/
theorem not_reservable {attempt : SourceIngestionAttempt} {sourceId : ℕ}
    (h : attempt.CompletedFor sourceId) : attempt.reservable now = false := by
  simp [SourceIngestionAttempt.reservable, h.status_eq, h.unleased]

/-- What a reservation writes. -/
theorem reserve_eq_some {input : ReserveSourceIngestionAttempt}
    (h : reserveSourceIngestionAttempt now db input = some db') :
    ∃ attempt', attempt'.ownedBy input.leaseOwner = true ∧
      db' = { db with
        ingestionAttempts := db.ingestionAttempts.set input.canonicalSourceKey attempt' } ∧
      ∀ {attempt}, db.ingestionAttempts input.canonicalSourceKey = some attempt →
        attempt.reservable now = true := by
  unfold reserveSourceIngestionAttempt at h
  split at h
  next hnone =>
    obtain rfl := Option.some.inj h
    exact ⟨_, by simp [SourceIngestionAttempt.ownedBy], rfl,
      fun hsome => absurd (hnone.symm.trans hsome) nofun⟩
  next attempt hattempt =>
    split at h
    next hreservable =>
      obtain rfl := Option.some.inj h
      refine ⟨_, by simp [SourceIngestionAttempt.ownedBy], rfl, fun hsome => ?_⟩
      rwa [← Option.some.inj (hattempt.symm.trans hsome)]
    next => exact absurd h nofun

theorem completed_of_reserve {input : ReserveSourceIngestionAttempt}
    {attempt' : SourceIngestionAttempt}
    (h : ∀ {attempt}, db.ingestionAttempts input.canonicalSourceKey = some attempt →
      attempt.reservable now = true) {key : String} {attempt : SourceIngestionAttempt}
    {sourceId : ℕ} (hattempt : db.ingestionAttempts key = some attempt)
    (hdone : attempt.CompletedFor sourceId) :
    db.ingestionAttempts.set input.canonicalSourceKey attempt' key = some attempt := by
  have hne : key ≠ input.canonicalSourceKey := by
    rintro rfl
    exact absurd (h hattempt) (by simp [not_reservable hdone])
  rw [Sql.Table.set_of_ne _ hne, hattempt]

theorem completed_of_fail {key' leaseOwner error : String} {key : String}
    {attempt : SourceIngestionAttempt} {sourceId : ℕ}
    (hattempt : db.ingestionAttempts key = some attempt) (hdone : attempt.CompletedFor sourceId) :
    (db.ingestionAttempts.update key' fun attempt =>
      if attempt.ownedBy leaseOwner then attempt.fail now error else attempt) key =
        some attempt := by
  have hother : attempt.ownedBy leaseOwner = false := by
    simp [SourceIngestionAttempt.ownedBy, hdone.status_eq]
  rw [Sql.Table.update_apply, hattempt, Option.map_some, hother, if_neg Bool.false_ne_true,
    ite_self]

/-- What inserting a submission takes. -/
theorem insert_eq_ok {record : SourceSubmissionRecord} {submissionId : ℕ}
    (h : insertSourceSubmissionRecord db record = .ok (submissionId, db')) :
    db' = { db with submissions := db.submissions.insert record } ∧
      (record.requestHash.isSome = true → ∀ {k submission}, db.submissions k = some submission →
        submission.requestHash ≠ record.requestHash) := by
  unfold insertSourceSubmissionRecord at h
  split at h
  next => cases h
  next hfree =>
    obtain ⟨rfl, rfl⟩ := Prod.mk.inj (Except.ok.inj h)
    refine ⟨rfl, fun hsome k submission hrow hsame => hfree ?_⟩
    rw [hsome, Bool.true_and, Option.isSome_iff_ne_none]
    exact fun hnone => Sql.Serial.findBy_eq_none.mp hnone k submission hrow hsame

/-- Request hashes stay distinct where the new one is not there. -/
theorem hashed_insert {submissions : Sql.Serial SourceSubmissionRecord}
    {record : SourceSubmissionRecord}
    (h : ∀ {k k' submission submission'}, submissions k = some submission →
      submissions k' = some submission' → submission.requestHash = submission'.requestHash →
      submission.requestHash.isSome = true → k = k')
    (hfree : record.requestHash.isSome = true → ∀ {k submission}, submissions k = some submission →
      submission.requestHash ≠ record.requestHash) :
    ∀ {k k' submission submission'}, submissions.insert record k = some submission →
      submissions.insert record k' = some submission' →
      submission.requestHash = submission'.requestHash → submission.requestHash.isSome = true →
      k = k' := by
  intro k k' submission submission' hrow hrow' hsame hsome
  rcases Sql.Serial.insert_eq_some.mp hrow with ⟨rfl, rfl⟩ | hold <;>
    rcases Sql.Serial.insert_eq_some.mp hrow' with ⟨rfl, rfl⟩ | hold'
  · rfl
  · exact absurd hsame.symm (hfree hsome hold')
  · exact absurd hsame (hfree (hsame ▸ hsome) hold)
  · exact h hold hold' hsame hsome

/-- A duplicate submission, of a source that is there. -/
theorem Ingested.duplicate (h : Ingested db) {record : SourceSubmissionRecord} {submissionId : ℕ}
    (hduplicate : record.submissionOutcome = .duplicate)
    (hlisted : ∃ source, db.sources record.sourceId = some source ∧
      source.canonicalSourceKey = record.canonicalSourceKey)
    (hinsert : insertSourceSubmissionRecord db record = .ok (submissionId, db')) :
    Ingested db' := by
  obtain ⟨rfl, hfree⟩ := insert_eq_ok hinsert
  refine ⟨h.unique, h.completed, fun {sourceId source} hsource => ?_, h.replayable,
    fun {k submission} hrow => ?_, hashed_insert h.hashed hfree⟩
  · refine (Sql.Serial.count_insert _ _).trans ?_
    rw [h.created hsource, if_neg (by simp [isCreation, hduplicate])]
  · rcases Sql.Serial.insert_eq_some.mp hrow with ⟨-, rfl⟩ | hold
    · exact hlisted
    · exact h.listed hold

/-! ### Creating -/

/-- **What the transaction of a creation does.** -/
structure Creates (now : Time) (db : SourceDb) (input : SourceIngest)
    (ingestion : ArtifactIngestionResult) (sourceId : ℕ) (db' : SourceDb) : Prop where
  sourceId_eq : sourceId = db.sources.next
  sources_eq : db'.sources = db.sources.insert (input.record now ingestion)
  submissions_eq : db'.submissions = db.submissions.insert (input.submission now sourceId .created)
  unhashed : (input.submission now sourceId .created).requestHash.isSome = true →
    ∀ {k submission}, db.submissions k = some submission →
      submission.requestHash ≠ (input.submission now sourceId .created).requestHash
  /-- The attempt is that of the caller. -/
  owned : ∃ attempt, db.ingestionAttempts input.canonicalSourceKey = some attempt ∧
    attempt.ownedBy input.leaseOwner = true
  attempts_eq : db'.ingestionAttempts = db.ingestionAttempts.update input.canonicalSourceKey
    fun attempt => attempt.complete now sourceId
  artifacts_eq : db'.artifacts = (withArtifacts db ingestion).artifacts
  review_eq : db'.review = db.review
  candidates_eq : db'.candidates = db.candidates
  publicationAttempts_eq : db'.publicationAttempts = db.publicationAttempts

/-- A key without a source gets one. -/
theorem upsertSourceRecord_of_none {input : SourceIngest} {ingestion : ArtifactIngestionResult}
    (hnone : readSourceByCanonicalKey db input.canonicalSourceKey = none) :
    upsertSourceRecord now (withArtifacts db ingestion) (input.record now ingestion) =
      (db.sources.next, { withArtifacts db ingestion with
        sources := db.sources.insert (input.record now ingestion) }) := by
  rw [upsertSourceRecord, show readSourceByCanonicalKey (withArtifacts db ingestion)
    (input.record now ingestion).canonicalSourceKey = none from hnone]
  rfl

theorem creates_of_createSource {input : SourceIngest} {ingestion : ArtifactIngestionResult}
    {sourceId submissionId : ℕ}
    (hnone : readSourceByCanonicalKey db input.canonicalSourceKey = none)
    (h : createSource now db input ingestion = .ok (sourceId, submissionId, db')) :
    Creates now db input ingestion sourceId db' := by
  simp only [createSource, upsertSourceRecord_of_none hnone] at h
  split at h
  next => exact absurd h nofun
  next submissionId' db₂ hinsert =>
    obtain ⟨rfl, hfree⟩ := insert_eq_ok hinsert
    split at h
    next => exact absurd h nofun
    next db₃ hcomplete =>
      obtain ⟨rfl, heq⟩ := Prod.mk.inj (Except.ok.inj h)
      obtain ⟨rfl, rfl⟩ := Prod.mk.inj heq
      unfold completeSourceIngestionAttempt at hcomplete
      split at hcomplete
      next howned =>
        obtain rfl := Option.some.inj hcomplete
        exact ⟨rfl, rfl, rfl, hfree, (Option.any_eq_true _ _).mp howned, rfl, rfl, rfl, rfl,
          rfl⟩
      next => exact absurd hcomplete nofun

/-- Artifacts that are there stay there. -/
theorem isSome_withArtifacts {ingestion : ArtifactIngestionResult} {key : String}
    (h : (db.artifacts key).isSome = true) :
    ((withArtifacts db ingestion).artifacts key).isSome = true := by
  simp only [withArtifacts, upsertPersistedArtifact, Sql.Table.set_apply]
  split
  · rfl
  · split
    · rfl
    · exact h

variable {input : SourceIngest} {ingestion : ArtifactIngestionResult} {sourceId : ℕ}

theorem Creates.recorded (h : Creates now db input ingestion sourceId db') : Recorded db db' := by
  refine ⟨fun hsource => ⟨_, ?_, rfl⟩, fun hrow => ?_, fun {key attempt sourceId'} ha hdone => ?_,
    fun ha => ?_⟩
  · rw [h.sources_eq]
    exact Sql.Serial.insert_of_some hsource
  · rw [h.submissions_eq]
    exact Sql.Serial.insert_of_some hrow
  · obtain ⟨attempt', hattempt', howned⟩ := h.owned
    have hne : key ≠ input.canonicalSourceKey := by
      rintro rfl
      obtain rfl := Option.some.inj (ha.symm.trans hattempt')
      exact absurd howned (by simp [SourceIngestionAttempt.ownedBy, hdone.status_eq])
    rw [h.attempts_eq, Sql.Table.update_of_ne _ hne, ha]
  · rw [h.artifacts_eq]
    exact isSome_withArtifacts ha

/-- No submission is of a source that is still to come. -/
theorem Ingested.count_next (h : Ingested db) :
    db.submissions.count (fun _ submission => isCreation db.sources.next submission) = 0 := by
  refine Sql.Serial.count_eq_zero.mpr fun k submission hrow => ?_
  obtain ⟨source, hsource, -⟩ := h.listed hrow
  have hne := Sql.Serial.ne_next hsource
  simp [isCreation, hne]

/-- **A creation.** -/
theorem Ingested.create (h : Ingested db) (hcreates : Creates now db input ingestion sourceId db')
    (hnone : readSourceByCanonicalKey db input.canonicalSourceKey = none) : Ingested db' := by
  have hrecorded := hcreates.recorded
  -- The sources there were, and the new one.
  have hsources : ∀ {id source}, db'.sources id = some source →
      (id = sourceId ∧ source = input.record now ingestion) ∨ db.sources id = some source := by
    intro id source hsource
    rw [hcreates.sources_eq] at hsource
    rw [hcreates.sourceId_eq]
    exact Sql.Serial.insert_eq_some.mp hsource
  refine ⟨?_, fun {id source} hsource => ?_, fun {id source} hsource => ?_,
    fun {id source} hsource => ?_, fun {k submission} hrow => ?_, ?_⟩
  · rw [hcreates.sources_eq]
    exact h.unique.insert hnone
  · rcases hsources hsource with ⟨rfl, rfl⟩ | hold
    · obtain ⟨attempt, hattempt, -⟩ := hcreates.owned
      refine ⟨attempt.complete now id, ?_, rfl, rfl, rfl⟩
      change db'.ingestionAttempts input.canonicalSourceKey = _
      rw [hcreates.attempts_eq, Sql.Table.update_self, hattempt, Option.map_some]
    · obtain ⟨attempt, hattempt, hdone⟩ := h.completed hold
      exact ⟨attempt, hrecorded.attempt hattempt hdone, hdone⟩
  · rw [hcreates.submissions_eq, Sql.Serial.count_insert]
    rcases hsources hsource with ⟨rfl, rfl⟩ | hold
    · rw [hcreates.sourceId_eq, h.count_next,
        if_pos (by simp [isCreation, SourceIngest.submission])]
    · have hne : sourceId ≠ id := by
        rw [hcreates.sourceId_eq]
        exact (Sql.Serial.ne_next hold).symm
      rw [h.created hold, if_neg (by simp [isCreation, SourceIngest.submission, hne])]
  · rcases hsources hsource with ⟨rfl, rfl⟩ | hold
    · have hartifacts : ∀ key, key = ingestion.snapshotArtifact.artifactKey ∨
          key = ingestion.extractionArtifact.artifactKey → (db'.artifacts key).isSome = true := by
        intro key hkey
        rw [hcreates.artifacts_eq]
        simp only [withArtifacts, upsertPersistedArtifact, Sql.Table.set_apply]
        rcases hkey with rfl | rfl
        · split <;> simp
        · simp
      simp [isReplayable, SourceIngest.record, hartifacts]
    · exact isReplayable_of_recorded hrecorded (h.replayable hold)
  · rw [hcreates.submissions_eq] at hrow
    rcases Sql.Serial.insert_eq_some.mp hrow with ⟨-, rfl⟩ | hold
    · refine ⟨input.record now ingestion, ?_, rfl⟩
      change db'.sources sourceId = _
      rw [hcreates.sources_eq, hcreates.sourceId_eq, Sql.Serial.insert_self]
    · obtain ⟨source, hsource, hkey⟩ := h.listed hold
      obtain ⟨source', hsource', hkey'⟩ := hrecorded.source hsource
      exact ⟨source', hsource', hkey'.trans hkey⟩
  · rw [hcreates.submissions_eq]
    exact hashed_insert h.hashed hcreates.unhashed

/-! ### Every step -/

theorem IngestEffect.recorded (h : IngestEffect db p a db' p') : Recorded db db' := by
  cases h with
  | quiet => exact .refl db
  | reserve hreserve _ =>
    obtain ⟨attempt', -, rfl, hreservable⟩ := reserve_eq_some hreserve
    exact .of_attempts (completed_of_reserve hreservable)
  | fail _ => exact .of_attempts completed_of_fail
  | duplicate _ hinsert _ =>
    obtain ⟨rfl, -⟩ := insert_eq_ok hinsert
    exact ⟨fun h => ⟨_, h, rfl⟩, Sql.Serial.insert_of_some, fun h _ => h, id⟩
  | create _ hnone hcreate => exact (creates_of_createSource hnone hcreate).recorded
  | openTask _ => exact .of_attempts fun h _ => h

theorem Ingested.effect (h : Ingested db) (hsound : p.Sound db)
    (heffect : IngestEffect db p a db' p') : Ingested db' := by
  cases heffect with
  | quiet => exact h
  | reserve hreserve _ =>
    obtain ⟨attempt', -, rfl, hreservable⟩ := reserve_eq_some hreserve
    exact h.of_attempts (completed_of_reserve hreservable)
  | fail _ => exact h.of_attempts completed_of_fail
  | duplicate hlisted hinsert _ => exact h.duplicate rfl (hlisted.elim (hsound _) id) hinsert
  | create _ hnone hcreate => exact h.create (creates_of_createSource hnone hcreate) hnone
  | openTask _ => exact h.of_attempts fun h _ => h

theorem IngestProcess.Sound.effect (h : p.Sound db) (heffect : IngestEffect db p a db' p') :
    p'.Sound db' := by
  have hrecorded := heffect.recorded
  cases heffect with
  | quiet hrelied _ _ => exact fun source hmem => (hrelied source hmem).elim (h source) id
  | reserve | fail => exact nofun
  | @duplicate now input sourceId submissionId db' hlisted hinsert _ =>
    rintro source ⟨⟩
    obtain ⟨row, hrow, hkey⟩ := hlisted.elim (h _) id
    obtain ⟨row', hrow', hkey'⟩ := hrecorded.source hrow
    exact ⟨row', hrow', hkey'.trans hkey⟩
  | @create now input ingestion sourceId submissionId db' _ hnone hcreate =>
    rintro source ⟨⟩
    have hcreates := creates_of_createSource hnone hcreate
    refine ⟨input.record now ingestion, ?_, rfl⟩
    rw [hcreates.sources_eq, hcreates.sourceId_eq, Sql.Serial.insert_self]
  | openTask hp =>
    subst hp
    exact h

/-- A source is there since it was created, or was there before. -/
theorem IngestEffect.sources_cases (h : IngestEffect db p a db' p') :
    db'.sources = db.sources ∨ ∃ now input ingestion sourceId, a = .next now ∧
      p = .committing input ingestion ∧ Creates now db input ingestion sourceId db' := by
  cases h with
  | quiet | fail | openTask => exact .inl rfl
  | reserve hreserve _ =>
    obtain ⟨attempt', -, rfl, -⟩ := reserve_eq_some hreserve
    exact .inl rfl
  | duplicate _ hinsert _ =>
    obtain ⟨rfl, -⟩ := insert_eq_ok hinsert
    exact .inl rfl
  | create hp hnone hcreate =>
    exact .inr ⟨_, _, _, _, rfl, hp, creates_of_createSource hnone hcreate⟩

/-- Ingestion has nothing to do with candidates and publications. -/
theorem IngestEffect.publication_eq (h : IngestEffect db p a db' p') :
    db'.candidates = db.candidates ∧ db'.publicationAttempts = db.publicationAttempts := by
  cases h with
  | quiet | fail | openTask => exact ⟨rfl, rfl⟩
  | reserve hreserve _ =>
    obtain ⟨attempt', -, rfl, -⟩ := reserve_eq_some hreserve
    exact ⟨rfl, rfl⟩
  | duplicate _ hinsert _ =>
    obtain ⟨rfl, -⟩ := insert_eq_ok hinsert
    exact ⟨rfl, rfl⟩
  | create _ hnone hcreate =>
    have hcreates := creates_of_createSource hnone hcreate
    exact ⟨hcreates.candidates_eq, hcreates.publicationAttempts_eq⟩

end

/-! ### Every history -/

/-- One step of a history of calls. -/
abbrev IngestEvent (ι : Type) : Type :=
  Event ι SourceDb IngestProcess IngestAction (Time × ReviewCall)

/-- **A call creates the source of a key**, as the owner of an attempt that is ingesting. -/
def CreatedBy {ι : Type} (sourceId : ℕ) (key : String) (e : IngestEvent ι) : Prop :=
  ∃ i now input ingestion attempt, e.label = .act i (.next now) ∧
    e.before.process i = .committing input ingestion ∧ input.canonicalSourceKey = key ∧
    e.before.shared.ingestionAttempts key = some attempt ∧ attempt.status = .ingesting ∧
    attempt.leaseOwner = some input.leaseOwner ∧ e.before.shared.sources sourceId = none ∧
    (e.after.shared.sources sourceId).isSome = true

/-- **A key has one source**, at the end of a history. -/
structure OneRecord {ι : Type} (tr : List (IngestEvent ι)) (db : SourceDb) : Prop where
  unique : ∀ {sourceId sourceId' source source'}, db.sources sourceId = some source →
    db.sources sourceId' = some source' →
    source.canonicalSourceKey = source'.canonicalSourceKey → sourceId = sourceId'
  created_by : ∀ {sourceId source}, db.sources sourceId = some source →
    ∃ e ∈ tr, CreatedBy sourceId source.canonicalSourceKey e
  /-- Once there is a source, its attempt is completed for it ever after. -/
  completed : ∀ e ∈ tr, ∀ {sourceId source}, e.after.shared.sources sourceId = some source →
    ∃ attempt, db.ingestionAttempts source.canonicalSourceKey = some attempt ∧
      attempt.status = .completed ∧ attempt.sourceId = some sourceId
  created_once : ∀ {sourceId source}, db.sources sourceId = some source →
    db.submissions.count (fun _ submission => isCreation sourceId submission) = 1
  hash_once : ∀ requestHash, db.submissions.count
    (fun _ submission => decide (submission.requestHash = some requestHash)) ≤ 1
  /-- The submission of a request hash is always of the same source. -/
  hash_kept : ∀ e ∈ tr, ∀ {k k' submission submission' requestHash},
    e.after.shared.submissions k = some submission → db.submissions k' = some submission' →
    submission.requestHash = some requestHash → submission'.requestHash = some requestHash →
    submission'.sourceId = submission.sourceId

section

variable {ι : Type} [DecidableEq ι] {tr : List (IngestEvent ι)}
  {c c' : Config ι SourceDb IngestProcess}
  {l : Label ι IngestAction (Time × ReviewCall)}

theorem recorded_of_step (h : ingestion.Step c l c') : Recorded c.shared c'.shared := by
  cases h with
  | act hact => exact (act_effect hact).recorded
  | env henv =>
    obtain rfl := henv
    exact .of_attempts fun h _ => h

/-- **What is recorded stays**, from any step of a history to its end. -/
theorem recorded_of_run (h : ingestion.Run tr c) : ∀ e ∈ tr, Recorded e.after.shared c.shared := by
  induction h with
  | genesis _ => exact fun e he => absurd he List.not_mem_nil
  | snoc _ hstep ih =>
    intro e he
    rcases List.mem_append.mp he with he | he
    · exact (ih e he).trans (recorded_of_step hstep)
    · rw [List.mem_singleton.mp he]
      exact .refl _

/-- **Every history** keeps the tables as they should be, and its calls sound. -/
theorem ingested_of_run (h : ingestion.Run tr c) :
    Ingested c.shared ∧ ∀ i, (c.process i).Sound c.shared := by
  refine Processes.Run.owned (I := fun _ db => Ingested db) (O := fun _ db _ p => p.Sound db)
    ?_ ?_ ?_ h
  · rintro db rfl
    exact ⟨ingested_empty, fun _ => nofun⟩
  · intro tr c i a db p _ hinv hsound hact
    have heffect := act_effect hact
    exact ⟨hinv.effect (hsound i) heffect, (hsound i).effect heffect,
      fun j _ => (hsound j).recorded heffect.recorded⟩
  · rintro tr c b db _ hinv hsound rfl
    exact ⟨hinv.of_attempts fun h _ => h, fun j => (hsound j).recorded (.of_attempts fun h _ => h)⟩

/-- A source was created by a call of the history. -/
theorem createdBy_of_run (h : ingestion.Run tr c) : ∀ {sourceId source},
    c.shared.sources sourceId = some source →
      ∃ e ∈ tr, CreatedBy sourceId source.canonicalSourceKey e := by
  induction h with
  | genesis hgen =>
    obtain rfl := hgen
    exact fun hsource => absurd hsource (by simp [SourceDb.empty])
  | @snoc tr c c' l hrun hstep ih =>
    intro sourceId source hsource
    have hold : ∀ {source₀}, c.shared.sources sourceId = some source₀ →
        ∃ e ∈ tr ++ [⟨c, l, c'⟩], CreatedBy sourceId source.canonicalSourceKey e := by
      intro source₀ hsource₀
      obtain ⟨source₁, hsource₁, hkey⟩ := (recorded_of_step hstep).source hsource₀
      obtain rfl := Option.some.inj (hsource.symm.trans hsource₁)
      obtain ⟨e, he, hcreated⟩ := ih hsource₀
      exact ⟨e, List.mem_append_left _ he, hkey ▸ hcreated⟩
    cases hstep with
    | env henv =>
      obtain rfl := henv
      exact hold hsource
    | @act i a db p hact =>
      rcases (act_effect hact).sources_cases with hsame | ⟨now, input, ingestion, id, rfl, hp,
        hcreates⟩
      · exact hold (hsame ▸ hsource)
      · have hrow := hsource
        change db.sources sourceId = _ at hrow
        rw [hcreates.sources_eq] at hrow
        rcases Sql.Serial.insert_eq_some.mp hrow with ⟨rfl, rfl⟩ | hbefore
        · obtain ⟨attempt, hattempt, howned⟩ := hcreates.owned
          obtain ⟨howner, hingesting⟩ := of_decide_eq_true howned
          refine ⟨_, List.mem_append_right tr List.mem_cons_self, i, now, input, ingestion, attempt,
            rfl, hp, rfl, hattempt, hingesting, howner, ?_, by rw [hsource]; rfl⟩
          exact c.shared.sources.fresh _ (Nat.le_refl _)
        · exact hold hbefore

/-- **Source ingestion creates one record**: in every interleaving of any calls, with leases that
expire at any time and calls that fail or crash anywhere, a canonical key has one source at
most, which a call created that owned the attempt of the key, and to which the attempt stays
bound; one submission created it; and a request hash has one submission, always of the same
source. -/
theorem oneRecord (h : ingestion.Run tr c) : OneRecord tr c.shared := by
  obtain ⟨hingested, -⟩ := ingested_of_run h
  have hrecorded := recorded_of_run h
  refine ⟨hingested.unique.eq_of_key, createdBy_of_run h, fun e he {sourceId source} hsource => ?_,
    hingested.created, fun requestHash => ?_,
    fun e he {k k' submission submission' requestHash} hrow hrow' hhash hhash' => ?_⟩
  · obtain ⟨source', hsource', hkey⟩ := (hrecorded e he).source hsource
    obtain ⟨attempt, hattempt, hdone⟩ := hingested.completed hsource'
    exact ⟨attempt, hkey ▸ hattempt, hdone.status_eq, hdone.sourceId_eq⟩
  · refine Sql.Serial.count_le_one fun hrow hrow' hhash hhash' => ?_
    have hhash := of_decide_eq_true hhash
    exact hingested.hashed hrow hrow' (hhash.trans (of_decide_eq_true hhash').symm)
      (by rw [hhash]; rfl)
  · have hkept := (hrecorded e he).submission hrow
    obtain rfl := hingested.hashed hkept hrow' (hhash.trans hhash'.symm) (by rw [hhash]; rfl)
    rw [Option.some.inj (hkept.symm.trans hrow')]

end

/-! ### A lease that is taken over -/

/-- A call for one page, by an owner, with a lease of ten milliseconds. -/
def pageIngest (leaseOwner requestHash : String) : SourceIngest where
  canonicalSourceKey := "url:https://example.org/"
  normalizedLocator := "https://example.org/"
  rawLocator := "https://example.org"
  sourceType := .url
  discoveryMode := .userSubmitted
  leaseMs := 10
  leaseOwner := leaseOwner
  requestHash := some requestHash
  submittedByActor := some 0xAA
  submittedByAgentId := none

/-- What the page gives. -/
def pageIngestion : ArtifactIngestionResult where
  artifactType := 5
  sourceLocator := "https://example.org"
  sourceType := .url
  preview := "{}"
  ref := none
  sourceVersion := "{}"
  title := "A page"
  snapshotArtifact := ⟨"snapshot", "text/html", "00"⟩
  extractionArtifact := ⟨"extraction", "application/json", "01"⟩

/-- The history some actions of calls make. -/
def playIngestion (moves : List (ℕ × IngestAction)) :
    Option (List (IngestEvent ℕ) × Config ℕ SourceDb IngestProcess) :=
  ingestion.play moves ⟨.empty, fun _ => .idle⟩

/-- **Played histories are histories of calls.** -/
theorem run_playIngestion {moves : List (ℕ × IngestAction)} (h : (playIngestion moves).isSome) :
    ingestion.Run ((playIngestion moves).get h).1 ((playIngestion moves).get h).2 :=
  Processes.run_play (M := ingestion) rfl h

/-- A call is slow, another one waits until its lease has expired and takes it over, and both
come to write the source. -/
def takeover : List (ℕ × IngestAction) :=
  [(0, .call (pageIngest "a" "h1")), (0, .next 0), (0, .next 0),
    (1, .call (pageIngest "b" "h2")), (1, .next 1), (1, .next 5), (1, .next 6), (1, .next 20),
    (1, .next 20), (1, .next 20), (0, .ingested pageIngestion), (0, .next 25),
    (1, .ingested pageIngestion), (1, .next 26), (1, .next 27), (1, .next 28), (1, .next 29)]

theorem takeover_possible : (playIngestion takeover).isSome := by decide

/-- The slow one has lost the lease, and the other one creates the source. -/
theorem oneRecord_takeover :
    (((playIngestion takeover).get takeover_possible).2.process 0 =
        .threw "source_ingestion_attempt_lease_lost") ∧
      OneRecord ((playIngestion takeover).get takeover_possible).1
        ((playIngestion takeover).get takeover_possible).2.shared :=
  ⟨by decide, oneRecord (run_playIngestion takeover_possible)⟩

end ScientificProtocol.Sources
