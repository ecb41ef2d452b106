import ScientificProtocol.Concurrency.Processes
import ScientificProtocol.Review.Step
import ScientificProtocol.Sources.Store

/-!
# Ingesting a source

`ingestSource` of `src/sources/service.ts`. A call that finds the source there already
records a duplicate submission (`replayDuplicateSourceSubmission`). Otherwise it asks for the
lease of the canonical key, up to three times, and waits for its holder in between. Once it
has the lease it fetches and parses the source without holding on to anything, and then
writes the source, the submission and the end of the attempt in one transaction, under a lock
of the key. The two tasks of the source are opened after that, each in a transaction of its
own.

Any number of calls are under way at any time, and each of them may crash or throw between two
statements. The clocks play no part but in the expiry of leases, so that every statement may
be given any time at all.

What one statement does to the tables and to its call is said once
(`ScientificProtocol.Sources.IngestEffect`).
-/

namespace ScientificProtocol.Sources

open Concurrency Evm
open Review (Time ReviewDb ReviewCall CreateReviewTask TaskSpec)

/-! ### Calls -/

/-- What `ingestSource` is given, with its locator canonicalized. -/
structure SourceIngest where
  canonicalSourceKey : String
  normalizedLocator : String
  rawLocator : String
  sourceType : SourceType
  discoveryMode : SourceDiscoveryMode
  leaseMs : ℕ
  leaseOwner : String
  requestHash : Option String
  submittedByActor : Option Address
  submittedByAgentId : Option String
  deriving DecidableEq

/-- What fetching and parsing a source gives. -/
structure ArtifactIngestionResult where
  artifactType : ℕ
  sourceLocator : String
  sourceType : SourceType
  preview : String
  ref : Option String
  sourceVersion : String
  title : String
  snapshotArtifact : PersistedArtifact
  extractionArtifact : PersistedArtifact
  deriving DecidableEq

namespace SourceIngest

variable (now : Time) (input : SourceIngest)

def reservation : ReserveSourceIngestionAttempt where
  canonicalSourceKey := input.canonicalSourceKey
  leaseMs := input.leaseMs
  leaseOwner := input.leaseOwner
  normalizedLocator := input.normalizedLocator
  rawLocator := input.rawLocator
  sourceType := input.sourceType

/-- The source a call writes. -/
def record (ingestion : ArtifactIngestionResult) : SourceRecord where
  canonicalSourceKey := input.canonicalSourceKey
  sourceType := ingestion.sourceType
  discoveryMode := input.discoveryMode
  submittedByActor := input.submittedByActor
  submittedByAgentId := input.submittedByAgentId
  status := .extracting
  snapshotArtifactKey := some ingestion.snapshotArtifact.artifactKey
  extractionArtifactKey := some ingestion.extractionArtifact.artifactKey
  publishedClaimId := none
  sourceMetadata :=
    { artifactType := ingestion.artifactType, locator := ingestion.sourceLocator
      preview := some ingestion.preview, ref := ingestion.ref, sourceType := ingestion.sourceType
      sourceVersion := some ingestion.sourceVersion, title := ingestion.title }
  createdAt := now
  updatedAt := now

/-- The submission a call records. -/
def submission (sourceId : ℕ) (submissionOutcome : SourceSubmissionOutcome) :
    SourceSubmissionRecord where
  sourceId := sourceId
  canonicalSourceKey := input.canonicalSourceKey
  submittedByActor := input.submittedByActor
  submittedByAgentId := input.submittedByAgentId
  discoveryMode := input.discoveryMode
  submissionOutcome := submissionOutcome
  rawLocator := input.rawLocator
  normalizedLocator := input.normalizedLocator
  requestHash := input.requestHash.map Js.toLowerCase
  createdAt := now

end SourceIngest

/-! ### The tasks of a source -/

/-- The two tasks of a source. -/
inductive SourceTask where
  | extract
  | synth
  deriving DecidableEq, Repr

/-- What identifies an open task: its subject, its type and its scope. -/
abbrev TaskIdentity : Type := String × String × RewardPolicy.ReviewTaskType × String

def identityOf (spec : TaskSpec) : TaskIdentity :=
  (spec.subjectType, spec.subjectId, spec.taskType, spec.scopeKey)

/-- A task of `openSourceExtractionTasks`. -/
def sourceTaskSpec (sourceId : ℕ) (inputArtifactKeys : List String) (task : SourceTask) :
    TaskSpec where
  claimId := none
  sourceId := some sourceId
  subjectType := "source_record"
  subjectId := toString sourceId
  taskType := match task with
    | .extract => .claimExtractionCheck
    | .synth => .claimExtractionSynthesisCheck
  scopeKey := "source:" ++ toString sourceId ++ match task with
    | .extract => ":extract"
    | .synth => ":synth"
  schemaVersion := "review-task.v1"
  requestedBy := "source-ingress"
  requiredCapabilities := match task with
    | .extract => ["claim-extraction", "literature-scan"]
    | .synth => ["claim-synthesis"]
  inputArtifactKeys := inputArtifactKeys
  consensusPolicy := match task with
    | .extract => ⟨some 2, some 4, some true⟩
    | .synth => ⟨some 1, some 2, some true⟩
  createdAt := 0

/-- The identity of a task of a source. -/
def taskIdentity (sourceId : ℕ) (task : SourceTask) : TaskIdentity :=
  identityOf (sourceTaskSpec sourceId [] task)

/-- The artifacts a task is given: those whose key is not blank. -/
def inputArtifactKeys (ingestion : ArtifactIngestionResult) : List String :=
  [ingestion.snapshotArtifact.artifactKey, ingestion.extractionArtifact.artifactKey].filter
    fun key => decide (key ≠ "")

/-! ### Duplicates -/

variable (now : Time) (db : SourceDb)

/-- A source that can be shown to whoever submits it again. -/
def isReplayable (existing : SourceRecord) : Bool :=
  (existing.snapshotArtifactKey.any fun key => (db.artifacts key).isSome) &&
    (existing.extractionArtifactKey.any fun key => (db.artifacts key).isSome) &&
      existing.sourceMetadata.preview.isSome && existing.sourceMetadata.sourceVersion.isSome

/-- The submission that a request has recorded before, which must be of this source. -/
def recordedSubmission (input : SourceIngest) (sourceId : ℕ) : Except String (Option ℕ) :=
  match input.requestHash with
  | none => .ok none
  | some requestHash =>
    if requestHash = "" then .ok none
    else match readSourceSubmissionRecordByRequestHash db requestHash with
      | none => .ok none
      | some (submissionId, row) =>
        if row.canonicalSourceKey ≠ input.canonicalSourceKey ∨ row.sourceId ≠ sourceId then
          .error "source_submission_request_hash_mismatch"
        else .ok (some submissionId)

def replayUnavailable (sourceId : ℕ) : String :=
  "source_duplicate_replay_unavailable:" ++ toString sourceId

/-- `replayDuplicateSourceSubmission`, in a transaction: the submission, and the tables with
it. -/
def replayDuplicateSourceSubmission (input : SourceIngest) (sourceId : ℕ)
    (existing : SourceRecord) : Except String (ℕ × SourceDb) :=
  if isReplayable db existing then
    match recordedSubmission db input sourceId with
    | .error e => .error e
    | .ok (some submissionId) => .ok (submissionId, db)
    | .ok none => insertSourceSubmissionRecord db (input.submission now sourceId .duplicate)
  else .error (replayUnavailable sourceId)

/-! ### Creating a source -/

/-- The tables with the artifacts of a source. -/
def withArtifacts (ingestion : ArtifactIngestionResult) : SourceDb :=
  upsertPersistedArtifact (upsertPersistedArtifact db ingestion.snapshotArtifact)
    ingestion.extractionArtifact

/-- The transaction of a call that finds no source: the source, its submission, and the tables
with both, if the lease has not been lost. -/
def createSource (input : SourceIngest) (ingestion : ArtifactIngestionResult) :
    Except String (ℕ × ℕ × SourceDb) :=
  let (sourceId, db₁) :=
    upsertSourceRecord now (withArtifacts db ingestion) (input.record now ingestion)
  match insertSourceSubmissionRecord db₁ (input.submission now sourceId .created) with
  | .error e => .error e
  | .ok (submissionId, db₂) =>
    match completeSourceIngestionAttempt now db₂ input.canonicalSourceKey input.leaseOwner
        sourceId with
    | none => .error "source_ingestion_attempt_lease_lost"
    | some db₃ => .ok (sourceId, submissionId, db₃)

/-! ### A call, statement by statement -/

/-- Where a call is. -/
inductive IngestProcess where
  | idle
  /-- At the beginning of a pass: is the source there? -/
  | looking (input : SourceIngest) (pass : ℕ)
  | reserving (input : SourceIngest) (pass : ℕ)
  /-- Waiting for another call, which may have written the source, -/
  | waiting (input : SourceIngest) (pass : ℕ)
  /-- or may have lost the lease. -/
  | waitingAttempt (input : SourceIngest) (pass : ℕ)
  /-- Fetching and parsing, with the lease. -/
  | ingesting (input : SourceIngest)
  | failing (input : SourceIngest) (error : String)
  | committing (input : SourceIngest) (ingestion : ArtifactIngestionResult)
  /-- The source is there. -/
  | replaying (input : SourceIngest) (sourceId : ℕ) (existing : SourceRecord)
  | matching (input : SourceIngest) (sourceId : ℕ)
  | inserting (input : SourceIngest) (sourceId : ℕ)
  /-- The source is written, and these tasks are to be opened. -/
  | opening (input : SourceIngest) (sourceId submissionId : ℕ) (tasks : List SourceTask)
      (inputArtifactKeys : List String)
  | returned (input : SourceIngest) (sourceId submissionId : ℕ)
      (submissionOutcome : SourceSubmissionOutcome)
  | threw (error : String)
  | crashed
  deriving DecidableEq

/-- What a call does next. -/
inductive IngestAction where
  | call (input : SourceIngest)
  /-- The next statement, at some time. -/
  | next (now : Time)
  | ingested (ingestion : ArtifactIngestionResult)
  | ingestionFailed (error : String)
  /-- The deadline of a wait has passed. -/
  | timeout
  /-- Something throws that nothing catches, or the process ends. -/
  | crash
  deriving DecidableEq

def inProgress : String := "source_ingestion_in_progress"

namespace IngestProcess

/-- The next statement of a call. -/
def next : IngestProcess → Option (SourceDb × IngestProcess)
  | .looking input pass =>
    if pass < 3 then
      match readSourceByCanonicalKey db input.canonicalSourceKey with
      | some (sourceId, existing) => some (db, .replaying input sourceId existing)
      | none => some (db, .reserving input pass)
    else some (db, .threw inProgress)
  | .reserving input pass =>
    match reserveSourceIngestionAttempt now db input.reservation with
    | some db' => some (db', .ingesting input)
    | none => some (db, .waiting input pass)
  | .waiting input pass =>
    match readSourceByCanonicalKey db input.canonicalSourceKey with
    | some (sourceId, existing) => some (db, .replaying input sourceId existing)
    | none => some (db, .waitingAttempt input pass)
  | .waitingAttempt input pass =>
    some (db, if (db.ingestionAttempts input.canonicalSourceKey).all fun attempt =>
      attempt.reservable now then .looking input (pass + 1) else .waiting input pass)
  | .failing input error =>
    some (failSourceIngestionAttempt now db input.canonicalSourceKey input.leaseOwner error,
      .threw error)
  | .committing input ingestion =>
    match readSourceByCanonicalKey db input.canonicalSourceKey with
    | some (sourceId, existing) =>
      match replayDuplicateSourceSubmission now db input sourceId existing with
      | .ok (submissionId, db') => some (db', .returned input sourceId submissionId .duplicate)
      | .error e => some (db, .threw e)
    | none =>
      match createSource now db input ingestion with
      | .ok (sourceId, submissionId, db') =>
        some (db', .opening input sourceId submissionId [.extract, .synth]
          (inputArtifactKeys ingestion))
      | .error e => some (db, .threw e)
  | .replaying input sourceId existing =>
    some (db, if isReplayable db existing then .matching input sourceId
      else .threw (replayUnavailable sourceId))
  | .matching input sourceId =>
    match recordedSubmission db input sourceId with
    | .error e => some (db, .threw e)
    | .ok (some submissionId) => some (db, .returned input sourceId submissionId .duplicate)
    | .ok none => some (db, .inserting input sourceId)
  | .inserting input sourceId =>
    match insertSourceSubmissionRecord db (input.submission now sourceId .duplicate) with
    | .ok (submissionId, db') => some (db', .returned input sourceId submissionId .duplicate)
    | .error e => some (db, .threw e)
  | .opening input sourceId submissionId [] _ =>
    some (db, .returned input sourceId submissionId .created)
  | .opening input sourceId submissionId (task :: tasks) keys =>
    some ({ db with
        review := (Review.createReviewTask now db.review ⟨sourceTaskSpec sourceId keys task⟩).2 },
      .opening input sourceId submissionId tasks keys)
  | .idle | .ingesting _ | .returned .. | .threw _ | .crashed => none

/-- A call that is over: it has returned, thrown or crashed, or never begun. -/
def isOver : IngestProcess → Bool
  | .idle | .returned .. | .threw _ | .crashed => true
  | _ => false

/-- A call acts. -/
def act (a : IngestAction) (db : SourceDb) (p : IngestProcess) :
    Option (SourceDb × IngestProcess) :=
  match a, p with
  | .call input, .idle => some (db, .looking input 0)
  | .next now, p => p.next now db
  | .ingested ingestion, .ingesting input => some (db, .committing input ingestion)
  | .ingestionFailed error, .ingesting input => some (db, .failing input error)
  | .timeout, .waiting _ _ => some (db, .threw inProgress)
  | .crash, p => if p.isOver then none else some (db, .crashed)
  | _, _ => none

end IngestProcess

/-- **The calls of `ingestSource`**, on tables that are empty to begin with. The review store
next to them goes on in any way. -/
def ingestion : Processes SourceDb IngestProcess IngestAction (Time × ReviewCall) where
  genesis db := db = .empty
  idle := .idle
  act := IngestProcess.act
  env b db db' := db' = { db with review := b.2.exec b.1 db.review }

/-! ### What a statement does -/

namespace IngestProcess

/-- The source a call relies on, with the key it has been found under. -/
def relied : IngestProcess → Option (ℕ × String)
  | .replaying input sourceId _ | .matching input sourceId | .inserting input sourceId
  | .opening input sourceId .. | .returned input sourceId .. =>
    some (sourceId, input.canonicalSourceKey)
  | _ => none

/-- The tasks a call has still to open, each with its source. -/
def toOpen : IngestProcess → List (ℕ × SourceTask)
  | .opening _ sourceId _ tasks _ => tasks.map fun task => (sourceId, task)
  | _ => []

end IngestProcess

/-- **What a step of a call does**: it reads at most, or it is one of the writes. -/
inductive IngestEffect (db : SourceDb) (p : IngestProcess) :
    IngestAction → SourceDb → IngestProcess → Prop
  | quiet {a : IngestAction} {p' : IngestProcess} :
      (∀ source ∈ p'.relied, source ∈ p.relied ∨ ∃ row, db.sources source.1 = some row ∧
        row.canonicalSourceKey = source.2) →
      p'.toOpen = [] → (a = .crash ∨ p.toOpen = []) → IngestEffect db p a db p'
  | reserve {now : Time} {input : SourceIngest} {db' : SourceDb} :
      reserveSourceIngestionAttempt now db input.reservation = some db' → p.toOpen = [] →
      IngestEffect db p (.next now) db' (.ingesting input)
  | fail {now : Time} {input : SourceIngest} {error : String} : p.toOpen = [] →
      IngestEffect db p (.next now)
        (failSourceIngestionAttempt now db input.canonicalSourceKey input.leaseOwner error)
        (.threw error)
  | duplicate {now : Time} {input : SourceIngest} {sourceId submissionId : ℕ} {db' : SourceDb} :
      ((sourceId, input.canonicalSourceKey) ∈ p.relied ∨ ∃ row, db.sources sourceId = some row ∧
        row.canonicalSourceKey = input.canonicalSourceKey) →
      insertSourceSubmissionRecord db (input.submission now sourceId .duplicate) =
        .ok (submissionId, db') →
      p.toOpen = [] →
      IngestEffect db p (.next now) db' (.returned input sourceId submissionId .duplicate)
  | create {now : Time} {input : SourceIngest} {ingestion : ArtifactIngestionResult}
      {sourceId submissionId : ℕ} {db' : SourceDb} :
      p = .committing input ingestion →
      readSourceByCanonicalKey db input.canonicalSourceKey = none →
      createSource now db input ingestion = .ok (sourceId, submissionId, db') →
      IngestEffect db p (.next now) db'
        (.opening input sourceId submissionId [.extract, .synth] (inputArtifactKeys ingestion))
  | openTask {now : Time} {input : SourceIngest} {sourceId submissionId : ℕ} {task : SourceTask}
      {tasks : List SourceTask} {keys : List String} :
      p = .opening input sourceId submissionId (task :: tasks) keys →
      IngestEffect db p (.next now)
        { db with
          review := (Review.createReviewTask now db.review ⟨sourceTaskSpec sourceId keys task⟩).2 }
        (.opening input sourceId submissionId tasks keys)

section

variable {now : Time} {db db' : SourceDb} {p p' : IngestProcess}

/-- The source that is found under a key. -/
theorem readSourceByCanonicalKey_eq_some {key : String} {sourceId : ℕ} {row : SourceRecord}
    (h : readSourceByCanonicalKey db key = some (sourceId, row)) :
    db.sources sourceId = some row ∧ row.canonicalSourceKey = key :=
  Sql.Serial.findBy_eq_some h

theorem next_effect (h : p.next now db = some (db', p')) :
    IngestEffect db p (.next now) db' p' := by
  -- A source that has just been found may be relied on.
  have hfound : ∀ {key sourceId row}, readSourceByCanonicalKey db key = some (sourceId, row) →
      ∀ source ∈ some (sourceId, key), source ∈ p.relied ∨ ∃ row, db.sources source.1 = some row ∧
        row.canonicalSourceKey = source.2 := by
    rintro key sourceId row hread source ⟨⟩
    exact .inr ⟨row, readSourceByCanonicalKey_eq_some hread⟩
  cases p with
  | idle | ingesting _ | returned _ _ _ _ | threw _ | crashed => exact absurd h nofun
  | looking input pass =>
    rw [IngestProcess.next] at h
    split at h
    · split at h
      next sourceId row hread =>
        obtain ⟨rfl, rfl⟩ := Prod.mk.inj (Option.some.inj h)
        exact .quiet (hfound hread) rfl (.inr rfl)
      next =>
        obtain ⟨rfl, rfl⟩ := Prod.mk.inj (Option.some.inj h)
        exact .quiet nofun rfl (.inr rfl)
    · obtain ⟨rfl, rfl⟩ := Prod.mk.inj (Option.some.inj h)
      exact .quiet nofun rfl (.inr rfl)
  | reserving input pass =>
    rw [IngestProcess.next] at h
    split at h
    next db₁ hreserve =>
      obtain ⟨rfl, rfl⟩ := Prod.mk.inj (Option.some.inj h)
      exact .reserve hreserve rfl
    next =>
      obtain ⟨rfl, rfl⟩ := Prod.mk.inj (Option.some.inj h)
      exact .quiet nofun rfl (.inr rfl)
  | waiting input pass =>
    rw [IngestProcess.next] at h
    split at h
    next sourceId row hread =>
      obtain ⟨rfl, rfl⟩ := Prod.mk.inj (Option.some.inj h)
      exact .quiet (hfound hread) rfl (.inr rfl)
    next =>
      obtain ⟨rfl, rfl⟩ := Prod.mk.inj (Option.some.inj h)
      exact .quiet nofun rfl (.inr rfl)
  | waitingAttempt input pass =>
    obtain ⟨rfl, rfl⟩ := Prod.mk.inj (Option.some.inj h)
    split <;> exact .quiet nofun rfl (.inr rfl)
  | failing input error =>
    obtain ⟨rfl, rfl⟩ := Prod.mk.inj (Option.some.inj h)
    exact .fail rfl
  | committing input ingestion =>
    rw [IngestProcess.next] at h
    split at h
    next sourceId row hread =>
      split at h
      next submissionId db₁ hreplay =>
        obtain ⟨rfl, rfl⟩ := Prod.mk.inj (Option.some.inj h)
        unfold replayDuplicateSourceSubmission at hreplay
        split at hreplay
        · split at hreplay
          · exact absurd hreplay nofun
          · obtain ⟨rfl, rfl⟩ := Prod.mk.inj (Except.ok.inj hreplay)
            exact .quiet (hfound hread) rfl (.inr rfl)
          · exact .duplicate (.inr ⟨row, readSourceByCanonicalKey_eq_some hread⟩) hreplay rfl
        · exact absurd hreplay nofun
      next =>
        obtain ⟨rfl, rfl⟩ := Prod.mk.inj (Option.some.inj h)
        exact .quiet nofun rfl (.inr rfl)
    next hread =>
      split at h
      next sourceId submissionId db₁ hcreate =>
        obtain ⟨rfl, rfl⟩ := Prod.mk.inj (Option.some.inj h)
        exact .create rfl hread hcreate
      next =>
        obtain ⟨rfl, rfl⟩ := Prod.mk.inj (Option.some.inj h)
        exact .quiet nofun rfl (.inr rfl)
  | replaying input sourceId existing =>
    obtain ⟨rfl, rfl⟩ := Prod.mk.inj (Option.some.inj h)
    split
    · exact .quiet (fun _ hmem => .inl hmem) rfl (.inr rfl)
    · exact .quiet nofun rfl (.inr rfl)
  | matching input sourceId =>
    rw [IngestProcess.next] at h
    split at h
    · obtain ⟨rfl, rfl⟩ := Prod.mk.inj (Option.some.inj h)
      exact .quiet nofun rfl (.inr rfl)
    · obtain ⟨rfl, rfl⟩ := Prod.mk.inj (Option.some.inj h)
      exact .quiet (fun _ hmem => .inl hmem) rfl (.inr rfl)
    · obtain ⟨rfl, rfl⟩ := Prod.mk.inj (Option.some.inj h)
      exact .quiet (fun _ hmem => .inl hmem) rfl (.inr rfl)
  | inserting input sourceId =>
    rw [IngestProcess.next] at h
    split at h
    next submissionId db₁ hinsert =>
      obtain ⟨rfl, rfl⟩ := Prod.mk.inj (Option.some.inj h)
      exact .duplicate (.inl rfl) hinsert rfl
    next =>
      obtain ⟨rfl, rfl⟩ := Prod.mk.inj (Option.some.inj h)
      exact .quiet nofun rfl (.inr rfl)
  | opening input sourceId submissionId tasks keys =>
    cases tasks with
    | nil =>
      obtain ⟨rfl, rfl⟩ := Prod.mk.inj (Option.some.inj h)
      exact .quiet (fun _ hmem => .inl hmem) rfl (.inr rfl)
    | cons task tasks =>
      obtain ⟨rfl, rfl⟩ := Prod.mk.inj (Option.some.inj h)
      exact .openTask rfl

/-- **Every step of a call.** -/
theorem act_effect {a : IngestAction} (h : IngestProcess.act a db p = some (db', p')) :
    IngestEffect db p a db' p' := by
  unfold IngestProcess.act at h
  split at h
  · obtain ⟨rfl, rfl⟩ := Prod.mk.inj (Option.some.inj h)
    exact .quiet nofun rfl (.inr rfl)
  · exact next_effect h
  · obtain ⟨rfl, rfl⟩ := Prod.mk.inj (Option.some.inj h)
    exact .quiet nofun rfl (.inr rfl)
  · obtain ⟨rfl, rfl⟩ := Prod.mk.inj (Option.some.inj h)
    exact .quiet nofun rfl (.inr rfl)
  · obtain ⟨rfl, rfl⟩ := Prod.mk.inj (Option.some.inj h)
    exact .quiet nofun rfl (.inr rfl)
  · split at h
    · exact absurd h nofun
    · obtain ⟨rfl, rfl⟩ := Prod.mk.inj (Option.some.inj h)
      exact .quiet nofun rfl (.inl rfl)
  · exact absurd h nofun

end

end ScientificProtocol.Sources
