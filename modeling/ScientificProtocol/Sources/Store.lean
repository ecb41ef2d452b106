import Mathlib.Data.List.Sort
import ScientificProtocol.Evm.Tx
import ScientificProtocol.Js.Text
import ScientificProtocol.Review.Store

/-!
# The source store

`src/sources/store.ts`: sources that have been ingested, who has submitted them, and what has
been made of them. Each function here is one statement, so one step of whoever calls it.

| table | key | other unique columns |
|---|---|---|
| `source_records` | serial | the canonical key of the source |
| `source_ingestion_attempts` | the canonical key | |
| `source_submission_records` | serial | the request hash, where there is one |
| `source_extraction_candidates` | serial | |
| `source_publication_attempts` | the source | |

An ingestion attempt is a lease with an expiry and an owner, who is asked for at its end
only: `completeSourceIngestionAttempt` and `failSourceIngestionAttempt` do nothing for
anybody else. A publication attempt is a reservation that is never given up:
`reserveSourcePublicationAttempt` creates it for the first caller, and shows it to the
others. The status of a source is written by `updateSourceRecordStatus` and
`markSourcePublished`, neither of which looks at it first.
-/

namespace ScientificProtocol.Sources

open Evm
open Review (Time ReviewDb)

/-! ### Rows -/

inductive SourceRecordStatus where
  | discovered
  | snapshotted
  | extracting
  | readyForPublication
  | published
  | rejected
  deriving DecidableEq, Repr

inductive SourceDiscoveryMode where
  | agentDiscovered
  | userSubmitted
  deriving DecidableEq, Repr

inductive SourceType where
  | repository
  | url
  deriving DecidableEq, Repr

/-- What ingestion has found out about a source. A preview and a version are JSON texts. -/
structure SourceMetadata where
  artifactType : ℕ
  locator : String
  preview : Option String
  ref : Option String
  sourceType : SourceType
  sourceVersion : Option String
  title : String
  deriving DecidableEq

/-- A row of `source_records`. -/
structure SourceRecord where
  canonicalSourceKey : String
  sourceType : SourceType
  discoveryMode : SourceDiscoveryMode
  submittedByActor : Option Address
  submittedByAgentId : Option String
  status : SourceRecordStatus
  snapshotArtifactKey : Option String
  extractionArtifactKey : Option String
  publishedClaimId : Option ℕ
  sourceMetadata : SourceMetadata
  createdAt : Time
  updatedAt : Time
  deriving DecidableEq

inductive IngestionStatus where
  | completed
  | failed
  | ingesting
  deriving DecidableEq, Repr

/-- A row of `source_ingestion_attempts`. -/
structure SourceIngestionAttempt where
  sourceType : SourceType
  rawLocator : String
  normalizedLocator : String
  status : IngestionStatus
  leaseOwner : Option String
  leaseExpiresAt : Option Time
  attemptCount : ℕ
  sourceId : Option ℕ
  lastError : Option String
  updatedAt : Time
  deriving DecidableEq

inductive SourceSubmissionOutcome where
  | created
  | duplicate
  deriving DecidableEq, Repr

/-- A row of `source_submission_records`. -/
structure SourceSubmissionRecord where
  sourceId : ℕ
  canonicalSourceKey : String
  submittedByActor : Option Address
  submittedByAgentId : Option String
  discoveryMode : SourceDiscoveryMode
  submissionOutcome : SourceSubmissionOutcome
  rawLocator : String
  normalizedLocator : String
  requestHash : Option String
  createdAt : Time
  deriving DecidableEq

structure SourceExtractionAnchor where
  label : String
  text : String
  deriving DecidableEq

/-- A row of `source_extraction_candidates`. -/
structure SourceExtractionCandidate where
  sourceId : ℕ
  submissionId : String
  taskId : String
  reviewerAgentId : Option String
  statement : String
  scope : String
  claimType : String
  methodology : String
  confidenceBps : ℤ
  anchors : List SourceExtractionAnchor
  createdAt : Time
  deriving DecidableEq

inductive PublicationMode where
  | auto
  | manual
  deriving DecidableEq, Repr

inductive PublicationAttemptStatus where
  | claimReady
  | completed
  | pending
  | reconciliationRequired
  deriving DecidableEq, Repr

/-- A row of `source_publication_attempts`. -/
structure SourcePublicationAttempt where
  candidateId : ℕ
  publicationMode : PublicationMode
  status : PublicationAttemptStatus
  claimId : Option ℕ
  lastError : Option String
  updatedAt : Time
  deriving DecidableEq

/-- What is kept of an artifact. -/
structure PersistedArtifact where
  artifactKey : String
  contentType : String
  sha256 : String
  deriving DecidableEq

/-- The tables of the source store, and those of the review store next to them. The claims of the
read model are there for the sources that refer to them. -/
structure SourceDb where
  claims : List ℕ
  sources : Sql.Serial SourceRecord
  ingestionAttempts : Sql.Table String SourceIngestionAttempt
  submissions : Sql.Serial SourceSubmissionRecord
  artifacts : Sql.Table String PersistedArtifact
  candidates : Sql.Serial SourceExtractionCandidate
  publicationAttempts : Sql.Table ℕ SourcePublicationAttempt
  review : ReviewDb

/-- The tables as they are set up. -/
def SourceDb.empty : SourceDb := ⟨[], .empty, .empty, .empty, .empty, .empty, .empty, .empty⟩

variable (now : Time) (db : SourceDb)

/-! ### Ingestion attempts -/

def readSourceByCanonicalKey (canonicalSourceKey : String) : Option (ℕ × SourceRecord) :=
  db.sources.findBy SourceRecord.canonicalSourceKey canonicalSourceKey

structure ReserveSourceIngestionAttempt where
  canonicalSourceKey : String
  leaseMs : ℕ
  leaseOwner : String
  normalizedLocator : String
  rawLocator : String
  sourceType : SourceType
  deriving DecidableEq

/-- What `ON CONFLICT ... WHERE` asks: the attempt has failed, or its lease has expired. -/
def SourceIngestionAttempt.reservable (attempt : SourceIngestionAttempt) : Bool :=
  decide (attempt.status = .failed) ||
    attempt.leaseExpiresAt.any fun expiresAt => decide (expiresAt ≤ now)

/-- The tables with the lease, or none if it is not to be had. -/
def reserveSourceIngestionAttempt (input : ReserveSourceIngestionAttempt) : Option SourceDb :=
  match db.ingestionAttempts input.canonicalSourceKey with
  | none =>
    some
      { db with
        ingestionAttempts := db.ingestionAttempts.set input.canonicalSourceKey
          { sourceType := input.sourceType, rawLocator := input.rawLocator
            normalizedLocator := input.normalizedLocator, status := .ingesting
            leaseOwner := some input.leaseOwner, leaseExpiresAt := some (now + input.leaseMs)
            attemptCount := 1, sourceId := none, lastError := none, updatedAt := now } }
  | some attempt =>
    if attempt.reservable now then
      some
        { db with
          ingestionAttempts := db.ingestionAttempts.set input.canonicalSourceKey
            { attempt with
              status := .ingesting, leaseOwner := some input.leaseOwner
              leaseExpiresAt := some (now + input.leaseMs)
              attemptCount := attempt.attemptCount + 1, lastError := none, updatedAt := now } }
    else none

/-- An owner is ingesting. -/
def SourceIngestionAttempt.ownedBy (attempt : SourceIngestionAttempt) (leaseOwner : String) :
    Bool :=
  decide (attempt.leaseOwner = some leaseOwner ∧ attempt.status = .ingesting)

def SourceIngestionAttempt.complete (attempt : SourceIngestionAttempt) (sourceId : ℕ) :
    SourceIngestionAttempt :=
  { attempt with
    status := .completed, sourceId := some sourceId, leaseOwner := none, leaseExpiresAt := none
    lastError := none, updatedAt := now }

def SourceIngestionAttempt.fail (attempt : SourceIngestionAttempt) (lastError : String) :
    SourceIngestionAttempt :=
  { attempt with
    status := .failed, leaseOwner := none, leaseExpiresAt := none
    lastError := some (Js.slice 2000 lastError), updatedAt := now }

/-- None if the lease has been lost. -/
def completeSourceIngestionAttempt (canonicalSourceKey leaseOwner : String) (sourceId : ℕ) :
    Option SourceDb :=
  if (db.ingestionAttempts canonicalSourceKey).any fun attempt => attempt.ownedBy leaseOwner then
    some
      { db with
        ingestionAttempts := db.ingestionAttempts.update canonicalSourceKey fun attempt =>
          attempt.complete now sourceId }
  else none

def failSourceIngestionAttempt (canonicalSourceKey leaseOwner lastError : String) : SourceDb :=
  { db with
    ingestionAttempts := db.ingestionAttempts.update canonicalSourceKey fun attempt =>
      if attempt.ownedBy leaseOwner then attempt.fail now lastError else attempt }

/-! ### Sources and submissions -/

def upsertPersistedArtifact (artifact : PersistedArtifact) : SourceDb :=
  { db with artifacts := db.artifacts.set artifact.artifactKey artifact }

/-- What `ON CONFLICT` makes of a source that is there: `new` is the row that is offered. -/
def SourceRecord.merge (new source : SourceRecord) : SourceRecord :=
  { source with
    sourceType := new.sourceType, discoveryMode := new.discoveryMode
    submittedByActor := source.submittedByActor.or new.submittedByActor
    submittedByAgentId := source.submittedByAgentId.or new.submittedByAgentId
    status := new.status
    snapshotArtifactKey := new.snapshotArtifactKey.or source.snapshotArtifactKey
    extractionArtifactKey := new.extractionArtifactKey.or source.extractionArtifactKey
    publishedClaimId := new.publishedClaimId.or source.publishedClaimId
    sourceMetadata := new.sourceMetadata, updatedAt := now }

/-- The source, and the tables with it. -/
def upsertSourceRecord (new : SourceRecord) : ℕ × SourceDb :=
  match readSourceByCanonicalKey db new.canonicalSourceKey with
  | none => (db.sources.next, { db with sources := db.sources.insert new })
  | some (sourceId, _) =>
    (sourceId, { db with sources := db.sources.update sourceId (SourceRecord.merge now new) })

/-- The submission of a request hash, if one has been recorded. -/
def readSourceSubmissionRecordByRequestHash (requestHash : String) :
    Option (ℕ × SourceSubmissionRecord) :=
  db.submissions.findBy SourceSubmissionRecord.requestHash (some (Js.toLowerCase requestHash))

/-- An insertion fails where its request hash is there already. -/
def insertSourceSubmissionRecord (record : SourceSubmissionRecord) :
    Except String (ℕ × SourceDb) :=
  if record.requestHash.isSome &&
      (db.submissions.findBy SourceSubmissionRecord.requestHash record.requestHash).isSome then
    .error "23505"
  else .ok (db.submissions.next, { db with submissions := db.submissions.insert record })

/-! ### Publication -/

def updateSourceRecordStatus (sourceId : ℕ) (status : SourceRecordStatus) : SourceDb :=
  { db with
    sources := db.sources.update sourceId fun source => { source with status, updatedAt := now } }

/-- A source with its claim. -/
def SourceDb.setPublished (sourceId publishedClaimId : ℕ) : SourceDb :=
  { db with
    sources := db.sources.update sourceId fun source =>
      { source with
        publishedClaimId := some publishedClaimId, status := .published, updatedAt := now } }

/-- `published_claim_id` references `claims`. -/
def markSourcePublished (sourceId publishedClaimId : ℕ) : Except String SourceDb :=
  if publishedClaimId ∈ db.claims then .ok (db.setPublished now sourceId publishedClaimId)
  else .error "23503"

/-- `readSourceExtractionCandidates`, the newest first. -/
def readSourceExtractionCandidates (sourceId : ℕ) : List (ℕ × SourceExtractionCandidate) :=
  List.insertionSort (fun a b => b.2.createdAt ≤ a.2.createdAt)
    (db.candidates.select fun _ candidate => decide (candidate.sourceId = sourceId)).reverse

variable {db} in
theorem mem_readSourceExtractionCandidates {sourceId candidateId : ℕ}
    {candidate : SourceExtractionCandidate} :
    (candidateId, candidate) ∈ readSourceExtractionCandidates db sourceId ↔
      db.candidates candidateId = some candidate ∧ candidate.sourceId = sourceId := by
  rw [readSourceExtractionCandidates, (List.perm_insertionSort _ _).mem_iff, List.mem_reverse,
    Sql.Serial.mem_select, decide_eq_true_iff]

/-- A candidate of a submission, which is there once. -/
def insertSourceExtractionCandidate (new : SourceExtractionCandidate) : SourceDb :=
  match db.candidates.findBy SourceExtractionCandidate.submissionId new.submissionId with
  | none => { db with candidates := db.candidates.insert new }
  | some (candidateId, _) =>
    { db with
      candidates := db.candidates.update candidateId fun candidate =>
        { candidate with
          reviewerAgentId := new.reviewerAgentId, statement := new.statement, scope := new.scope
          claimType := new.claimType, methodology := new.methodology
          confidenceBps := new.confidenceBps, anchors := new.anchors } }

/-- Whether the attempt is a new one, and the tables with it. -/
def reserveSourcePublicationAttempt (sourceId candidateId : ℕ) (publicationMode : PublicationMode) :
    Bool × SourceDb :=
  match db.publicationAttempts sourceId with
  | some _ => (false, db)
  | none =>
    (true,
      { db with
        publicationAttempts := db.publicationAttempts.set sourceId
          { candidateId, publicationMode, status := .pending, claimId := none
            lastError := none, updatedAt := now } })

namespace SourcePublicationAttempt

variable (attempt : SourcePublicationAttempt)

def ready (claimId : ℕ) : SourcePublicationAttempt :=
  { attempt with
    claimId := some claimId, status := .claimReady, lastError := none, updatedAt := now }

/-- `WHERE status = 'pending'`. -/
def reconcile (error : String) : SourcePublicationAttempt :=
  if attempt.status = .pending then
    { attempt with
      status := .reconciliationRequired, lastError := some (Js.slice 2000 error)
      updatedAt := now }
  else attempt

/-- `WHERE claim_id IS NOT NULL`. -/
def complete : SourcePublicationAttempt :=
  if attempt.claimId.isSome then
    { attempt with status := .completed, lastError := none, updatedAt := now }
  else attempt

end SourcePublicationAttempt

def markSourcePublicationClaimReady (sourceId claimId : ℕ) : SourceDb :=
  { db with
    publicationAttempts := db.publicationAttempts.update sourceId fun attempt =>
      attempt.ready now claimId }

def markSourcePublicationReconciliationRequired (sourceId : ℕ) (error : String) : SourceDb :=
  { db with
    publicationAttempts := db.publicationAttempts.update sourceId fun attempt =>
      attempt.reconcile now error }

def markSourcePublicationAttemptCompleted (sourceId : ℕ) : SourceDb :=
  { db with
    publicationAttempts := db.publicationAttempts.update sourceId fun attempt =>
      attempt.complete now }

end ScientificProtocol.Sources
