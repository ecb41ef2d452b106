import ScientificProtocol.Indexer.Columns
import ScientificProtocol.Js.Json
import ScientificProtocol.Js.Text
import ScientificProtocol.Sql.Table
import Mathlib.Data.List.Sort
import Mathlib.Logic.Function.Basic

/-!
# Reputation payloads

What `src/reputation/engine.ts` writes and `src/reputation/store.ts` reads. A payload is a list of
actors by rank. Its body is written to an artifact with an indentation and a line end, and hashed
without (`ScientificProtocol.Reputation.PayloadBody.artifactText`, `hashedText`); the row cites both.
The latest payload of a domain is looked up with every page of its leaderboard.

The hash is left open. Artifacts are files in a directory, named by their hash, and `artifact_key`
is a kind with the first digits of it.
-/

namespace ScientificProtocol.Reputation

open Js Sql

/-! ### What a payload says -/

/-- What the engine has counted for an actor. -/
structure ActorAggregate where
  checkpointCount : ℕ
  claimCount : ℕ
  fraudSignalReplicationCount : ℕ
  fraudulentClaimCount : ℕ
  inconclusiveReplicationCount : ℕ
  refutedClaimCount : ℕ
  refutedReplicationCount : ℕ
  replicationCount : ℕ
  score : ℤ
  subjectActor : String
  supportedClaimCount : ℕ
  supportedReplicationCount : ℕ
  deriving DecidableEq

/-- `LeaderboardEntryView`. -/
structure LeaderboardEntryView where
  payloadId : ℕ
  domainId : ℕ
  rank : ℕ
  subjectActor : String
  score : ℤ
  claimCount : ℕ
  supportedClaimCount : ℕ
  refutedClaimCount : ℕ
  fraudulentClaimCount : ℕ
  replicationCount : ℕ
  checkpointCount : ℕ
  deriving DecidableEq

/-- What varies in `payloadBody`. -/
structure PayloadBody where
  createdAt : String
  cutoffBlock : ℕ
  cursorBlock : Option ℕ
  domainId : ℕ
  ordered : List ActorAggregate
  deriving DecidableEq

def reputationPolicyVersion : String := "reputation-v2-direction-neutral-work"

def ActorAggregate.json (index : ℕ) (entry : ActorAggregate) : Json String ℕ :=
  .object [
    ("rank", .number (index + 1)),
    ("subjectActor", .string entry.subjectActor),
    ("score", .string (toString entry.score)),
    ("claimCount", .number entry.claimCount),
    ("supportedClaimCount", .number entry.supportedClaimCount),
    ("refutedClaimCount", .number entry.refutedClaimCount),
    ("fraudulentClaimCount", .number entry.fraudulentClaimCount),
    ("replicationCount", .number entry.replicationCount),
    ("checkpointCount", .number entry.checkpointCount),
    ("workQuality", .object [
      ("fraudSignalReplicationCount", .number entry.fraudSignalReplicationCount),
      ("inconclusiveReplicationCount", .number entry.inconclusiveReplicationCount),
      ("refutedReplicationCount", .number entry.refutedReplicationCount),
      ("supportedReplicationCount", .number entry.supportedReplicationCount)])]

def PayloadBody.members (body : PayloadBody) : List (String × Json String ℕ) := [
  ("contentHashAlgorithm", .string "sha256"),
  ("createdAt", .string body.createdAt),
  ("cutoffBlock", .number body.cutoffBlock),
  ("cursorBlock", match body.cursorBlock with
    | some block => .number block
    | none => .null),
  ("domainId", .number body.domainId),
  ("entries", .array (body.ordered.mapIdx ActorAggregate.json)),
  ("policyVersion", .string reputationPolicyVersion),
  ("producer", .string "scientific-protocol/reputation-engine"),
  ("schemaVersion", .string "2.0.0"),
  ("scoringSemantics", .object [
    ("checkpointCadenceAffectsScore", .bool false),
    ("replicationWorkQualityIsOutcomeDirectionNeutral", .bool true)])]

/-- What is hashed: `JSON.stringify(payloadBody)`. -/
def PayloadBody.hashedText (body : PayloadBody) : String :=
  (Json.object body.members).stringify quote toString

/-- What `persistJsonArtifact` stores. -/
def PayloadBody.artifactText (body : PayloadBody) : String :=
  (Json.object body.members).indented quote toString "" ++ "\n"

/-- **The two texts are never the same.** -/
theorem hashedText_ne_artifactText (body : PayloadBody) : body.hashedText ≠ body.artifactText :=
  stringify_ne_line _

/-- The rows of the leaderboard. -/
def PayloadBody.entries (body : PayloadBody) (payloadId : ℕ) : List LeaderboardEntryView :=
  body.ordered.mapIdx fun index entry =>
    { payloadId
      domainId := body.domainId
      rank := index + 1
      subjectActor := entry.subjectActor
      score := entry.score
      claimCount := entry.claimCount
      supportedClaimCount := entry.supportedClaimCount
      refutedClaimCount := entry.refutedClaimCount
      fraudulentClaimCount := entry.fraudulentClaimCount
      replicationCount := entry.replicationCount
      checkpointCount := entry.checkpointCount }

/-! ### The store -/

/-- A row of `reputation_payloads`, together with the body it has been made from. -/
structure PayloadRow where
  payloadId : ℕ
  domainId : ℕ
  cutoffBlock : ℕ
  cursorBlock : Option ℕ
  payloadHash : String
  artifactKey : String
  entryCount : ℕ
  policyVersion : String
  createdAt : ℕ
  body : PayloadBody
  deriving DecidableEq

/-- A row of `persisted_artifacts`, under its key. The hash tells where the file is. -/
structure ArtifactRow where
  sha256 : String
  deriving DecidableEq

/-- What is stored as an artifact of a checkpoint, with `summary` for the entry. -/
structure ScoreVector where
  domainId : ℕ
  payloadId : ℕ
  rank : ℕ
  subjectActor : String
  summary : LeaderboardEntryView
  deriving DecidableEq

/-- A checkpoint of an actor, as it is published. -/
structure Checkpoint where
  domainId : ℕ
  subjectActor : String
  payloadHash : String
  scoreVector : ScoreVector
  deriving DecidableEq

structure ReputationDb where
  files : String → Option String
  artifacts : Table String ArtifactRow
  /-- In the order in which they have been committed. -/
  payloads : List PayloadRow
  /-- The rows of `reputation_leaderboard_entries`, by payload. -/
  entries : ℕ → List LeaderboardEntryView
  checkpoints : List Checkpoint
  /-- The columns of the replications, which a computation lists. -/
  replicationsSchema : Indexer.ReplicationsSchema

/-- The store before anything is computed. -/
def ReputationDb.empty (replicationsSchema : Indexer.ReplicationsSchema) : ReputationDb :=
  ⟨fun _ => none, .empty, [], fun _ => [], [], replicationsSchema⟩

/-! ### Queries -/

/-- `created_at DESC, payload_id DESC`. -/
def NewerFirst (row row' : PayloadRow) : Prop :=
  row'.createdAt < row.createdAt ∨ row'.createdAt = row.createdAt ∧ row'.payloadId ≤ row.payloadId

instance : DecidableRel NewerFirst := fun row row' =>
  inferInstanceAs (Decidable (row'.createdAt < row.createdAt ∨
    row'.createdAt = row.createdAt ∧ row'.payloadId ≤ row.payloadId))

def readLatestReputationPayload (db : ReputationDb) (domainId : ℕ) : Option PayloadRow :=
  ((db.payloads.filter (·.domainId = domainId)).insertionSort NewerFirst).head?

/-- `rank ASC, lower(subject_actor) ASC`. -/
def RankBefore (entry entry' : LeaderboardEntryView) : Prop :=
  entry.rank < entry'.rank ∨
    entry.rank = entry'.rank ∧ toLowerCase entry.subjectActor ≤ toLowerCase entry'.subjectActor

instance : DecidableRel RankBefore := fun entry entry' =>
  inferInstanceAs (Decidable (entry.rank < entry'.rank ∨
    entry.rank = entry'.rank ∧ toLowerCase entry.subjectActor ≤ toLowerCase entry'.subjectActor))

/-- `SELECT COUNT(*) ... WHERE payload_id = $1`. -/
def countLeaderboardEntries (db : ReputationDb) (payloadId : ℕ) : ℕ := (db.entries payloadId).length

def queryLeaderboardEntries (db : ReputationDb) (payloadId limit offset : ℕ) :
    List LeaderboardEntryView :=
  (((db.entries payloadId).insertionSort RankBefore).drop offset).take limit

/-- What is found is there, and of the domain. -/
theorem mem_of_readLatest {db : ReputationDb} {domainId : ℕ} {row : PayloadRow}
    (h : readLatestReputationPayload db domainId = some row) :
    row ∈ db.payloads ∧ row.domainId = domainId := by
  have hmem := (List.mem_insertionSort _).mp (List.mem_of_mem_head? h)
  obtain ⟨hrow, hdomain⟩ := List.mem_filter.mp hmem
  exact ⟨hrow, of_decide_eq_true hdomain⟩

/-- The entries of a payload are stored by rank. -/
theorem insertionSort_entries (body : PayloadBody) (payloadId : ℕ) :
    (body.entries payloadId).insertionSort RankBefore = body.entries payloadId := by
  refine List.Pairwise.insertionSort_eq (List.pairwise_iff_getElem.mpr fun i j hi hj hij => ?_)
  simp only [PayloadBody.entries, List.getElem_mapIdx]
  exact .inl (Nat.succ_lt_succ hij)

/-- No actor has two of them. -/
theorem map_subjectActor_entries (body : PayloadBody) (payloadId : ℕ) :
    (body.entries payloadId).map (·.subjectActor) = body.ordered.map (·.subjectActor) := by
  refine List.ext_getElem (by simp [PayloadBody.entries]) fun i _ _ => ?_
  simp [PayloadBody.entries]

end ScientificProtocol.Reputation
