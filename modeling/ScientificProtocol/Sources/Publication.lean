import ScientificProtocol.Sources.Decision
import ScientificProtocol.Sources.Ingestion
import ScientificProtocol.Submission.ClaimCreation

/-!
# Publishing a source

A source becomes a claim in one of two ways. `attemptSourceAutoPublication` of
`src/sources/auto-publish.ts` is called whenever an agent has submitted a candidate, and acts
if the candidates agree; `confirmSourcePublication` of `src/sources/manual-publication.ts` is
called by a person who has chosen a candidate. Both reserve the publication attempt of the
source before they create a claim, and both leave it at a draft: the claim is published when
its author has put down a bond, by confirming once more. `rejectSourcePublication` is the
other end of a source.

Each of the three reads the source once, at its beginning, and writes its status without
looking again. What it does in between (a transaction on the chain, a synchronization of the
read model) takes its time, and any number of calls are under way: so a call may write to a
source that is not any more what it has read.

| step | what it looks at |
|---|---|
| reserving the attempt | whether there is one |
| creating a claim | nothing: the reservation was made by this call |
| going on with an attempt | its mode, its candidate, its status and its claim |
| writing the status of the source | nothing |
| writing the claim of the source | whether the read model has the claim |

The read model has the claims that the indexer has found. A call that has published a claim
synchronizes it first, which may fail, and may leave the claim out.

The chain is that of the contracts (`ScientificProtocol.protocol`). A transaction that has been
sent may be mined later, whatever has become of the call that sent it.
-/

namespace ScientificProtocol.Sources

open Concurrency Evm
open Review (Time)
open Submission (keccakText emittedClaimId emittedArtifactId)

/-! ### Calls and drafts -/

inductive PublicationCall where
  | attemptSourceAutoPublication (sourceId : ℕ)
  | confirmSourcePublication (sourceId : ℕ) (actorAddress : Address) (candidateId : ℕ)
  | rejectSourcePublication (sourceId : ℕ) (actorAddress : Address) (reason : String)
  deriving DecidableEq

def PublicationCall.sourceId : PublicationCall → ℕ
  | .attemptSourceAutoPublication sourceId | .confirmSourcePublication sourceId ..
  | .rejectSourcePublication sourceId .. => sourceId

/-- A claim that is to be made of a source: the source as it was read, and the candidate that
was chosen, by a person if there is one. -/
structure PublicationDraft where
  sourceId : ℕ
  source : SourceRecord
  candidateId : ℕ
  winner : SourceExtractionCandidate
  confirmedBy : Option Address
  deriving DecidableEq

def PublicationDraft.publicationMode (draft : PublicationDraft) : PublicationMode :=
  if draft.confirmedBy.isSome then .manual else .auto

/-- What the calls are run with: the contracts, the accounts that sign, how texts are made and
digests are read, and which claims a synchronization of the read model finds on the chain, unless
it throws. -/
structure Operator where
  deployment : Deployment
  submittedBy : Address
  resolver : Address
  minimumAuthorBondWei : ℕ
  readDigest : String → Bytes32
  metadataForSourcePublication : PublicationDraft → String
  syncClaimReadModel : World → Except String (List ℕ)

/-- A transaction of a publication. -/
inductive PublicationTx where
  | createClaim (draft : PublicationDraft)
  | addArtifact (draft : PublicationDraft) (claimId : ℕ)
  | publishClaim (sourceId claimId : ℕ)
  deriving DecidableEq

/-- The source a transaction is for. -/
def PublicationTx.sourceId : PublicationTx → ℕ
  | .createClaim draft | .addArtifact draft _ => draft.sourceId
  | .publishClaim sourceId _ => sourceId

/-- `resolveNonEmptyStringInput`. -/
def resolveNonEmptyStringInput (value fallback : String) : String :=
  if Js.trim value = "" then fallback else Js.trim value

def sourceArtifactUri (draft : PublicationDraft) : String :=
  match draft.source.snapshotArtifactKey with
  | some key => "persisted-artifact://" ++ key
  | none => draft.source.sourceMetadata.locator

namespace Operator

variable (O : Operator) (draft : PublicationDraft)

/-- The author of the claim: who submitted the source, or else the account that submits. -/
def resolvePublicationAuthor : Address :=
  match draft.source.submittedByActor, draft.source.discoveryMode with
  | some actor, .userSubmitted => actor
  | _, _ => O.submittedBy

def keccak (text fallback : String) : Bytes32 :=
  keccakText O.deployment (resolveNonEmptyStringInput text fallback)

/-- The claim of a draft. A source says nothing of its domain, which is the first one. -/
def summary : ClaimSummary where
  statementHash := O.keccak draft.winner.statement "Untitled claim"
  methodologyHash := O.keccak draft.winner.methodology "production-methodology"
  scopeHash := O.keccak draft.winner.scope "production-scope"
  metadataHash := O.keccak (O.metadataForSourcePublication draft) "production-metadata"
  predictionHooksHash := O.keccak "" "production-hooks"
  domainId := 1
  author := O.resolvePublicationAuthor draft

/-- The digest of the artifact of a draft, if the artifact is there. A locator has none. -/
def contentDigest (db : SourceDb) : Option Bytes32 :=
  (draft.source.snapshotArtifactKey.bind fun key => db.artifacts key).map fun artifact =>
    O.readDigest artifact.sha256

/-- The digest that is sent with an artifact, which was found before. -/
def snapshotDigest (db : SourceDb) : Bytes32 := (O.contentDigest draft db).getD 0

def target (db : SourceDb) : PublicationTx → Target
  | .createClaim draft =>
    .claimRegistry (.createClaimOnBehalf (O.summary draft) O.minimumAuthorBondWei 0)
  | .addArtifact draft claimId =>
    .artifactRegistry (.addArtifact claimId .manuscript (O.snapshotDigest draft db)
      (Js.trim (sourceArtifactUri draft))
      (O.keccak (O.metadataForSourcePublication draft) "production-metadata"))
  | .publishClaim _ claimId => .claimRegistry (.setClaimStatus claimId .published)

def sender : PublicationTx → Address
  | .createClaim _ | .addArtifact _ _ => O.submittedBy
  | .publishClaim _ _ => O.resolver

def message (db : SourceDb) (tx : PublicationTx) : Message where
  sender := O.sender tx
  value := 0
  reply := default
  target := O.target db tx

end Operator

/-! ### A call, statement by statement -/

/-- Where a call is. -/
inductive Publisher where
  | idle
  | starting (call : PublicationCall)
  /-- The source has been read. -/
  | choosing (call : PublicationCall) (source : SourceRecord)
  | reserving (draft : PublicationDraft)
  /-- The attempt is there, made by this call or before it. -/
  | reserved (draft : PublicationDraft) (isNew : Bool)
  /-- `createClaim` is called. -/
  | creating (draft : PublicationDraft)
  | sentClaim (draft : PublicationDraft)
  | created (draft : PublicationDraft) (emittedClaimId : Option ℕ)
  | attaching (draft : PublicationDraft) (claimId : ℕ)
  | sentArtifact (draft : PublicationDraft) (claimId : ℕ)
  /-- `onClaimReady`. -/
  | attached (draft : PublicationDraft) (claimId : ℕ)
  /-- `createClaim` has thrown, with what may still be mined. -/
  | reconciling (draft : PublicationDraft) (error : String) (inFlight : Option PublicationTx)
  /-- The source is to be shown as ready. -/
  | drafting (sourceId : ℕ) (reason : String)
  /-- `publishClaim`. -/
  | publishing (draft : PublicationDraft) (claimId : ℕ)
  | sentPublish (sourceId claimId : ℕ)
  /-- The claim is published. -/
  | syncing (sourceId claimId : ℕ)
  /-- The read model has been synchronized. -/
  | marking (sourceId claimId : ℕ)
  | completing (sourceId claimId : ℕ)
  | rejecting (sourceId : ℕ) (reason : String)
  | returned (publishedClaimId : Option ℕ) (reason : String)
  | threw (error : String) (inFlight : Option PublicationTx)
  | crashed (inFlight : Option PublicationTx)
  deriving DecidableEq

/-- What a call does next. -/
inductive PublisherAction where
  | call (call : PublicationCall)
  /-- The next statement that is not a wait, at some time. -/
  | next (now : Time)
  /-- The chain executes the transaction the call has sent. -/
  | mine
  /-- A transaction nobody waits for is dropped. -/
  | drop
  /-- Something throws. -/
  | fail (error : String)
  /-- The process ends. -/
  | crash
  deriving DecidableEq

namespace Publisher

/-- What may still be mined of a call. -/
def inFlight : Publisher → Option PublicationTx
  | .sentClaim draft => some (.createClaim draft)
  | .sentArtifact draft claimId => some (.addArtifact draft claimId)
  | .sentPublish sourceId claimId => some (.publishClaim sourceId claimId)
  | .reconciling _ _ inFlight | .threw _ inFlight | .crashed inFlight => inFlight
  | _ => none

/-- The call that creates a claim, until it is ready. -/
def creates : Publisher → Option PublicationDraft
  | .creating draft | .sentClaim draft | .created draft _ | .attaching draft _
  | .sentArtifact draft _ | .attached draft _ => some draft
  | _ => none

/-- The source a call has just reserved the attempt of. -/
def token : Publisher → Option ℕ
  | .reserved draft true => some draft.sourceId
  | _ => none

/-- The claim a call is about to publish, or has, with its source. -/
def claims : Publisher → Option (ℕ × ℕ)
  | .publishing draft claimId => some (draft.sourceId, claimId)
  | .sentPublish sourceId claimId | .syncing sourceId claimId | .marking sourceId claimId
  | .completing sourceId claimId => some (sourceId, claimId)
  | _ => none

/-- A call that has decided to go on with a source, and may still write to it or transact for
it. -/
def engaged (sourceId : ℕ) : Publisher → Bool
  | .reserving draft | .reserved draft _ | .creating draft | .sentClaim draft | .created draft _
  | .attaching draft _ | .sentArtifact draft _ | .attached draft _ | .publishing draft _ =>
    decide (draft.sourceId = sourceId)
  | .drafting sourceId' _ | .sentPublish sourceId' _ | .syncing sourceId' _
  | .marking sourceId' _ => decide (sourceId' = sourceId)
  | .reconciling _ _ inFlight | .threw _ inFlight | .crashed inFlight =>
    inFlight.any fun tx => decide (tx.sourceId = sourceId)
  | _ => false

/-- A call is about a source that is there, and a candidate of it. -/
def Grounded (db : SourceDb) : Publisher → Prop
  | .choosing call _ => (db.sources call.sourceId).isSome = true
  | .rejecting sourceId _ => (db.sources sourceId).isSome = true
  | .reserving draft => (db.sources draft.sourceId).isSome = true ∧
    ∃ candidate, db.candidates draft.candidateId = some candidate ∧
      candidate.sourceId = draft.sourceId
  | _ => True

def isOver : Publisher → Bool
  | .idle | .returned _ _ | .threw _ _ | .crashed _ => true
  | _ => false

/-- How a call ends that has not come to anything: automatically it says so, and by hand it
throws. -/
def refuse (draft : PublicationDraft) (reason error : String) : Publisher :=
  match draft.publicationMode with
  | .auto => .returned none reason
  | .manual => .threw error none

/-- What becomes of a call that has read the source. -/
def start (source : Option SourceRecord) (call : PublicationCall) : Publisher :=
  match source, call with
  | none, .attemptSourceAutoPublication _ => .returned none "source_not_found"
  | none, _ => .threw "source_not_found" none
  | some source, call =>
    match source.publishedClaimId, call with
    | some claimId, .attemptSourceAutoPublication _ => .returned (some claimId) "already_published"
    | some _, _ => .threw "source_already_published" none
    | none, .rejectSourcePublication sourceId _ reason => .rejecting sourceId
        (if Js.trim reason = "" then "Rejected manually from source review." else Js.trim reason)
    | none, .confirmSourcePublication .. =>
      if source.status = .rejected then .threw "source_rejected" none else .choosing call source
    | none, .attemptSourceAutoPublication _ => .choosing call source

/-- What becomes of a call that has read the candidates. -/
def choose (candidates : List (ℕ × SourceExtractionCandidate)) (source : SourceRecord) :
    PublicationCall → Option Publisher
  | .attemptSourceAutoPublication sourceId => some (match autoOutcome candidates with
    | .nothing reason => .returned none reason
    | .ready reason => .drafting sourceId reason
    | .publish candidateId winner =>
      .reserving { sourceId, source, candidateId, winner, confirmedBy := none })
  | .confirmSourcePublication sourceId actorAddress candidateId =>
    some (match candidates.find? fun candidate => decide (candidate.1 = candidateId) with
    | some (_, winner) =>
      .reserving { sourceId, source, candidateId, winner, confirmedBy := some actorAddress }
    | none => .threw "source_candidate_not_found" none)
  | .rejectSourcePublication .. => none

/-- What becomes of a call that has read the attempt, which it has made or not. -/
def reserve (attempt : Option SourcePublicationAttempt) (draft : PublicationDraft)
    (isNew : Bool) : Publisher :=
  match attempt with
  | none => .threw "source_publication_attempt_reservation_failed" none
  | some attempt =>
    if isNew then .creating draft
    else if attempt.candidateId ≠ draft.candidateId ∨
        attempt.publicationMode ≠ draft.publicationMode then
      refuse draft "publication_attempt_conflict" "source_publication_attempt_conflict"
    else match attempt.status, attempt.claimId with
      | .claimReady, some claimId => match draft.publicationMode with
        | .auto => .drafting draft.sourceId "awaiting_author_bond"
        | .manual => .publishing draft claimId
      | _, _ => refuse draft "publication_requires_reconciliation"
          "source_publication_requires_reconciliation"

/-- `resolveProductionClaimPublicationAction`, and what is done about it. -/
def publish (w : World) (draft : PublicationDraft) (claimId : ℕ) : Publisher :=
  let claim := w.claimRegistry.claims claimId
  if claim.claimId = 0 then .threw "ClaimRegistryUnknownClaim" none
  else if draft.confirmedBy ≠ some claim.summary.author then
    .threw "claim_author_unauthorized" none
  else match claim.status with
    | .draft =>
      match w.bondEscrow.isAuthorBondSatisfied w.claimRegistry claimId with
      | .ok true => .sentPublish draft.sourceId claimId
      | _ => .threw "claim_author_bond_unsatisfied" none
    | .deprecated => .threw "claim_not_draft" none
    | _ => .syncing draft.sourceId claimId

section

variable (O : Operator) (now : Time)

/-- The claim has the artifact of a draft. -/
def hasArtifact (db : SourceDb) (w : World) (draft : PublicationDraft) (claimId : ℕ) : Bool :=
  (w.artifactRegistry.getClaimArtifactIds claimId).any fun id =>
    decide ((w.artifactRegistry.artifacts id).contentDigest = O.snapshotDigest draft db ∧
      (w.artifactRegistry.artifacts id).uri = Js.trim (sourceArtifactUri draft))

/-- The next statement of a call. -/
def next (db : SourceDb) (w : World) : Publisher → Option (SourceDb × Publisher)
  | .starting call => some (db, start (db.sources call.sourceId) call)
  | .choosing call source =>
    (choose (readSourceExtractionCandidates db call.sourceId) source call).map fun p => (db, p)
  | .reserving draft =>
    let r :=
      reserveSourcePublicationAttempt now db draft.sourceId draft.candidateId draft.publicationMode
    some (r.2, .reserved draft r.1)
  | .reserved draft isNew =>
    some (db, reserve (db.publicationAttempts draft.sourceId) draft isNew)
  | .creating draft =>
    some (db,
      if (O.contentDigest draft db).isNone then
        .reconciling draft "claim persisted artifact was not found" none
      else if Js.trim draft.winner.statement = "" then
        .reconciling draft "statement is required" none
      else .sentClaim draft)
  | .created draft emittedClaimId =>
    some (db, match emittedClaimId with
      | some (claimId + 1) => .attaching draft (claimId + 1)
      | _ => .reconciling draft "claim transaction did not establish a delegated claim" none)
  | .attaching draft claimId =>
    some (db, if hasArtifact O db w draft claimId then .attached draft claimId
      else .sentArtifact draft claimId)
  | .attached draft claimId =>
    some (markSourcePublicationClaimReady now db draft.sourceId claimId,
      .drafting draft.sourceId "awaiting_author_bond")
  -- An attempt that is ready by now is left as it is.
  | .reconciling draft error inFlight =>
    some (markSourcePublicationReconciliationRequired now db draft.sourceId error,
      .threw error inFlight)
  | .drafting sourceId reason =>
    some (updateSourceRecordStatus now db sourceId .readyForPublication, .returned none reason)
  | .publishing draft claimId => some (db, publish w draft claimId)
  | .syncing sourceId claimId => some (match O.syncClaimReadModel w with
    | .ok claims => ({ db with claims := db.claims ++ claims }, .marking sourceId claimId)
    | .error error => (db, .threw error none))
  -- A claim that has not been indexed cannot be referred to.
  | .marking sourceId claimId => some (match markSourcePublished now db sourceId claimId with
    | .ok db' => (db', .completing sourceId claimId)
    | .error error => (db, .threw error none))
  | .completing sourceId claimId =>
    some (markSourcePublicationAttemptCompleted now db sourceId,
      .returned (some claimId) "Confirmed manually from source review.")
  | .rejecting sourceId reason =>
    some (updateSourceRecordStatus now db sourceId .rejected, .returned none reason)
  | .idle | .sentClaim _ | .sentArtifact _ _ | .sentPublish _ _ | .returned _ _ | .threw _ _
  | .crashed _ => none

end

/-- A call goes on when its transaction has been mined. -/
def received (w w' : World) : Publisher → Publisher
  | .sentClaim draft => .created draft (emittedClaimId w w')
  | .sentArtifact draft claimId =>
    if (emittedArtifactId w w').isSome then .attached draft claimId
    else .reconciling draft "artifact transaction did not emit ArtifactAdded" none
  | .sentPublish sourceId claimId => .syncing sourceId claimId
  | .reconciling draft error _ => .reconciling draft error none
  | .threw error _ => .threw error none
  | _ => .crashed none

/-- A statement of a call throws, or the wait for its transaction. -/
def fail (error : String) (p : Publisher) : Publisher :=
  match p.creates with
  | some draft => .reconciling draft error p.inFlight
  | none => .threw error p.inFlight

/-- Nothing of a call is in flight any more. -/
def settle : Publisher → Publisher
  | .reconciling draft error _ => .reconciling draft error none
  | .threw error _ => .threw error none
  | .crashed _ => .crashed none
  | .sentClaim draft | .sentArtifact draft _ => .reconciling draft "transaction reverted" none
  | .sentPublish _ _ => .threw "transaction reverted" none
  | p => p

end Publisher

/-- What the calls share. -/
structure PublicationState where
  db : SourceDb
  chain : Evm.Config World Suspended

namespace Publisher

variable (O : Operator)

/-- The transaction of a call is mined. -/
def mine (s : PublicationState) (p : Publisher) (tx : PublicationTx) :
    Option (PublicationState × Publisher) :=
  match World.exec O.deployment (O.message s.db tx) s.chain.world with
  | .ok (.done w') => some (⟨s.db, ⟨w', []⟩⟩, received s.chain.world w' p)
  | .ok (.transfer ..) => none
  | .error _ => some (s, p.settle)

/-- A call acts, between two transactions of the chain. -/
def act (a : PublisherAction) (s : PublicationState) (p : Publisher) :
    Option (PublicationState × Publisher) :=
  match s.chain.frames, a with
  | [], .call call => if p = .idle then some (s, .starting call) else none
  | [], .next now => (p.next O now s.db s.chain.world).map fun r => (⟨r.1, s.chain⟩, r.2)
  | [], .mine => p.inFlight.bind fun tx => p.mine O s tx
  | [], .drop => if p.isOver && p.inFlight.isSome then some (s, p.settle) else none
  | [], .fail error => if p.isOver then none else some (s, p.fail error)
  | [], .crash => if p.isOver then none else some (s, .crashed p.inFlight)
  | _ :: _, _ => none

end Publisher

/-! ### What else happens -/

/-- What happens next to the calls: a statement of `ingestSource`, a candidate, claims that the
indexer has found, and anything on the chain. -/
inductive Outside where
  | ingest (a : IngestAction) (p : IngestProcess)
  | candidate (new : SourceExtractionCandidate)
  | index (claims : List ℕ)
  | chain (a : Action Message Suspended)

inductive OutsideStep (O : Operator) : Outside → PublicationState → PublicationState → Prop
  | ingest {a : IngestAction} {p p' : IngestProcess} {s : PublicationState} {db : SourceDb} :
      p.act a s.db = some (db, p') → OutsideStep O (.ingest a p) s { s with db }
  | candidate {new : SourceExtractionCandidate} {s : PublicationState} :
      OutsideStep O (.candidate new) s { s with db := insertSourceExtractionCandidate s.db new }
  | index {claims : List ℕ} {s : PublicationState} :
      (∀ claimId ∈ claims, (s.chain.world.claimRegistry.claims claimId).claimId ≠ 0) →
      OutsideStep O (.index claims) s { s with db.claims := s.db.claims ++ claims }
  | chain {a : Action Message Suspended} {s : PublicationState}
      {chain : Evm.Config World Suspended} :
      (protocol O.deployment).Forward s.chain a chain →
      OutsideStep O (.chain a) s { s with chain }

/-- Nothing has been done yet to publish a source, or to reject it. -/
structure Unpublished (db : SourceDb) : Prop where
  attempts : ∀ sourceId, db.publicationAttempts sourceId = none
  sources : ∀ {sourceId source}, db.sources sourceId = some source →
    source.publishedClaimId = none ∧ source.status ≠ .published ∧ source.status ≠ .rejected

/-- **The calls that publish and reject sources.** -/
def publication (O : Operator) : Processes PublicationState Publisher PublisherAction Outside where
  genesis s := (protocol O.deployment).Reachable s.chain ∧ Unpublished s.db
  idle := .idle
  act := Publisher.act O
  env := OutsideStep O

/-! ### What a step does -/

/-- **What a step of a call does** to the tables and to the call: it only reads, or talks to the
chain, or it is one of the writes. -/
inductive PublishEffect (s : PublicationState) (p : Publisher) :
    PublisherAction → SourceDb → Publisher → Prop
  | quiet {a : PublisherAction} {p' : Publisher} :
      p'.creates = none ∨ p'.creates = p.creates →
      (p'.claims = none ∨ p'.claims = p.claims ∨ ∃ sourceId claimId attempt,
        p'.claims = some (sourceId, claimId) ∧
        s.db.publicationAttempts sourceId = some attempt ∧ attempt.claimId = some claimId) →
      p'.token = none →
      (∀ sourceId, p'.engaged sourceId = true → p.engaged sourceId = true ∨
        ∃ now call source, a = .next now ∧ p = .choosing call source ∧ call.sourceId = sourceId) →
      (p.Grounded s.db → p'.Grounded s.db) →
      PublishEffect s p a s.db p'
  | reserve {now : Time} {draft : PublicationDraft} : p = .reserving draft →
      PublishEffect s p (.next now)
        (reserveSourcePublicationAttempt now s.db draft.sourceId draft.candidateId
          draft.publicationMode).2
        (.reserved draft (reserveSourcePublicationAttempt now s.db draft.sourceId
          draft.candidateId draft.publicationMode).1)
  | invoke {now : Time} {draft : PublicationDraft} : p = .reserved draft true →
      PublishEffect s p (.next now) s.db (.creating draft)
  | ready {now : Time} {draft : PublicationDraft} {claimId : ℕ} : p = .attached draft claimId →
      PublishEffect s p (.next now)
        (markSourcePublicationClaimReady now s.db draft.sourceId claimId)
        (.drafting draft.sourceId "awaiting_author_bond")
  | reconcile {now : Time} {draft : PublicationDraft} {error : String}
      {inFlight : Option PublicationTx} : p = .reconciling draft error inFlight →
      PublishEffect s p (.next now)
        (markSourcePublicationReconciliationRequired now s.db draft.sourceId error)
        (.threw error inFlight)
  | display {now : Time} {sourceId : ℕ} {reason : String} : p = .drafting sourceId reason →
      PublishEffect s p (.next now)
        (updateSourceRecordStatus now s.db sourceId .readyForPublication) (.returned none reason)
  | sync {now : Time} {sourceId claimId : ℕ} {claims : List ℕ} : p = .syncing sourceId claimId →
      PublishEffect s p (.next now) { s.db with claims := s.db.claims ++ claims }
        (.marking sourceId claimId)
  | mark {now : Time} {sourceId claimId : ℕ} : p = .marking sourceId claimId →
      claimId ∈ s.db.claims →
      PublishEffect s p (.next now) (s.db.setPublished now sourceId claimId)
        (.completing sourceId claimId)
  | complete {now : Time} {sourceId claimId : ℕ} {reason : String} :
      p = .completing sourceId claimId →
      PublishEffect s p (.next now) (markSourcePublicationAttemptCompleted now s.db sourceId)
        (.returned (some claimId) reason)
  | reject {now : Time} {sourceId : ℕ} {reason : String} : p = .rejecting sourceId reason →
      PublishEffect s p (.next now) (updateSourceRecordStatus now s.db sourceId .rejected)
        (.returned none reason)

section

variable {O : Operator} {s s' : PublicationState} {db' : SourceDb} {p p' : Publisher}
  {a : PublisherAction} {now : Time}

/-- A call that has come to nothing, or is over without anything in flight. -/
theorem PublishEffect.done (hcreates : p'.creates = none) (hclaims : p'.claims = none)
    (htoken : p'.token = none) (hengaged : ∀ sourceId, p'.engaged sourceId = false)
    (hgrounded : p'.Grounded s.db) : PublishEffect s p a s.db p' := by
  refine .quiet (.inl hcreates) (.inl hclaims) htoken (fun sourceId hmem => ?_) fun _ => hgrounded
  rw [hengaged] at hmem
  exact absurd hmem Bool.false_ne_true

/-- A call that keeps what it creates, claims and is engaged with. -/
theorem PublishEffect.kept (hcreates : p'.creates = none ∨ p'.creates = p.creates)
    (hclaims : p'.claims = none ∨ p'.claims = p.claims) (htoken : p'.token = none)
    (hengaged : ∀ sourceId, p'.engaged sourceId = true → p.engaged sourceId = true)
    (hgrounded : p'.Grounded s.db) : PublishEffect s p a s.db p' :=
  .quiet hcreates (hclaims.imp id .inl) htoken (fun sourceId hmem => .inl (hengaged sourceId hmem))
    fun _ => hgrounded

theorem refuse_effect {draft : PublicationDraft} {reason error : String} :
    PublishEffect s p a s.db (Publisher.refuse draft reason error) := by
  unfold Publisher.refuse
  split <;> exact .done rfl rfl rfl (fun _ => rfl) trivial

theorem start_effect {call : PublicationCall} :
    PublishEffect s p a s.db (Publisher.start (s.db.sources call.sourceId) call) := by
  cases hsource : s.db.sources call.sourceId with
  | none => cases call <;> exact .done rfl rfl rfl (fun _ => rfl) trivial
  | some source =>
    simp only [Publisher.start]
    cases source.publishedClaimId with
    | some claimId => cases call <;> exact .done rfl rfl rfl (fun _ => rfl) trivial
    | none =>
      cases call with
      | attemptSourceAutoPublication | rejectSourcePublication =>
        exact .done rfl rfl rfl (fun _ => rfl) (Option.isSome_of_eq_some hsource)
      | confirmSourcePublication =>
        simp only
        split
        · exact .done rfl rfl rfl (fun _ => rfl) trivial
        · exact .done rfl rfl rfl (fun _ => rfl) (Option.isSome_of_eq_some hsource)

/-- A call that chooses is engaged with its source at most, and owns nothing of it yet. -/
theorem choose_cases {candidates : List (ℕ × SourceExtractionCandidate)} {source : SourceRecord}
    {call : PublicationCall} (h : Publisher.choose candidates source call = some p') :
    p'.creates = none ∧ p'.claims = none ∧ p'.token = none ∧
      ∀ sourceId, p'.engaged sourceId = true → call.sourceId = sourceId := by
  cases call with
  | attemptSourceAutoPublication sourceId =>
    obtain rfl := Option.some.inj h
    split
    · exact ⟨rfl, rfl, rfl, fun _ hmem => absurd hmem Bool.false_ne_true⟩
    · exact ⟨rfl, rfl, rfl, fun _ hmem => of_decide_eq_true hmem⟩
    · exact ⟨rfl, rfl, rfl, fun _ hmem => of_decide_eq_true hmem⟩
  | confirmSourcePublication sourceId actorAddress candidateId =>
    obtain rfl := Option.some.inj h
    split
    · exact ⟨rfl, rfl, rfl, fun _ hmem => of_decide_eq_true hmem⟩
    · exact ⟨rfl, rfl, rfl, fun _ hmem => absurd hmem Bool.false_ne_true⟩
  | rejectSourcePublication => exact absurd h nofun

/-- It chooses a candidate of its source. -/
theorem choose_grounded {db : SourceDb} {source : SourceRecord} {call : PublicationCall}
    (hsource : (db.sources call.sourceId).isSome = true)
    (h : Publisher.choose (readSourceExtractionCandidates db call.sourceId) source call =
      some p') : p'.Grounded db := by
  cases call with
  | attemptSourceAutoPublication sourceId =>
    obtain rfl := Option.some.inj h
    split
    · trivial
    · trivial
    · next hpublish =>
      obtain ⟨hrow, hat⟩ := mem_readSourceExtractionCandidates.mp (mem_of_autoOutcome hpublish)
      exact ⟨hsource, _, hrow, hat⟩
  | confirmSourcePublication sourceId actorAddress candidateId =>
    obtain rfl := Option.some.inj h
    split
    next found winner hfound =>
      obtain rfl : found = candidateId := of_decide_eq_true (List.find?_some hfound :)
      obtain ⟨hrow, hat⟩ := mem_readSourceExtractionCandidates.mp (List.mem_of_find?_eq_some hfound)
      exact ⟨hsource, _, hrow, hat⟩
    next => trivial
  | rejectSourcePublication => exact absurd h nofun

theorem choose_effect {call : PublicationCall} {source : SourceRecord}
    (h : Publisher.choose (readSourceExtractionCandidates s.db call.sourceId) source call =
      some p') :
    PublishEffect s (.choosing call source) (.next now) s.db p' := by
  obtain ⟨hcreates, hclaims, htoken, hengaged⟩ := choose_cases h
  exact .quiet (.inl hcreates) (.inl hclaims) htoken
    (fun sourceId hmem => .inr ⟨now, call, source, rfl, rfl, hengaged sourceId hmem⟩)
    fun hsource => choose_grounded hsource h

/-- **Reserving decides**: the caller that made the attempt creates the claim, and another one
goes on with an attempt that is ready. -/
theorem reserve_effect {draft : PublicationDraft} {isNew : Bool} :
    PublishEffect s (.reserved draft isNew) (.next now) s.db
      (Publisher.reserve (s.db.publicationAttempts draft.sourceId) draft isNew) := by
  unfold Publisher.reserve
  split
  next => exact .done rfl rfl rfl (fun _ => rfl) trivial
  next attempt hattempt =>
    split
    next hnew =>
      subst hnew
      exact .invoke rfl
    next =>
      split
      next => exact refuse_effect
      next =>
        split
        next claimId _ hclaim =>
          split
          · exact .kept (.inl rfl) (.inl rfl) rfl (fun _ hmem => hmem) trivial
          · exact .quiet (.inl rfl) (.inr (.inr ⟨_, claimId, attempt, rfl, hattempt, hclaim⟩)) rfl
              (fun _ hmem => .inl hmem) fun _ => trivial
        next => exact refuse_effect

theorem publish_effect {w : World} {draft : PublicationDraft} {claimId : ℕ} :
    PublishEffect s (.publishing draft claimId) a s.db (Publisher.publish w draft claimId) := by
  unfold Publisher.publish
  simp only
  split
  · exact .done rfl rfl rfl (fun _ => rfl) trivial
  · split
    · exact .done rfl rfl rfl (fun _ => rfl) trivial
    · split
      · split
        · exact .kept (.inl rfl) (.inr rfl) rfl (fun _ hmem => hmem) trivial
        · exact .done rfl rfl rfl (fun _ => rfl) trivial
      · exact .done rfl rfl rfl (fun _ => rfl) trivial
      · exact .kept (.inl rfl) (.inr rfl) rfl (fun _ hmem => hmem) trivial

theorem Publisher.next_effect {db : SourceDb} {w : World} (hw : s.db = db)
    (h : p.next O now db w = some (db', p')) : PublishEffect s p (.next now) db' p' := by
  subst hw
  cases p with
  | idle | sentClaim | sentArtifact | sentPublish | returned | threw | crashed =>
    exact absurd h nofun
  | starting call =>
    obtain ⟨rfl, rfl⟩ := Prod.mk.inj (Option.some.inj h)
    exact start_effect
  | choosing call source =>
    simp only [Publisher.next, Option.map_eq_some_iff] at h
    obtain ⟨p'', hchoose, heq⟩ := h
    obtain ⟨rfl, rfl⟩ := Prod.mk.inj heq
    exact choose_effect hchoose
  | reserving draft =>
    obtain ⟨rfl, rfl⟩ := Prod.mk.inj (Option.some.inj h)
    exact .reserve rfl
  | reserved draft isNew =>
    obtain ⟨rfl, rfl⟩ := Prod.mk.inj (Option.some.inj h)
    exact reserve_effect
  | creating draft =>
    obtain ⟨rfl, rfl⟩ := Prod.mk.inj (Option.some.inj h)
    split
    · exact .done rfl rfl rfl (fun _ => rfl) trivial
    · split
      · exact .done rfl rfl rfl (fun _ => rfl) trivial
      · exact .kept (.inr rfl) (.inl rfl) rfl (fun _ hmem => hmem) trivial
  | created draft emittedClaimId =>
    obtain ⟨rfl, rfl⟩ := Prod.mk.inj (Option.some.inj h)
    split
    · exact .kept (.inr rfl) (.inl rfl) rfl (fun _ hmem => hmem) trivial
    · exact .done rfl rfl rfl (fun _ => rfl) trivial
  | attaching draft claimId =>
    obtain ⟨rfl, rfl⟩ := Prod.mk.inj (Option.some.inj h)
    split <;> exact .kept (.inr rfl) (.inl rfl) rfl (fun _ hmem => hmem) trivial
  | attached draft claimId =>
    obtain ⟨rfl, rfl⟩ := Prod.mk.inj (Option.some.inj h)
    exact .ready rfl
  | reconciling draft error inFlight =>
    obtain ⟨rfl, rfl⟩ := Prod.mk.inj (Option.some.inj h)
    exact .reconcile rfl
  | drafting sourceId reason =>
    obtain ⟨rfl, rfl⟩ := Prod.mk.inj (Option.some.inj h)
    exact .display rfl
  | publishing draft claimId =>
    obtain ⟨rfl, rfl⟩ := Prod.mk.inj (Option.some.inj h)
    exact publish_effect
  | syncing sourceId claimId =>
    obtain heq := Option.some.inj h
    split at heq
    · obtain ⟨rfl, rfl⟩ := Prod.mk.inj heq
      exact .sync rfl
    · obtain ⟨rfl, rfl⟩ := Prod.mk.inj heq
      exact .done rfl rfl rfl (fun _ => rfl) trivial
  | marking sourceId claimId =>
    obtain heq := Option.some.inj h
    unfold markSourcePublished at heq
    by_cases hindexed : claimId ∈ s.db.claims
    · rw [if_pos hindexed] at heq
      obtain ⟨rfl, rfl⟩ := Prod.mk.inj heq
      exact .mark rfl hindexed
    · rw [if_neg hindexed] at heq
      obtain ⟨rfl, rfl⟩ := Prod.mk.inj heq
      exact .done rfl rfl rfl (fun _ => rfl) trivial
  | completing sourceId claimId =>
    obtain ⟨rfl, rfl⟩ := Prod.mk.inj (Option.some.inj h)
    exact .complete rfl
  | rejecting sourceId reason =>
    obtain ⟨rfl, rfl⟩ := Prod.mk.inj (Option.some.inj h)
    exact .reject rfl

/-! ### Steps that only touch the call -/

/-- A call is engaged with the source of its transaction. -/
theorem engaged_of_inFlight {tx : PublicationTx} (h : p.inFlight = some tx) :
    p.engaged tx.sourceId = true := by
  have hany : ∀ {inFlight : Option PublicationTx}, inFlight = some tx →
      (inFlight.any fun tx' => decide (tx'.sourceId = tx.sourceId)) = true := by
    rintro _ rfl
    exact decide_eq_true rfl
  cases p with
  | sentClaim | sentArtifact | sentPublish =>
    obtain rfl := Option.some.inj h
    exact decide_eq_true rfl
  | reconciling | threw | crashed => exact hany h
  | _ => exact absurd h nofun

theorem received_effect {w w' : World} :
    PublishEffect s p a s.db (Publisher.received w w' p) := by
  cases p with
  | sentClaim draft => exact .kept (.inr rfl) (.inl rfl) rfl (fun _ hmem => hmem) trivial
  | sentArtifact draft claimId =>
    simp only [Publisher.received]
    split
    · exact .kept (.inr rfl) (.inl rfl) rfl (fun _ hmem => hmem) trivial
    · exact .done rfl rfl rfl (fun _ => rfl) trivial
  | sentPublish sourceId claimId =>
    exact .kept (.inl rfl) (.inr rfl) rfl (fun _ hmem => hmem) trivial
  | _ => exact .done rfl rfl rfl (fun _ => rfl) trivial

theorem settle_effect (h : p.inFlight.isSome = true) : PublishEffect s p a s.db p.settle := by
  cases p with
  | reconciling | threw | crashed | sentClaim | sentArtifact | sentPublish =>
    exact .done rfl rfl rfl (fun _ => rfl) trivial
  | _ => exact absurd h Bool.false_ne_true

theorem fail_effect {error : String} : PublishEffect s p a s.db (p.fail error) := by
  have hengaged : ∀ sourceId, (p.inFlight.any fun tx => decide (tx.sourceId = sourceId)) = true →
      p.engaged sourceId = true := by
    intro sourceId hmem
    obtain ⟨tx, htx, hsource⟩ := (Option.any_eq_true _ _).mp hmem
    exact of_decide_eq_true hsource ▸ engaged_of_inFlight htx
  unfold Publisher.fail
  split <;> exact .kept (.inl rfl) (.inl rfl) rfl hengaged trivial

theorem crash_effect : PublishEffect s p a s.db (.crashed p.inFlight) := by
  refine .kept (.inl rfl) (.inl rfl) rfl (fun sourceId hmem => ?_) trivial
  obtain ⟨tx, htx, hsource⟩ := (Option.any_eq_true _ _).mp hmem
  exact of_decide_eq_true hsource ▸ engaged_of_inFlight htx

/-- A statement is executed between two transactions, and leaves the chain. -/
theorem Publisher.next_of_act (h : p.act O (.next now) s = some (s', p')) :
    p.next O now s.db s.chain.world = some (s'.db, p') ∧ s'.chain = s.chain := by
  unfold Publisher.act at h
  split at h
  next heq => exact absurd heq nofun
  next now' hframes heq =>
    obtain rfl := PublisherAction.next.inj heq
    simp only [Option.map_eq_some_iff] at h
    obtain ⟨⟨db', p''⟩, hnext, heq⟩ := h
    obtain ⟨rfl, rfl⟩ := Prod.mk.inj heq
    exact ⟨hnext, rfl⟩
  next heq => exact absurd heq nofun
  next heq => exact absurd heq nofun
  next heq => exact absurd heq nofun
  next heq => exact absurd heq nofun
  next => exact absurd h nofun

/-- **A step of a call** has one of the effects, and executes a transaction of the call at
most. -/
theorem Publisher.act_effect (h : p.act O a s = some (s', p')) :
    PublishEffect s p a s'.db p' ∧
      (s'.chain = s.chain ∨ ∃ tx w', a = .mine ∧ s.chain.frames = [] ∧ p.inFlight = some tx ∧
        World.exec O.deployment (O.message s.db tx) s.chain.world = .ok (.done w') ∧
        s'.chain = ⟨w', []⟩) := by
  unfold Publisher.act at h
  split at h
  next =>
    split at h
    next =>
      obtain ⟨rfl, rfl⟩ := Prod.mk.inj (Option.some.inj h)
      exact ⟨.done rfl rfl rfl (fun _ => rfl) trivial, .inl rfl⟩
    next => exact absurd h nofun
  next now hframes =>
    simp only [Option.map_eq_some_iff] at h
    obtain ⟨⟨db', p''⟩, hnext, heq⟩ := h
    obtain ⟨rfl, rfl⟩ := Prod.mk.inj heq
    exact ⟨Publisher.next_effect rfl hnext, .inl rfl⟩
  next hframes =>
    obtain ⟨tx, htx, hmine⟩ := Option.bind_eq_some_iff.mp h
    unfold Publisher.mine at hmine
    split at hmine
    next w' hexec =>
      obtain ⟨rfl, rfl⟩ := Prod.mk.inj (Option.some.inj hmine)
      exact ⟨received_effect, .inr ⟨tx, w', rfl, hframes, htx, hexec, rfl⟩⟩
    next => exact absurd hmine nofun
    next =>
      obtain ⟨rfl, rfl⟩ := Prod.mk.inj (Option.some.inj hmine)
      exact ⟨settle_effect (by rw [htx]; rfl), .inl rfl⟩
  next =>
    split at h
    next hcond =>
      obtain ⟨rfl, rfl⟩ := Prod.mk.inj (Option.some.inj h)
      exact ⟨settle_effect (Bool.and_eq_true_iff.mp hcond).2, .inl rfl⟩
    next => exact absurd h nofun
  next =>
    split at h
    next => exact absurd h nofun
    next =>
      obtain ⟨rfl, rfl⟩ := Prod.mk.inj (Option.some.inj h)
      exact ⟨fail_effect, .inl rfl⟩
  next =>
    split at h
    next => exact absurd h nofun
    next =>
      obtain ⟨rfl, rfl⟩ := Prod.mk.inj (Option.some.inj h)
      exact ⟨crash_effect, .inl rfl⟩
  next => exact absurd h nofun

end

end ScientificProtocol.Sources
