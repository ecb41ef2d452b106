import ScientificProtocol.Reputation.Payloads
import ScientificProtocol.Concurrency.Processes
import Mathlib.Data.Fintype.Basic

/-!
# Checkpoints of actors

`computeDomainLeaderboard` of `src/reputation/engine.ts` and the part of `publishDomainCheckpoints`
of `src/checkpoints/publisher.ts` that publishes the actors of a leaderboard, as processes of one kind.
A computation stores an artifact, and inserts a payload and its entries in one transaction. A
publication reads the latest payload, and page by page the leaderboard, at the same time; every page
looks up the latest payload for itself. Then it publishes a checkpoint for each entry it has read,
which cites the payload it has read.

If all of these find the same payload, the checkpoints of a publication are those of its entries. But
the hash they cite is never that of the artifact, since that is another text; so they are bound to
their payload only as long as there are none (`ScientificProtocol.Reputation.bound_iff`). If another
payload comes in between, a checkpoint cites one payload for an entry of another
(`ScientificProtocol.Reputation.payloads_mixed`).

A computation lists the replications first. Where the column is missing that the query names, it
throws, so there is never a payload to publish.
-/

namespace ScientificProtocol.Reputation

open Concurrency Sql

/-- Where a page of the leaderboard is. -/
inductive PageState where
  | resolving
  | counting (payloadId : ℕ)
  | listing (payloadId total : ℕ)
  | done
  deriving DecidableEq

/-- The pages of a leaderboard that have been read. -/
structure LeaderboardReader where
  items : List LeaderboardEntryView
  offset : ℕ
  state : PageState
  deriving DecidableEq

def LeaderboardReader.start : LeaderboardReader := ⟨[], 0, .resolving⟩

/-- Where a run is, of a computation or of a publication. -/
inductive ReputationRun where
  | idle
  | computed (body : PayloadBody)
  | stored (body : PayloadBody)
  | upserted (body : PayloadBody)
  | begun (body : PayloadBody) (createdAt : ℕ)
  | inserted (body : PayloadBody) (createdAt payloadId : ℕ)
  | committed
  /-- With the payload, if it has been read. It is kept here which payload the reads have found. -/
  | reading (domainId : ℕ) (payload : Option (Option PayloadRow)) (leaderboard : LeaderboardReader)
    (found : Option (Option ℕ))
  | publishing (domainId : ℕ) (payload : PayloadRow) (publications : List Checkpoint)
    (leaderboard : List LeaderboardEntryView)
  | returned (publications : List Checkpoint)
  | threw
  | crashed
  deriving DecidableEq

/-- How publishing a checkpoint goes. -/
inductive PublishOutcome where
  | published
  | refused
  /-- It is published, but what follows fails. -/
  | unanswered
  deriving DecidableEq, Repr

/-- What happens in a run. -/
inductive ReputationAction where
  /-- The records have been read, if the replications can be listed, and the body of a payload is
  made of them. -/
  | compute (body : PayloadBody)
  | storeArtifact
  | upsertArtifact
  | begin (now : ℕ)
  /-- The sequence gives the payload its number. -/
  | insert (payloadId : ℕ)
  | commit
  | publish (domainId : ℕ)
  | readPayload
  | resolvePage
  | countPage
  | listPage
  /-- Everything has been read. -/
  | collect
  | publishSubject (outcome : PublishOutcome)
  | return
  | fail
  | crash
  deriving DecidableEq

/-- The checkpoint of an entry. -/
def actorCheckpoint (domainId : ℕ) (payload : PayloadRow) (entry : LeaderboardEntryView) :
    Checkpoint where
  domainId := domainId
  subjectActor := entry.subjectActor
  payloadHash := payload.payloadHash
  scoreVector := ⟨domainId, payload.payloadId, entry.rank, entry.subjectActor, entry⟩

/-- A page has been read. There are a hundred entries on a page. -/
def LeaderboardReader.append (reader : LeaderboardReader) (rows : List LeaderboardEntryView)
    (total : ℕ) : LeaderboardReader where
  items := reader.items ++ rows
  offset := reader.offset + rows.length
  state := if rows.length = 0 ∨ total ≤ reader.offset + rows.length then .done else .resolving

/-- The page looks up the latest payload. -/
def LeaderboardReader.resolve (reader : LeaderboardReader) :
    Option PayloadRow → LeaderboardReader
  | some latestPayload => { reader with state := .counting latestPayload.payloadId }
  | none => reader.append [] 0

/-- A run that is not over. -/
def ReputationRun.running : ReputationRun → Bool
  | .committed | .returned _ | .threw | .crashed => false
  | _ => true

section

variable (sha256 : String → String)

/-- The key of an artifact. -/
def artifactKey (kind hash : String) : String := kind ++ "-" ++ Js.slice 16 hash

/-- The key of the artifact of a payload. -/
def PayloadBody.artifactKey (body : PayloadBody) : String :=
  Reputation.artifactKey "reputation-payload" (sha256 body.artifactText)

/-- The row of a payload. -/
def PayloadBody.row (body : PayloadBody) (createdAt payloadId : ℕ) : PayloadRow where
  payloadId := payloadId
  domainId := body.domainId
  cutoffBlock := body.cutoffBlock
  cursorBlock := body.cursorBlock
  payloadHash := "0x" ++ sha256 body.hashedText
  artifactKey := body.artifactKey sha256
  entryCount := body.ordered.length
  policyVersion := reputationPolicyVersion
  createdAt := createdAt
  body := body

/-- A file is written unless there is one. -/
def ReputationDb.storeArtifact (db : ReputationDb) (text : String) : ReputationDb :=
  { db with files := fun hash =>
      if hash = sha256 text then some ((db.files hash).getD text) else db.files hash }

def ReputationDb.upsertArtifact (db : ReputationDb) (body : PayloadBody) : ReputationDb :=
  { db with artifacts :=
      db.artifacts.set (body.artifactKey sha256) ⟨sha256 body.artifactText⟩ }

/-- What the keys of the two tables allow. -/
def ReputationDb.accepts (db : ReputationDb) (row : PayloadRow) : Bool :=
  decide (row.payloadId ∉ db.payloads.map (·.payloadId)) &&
    decide (row.payloadHash ∉ db.payloads.map (·.payloadHash)) &&
    decide (row.body.ordered.map (·.subjectActor)).Nodup

/-- The transaction that inserts a payload and its entries. -/
def ReputationDb.insertPayload (db : ReputationDb) (row : PayloadRow) : ReputationDb :=
  { db with
    payloads := db.payloads ++ [row]
    entries := Function.update db.entries row.payloadId (row.body.entries row.payloadId) }

def ReputationDb.publish (db : ReputationDb) (checkpoint : Checkpoint) : ReputationDb :=
  { db with checkpoints := db.checkpoints ++ [checkpoint] }

/-- **One action of a run.** -/
def reputationAct : ReputationAction → ReputationDb → ReputationRun →
    Option (ReputationDb × ReputationRun)
  | .compute body, db, .idle =>
    some (db, if db.replicationsSchema.HasDecisionColumn then .computed body else .threw)
  | .storeArtifact, db, .computed body =>
    some (db.storeArtifact sha256 body.artifactText, .stored body)
  | .upsertArtifact, db, .stored body => some (db.upsertArtifact sha256 body, .upserted body)
  | .begin now, db, .upserted body => some (db, .begun body now)
  | .insert payloadId, db, .begun body createdAt => some (db, .inserted body createdAt payloadId)
  | .commit, db, .inserted body createdAt payloadId =>
    if db.accepts (body.row sha256 createdAt payloadId) then
      some (db.insertPayload (body.row sha256 createdAt payloadId), .committed)
    else none
  | .publish domainId, db, .idle => some (db, .reading domainId none .start none)
  | .readPayload, db, .reading domainId none leaderboard found =>
    let payload := readLatestReputationPayload db domainId
    some (db, .reading domainId (some payload) leaderboard
      (some (found.getD (payload.map (·.payloadId)))))
  | .resolvePage, db, .reading domainId payload leaderboard found =>
    if leaderboard.state = .resolving then
      let latestPayload := readLatestReputationPayload db domainId
      some (db, .reading domainId payload (leaderboard.resolve latestPayload)
        (some (found.getD (latestPayload.map (·.payloadId)))))
    else none
  | .countPage, db, .reading domainId payload leaderboard found =>
    match leaderboard.state with
    | .counting payloadId =>
      let total := countLeaderboardEntries db payloadId
      some (db, .reading domainId payload { leaderboard with state := .listing payloadId total } found)
    | _ => none
  | .listPage, db, .reading domainId payload leaderboard found =>
    match leaderboard.state with
    | .listing payloadId total => some (db, .reading domainId payload
        (leaderboard.append (queryLeaderboardEntries db payloadId 100 leaderboard.offset) total)
        found)
    | _ => none
  | .collect, db, .reading domainId (some payload) leaderboard _ =>
    if leaderboard.state = .done then
      match payload with
      | some payload => some (db, .publishing domainId payload [] leaderboard.items)
      -- "no reputation payload found for domain"
      | none => some (db, .threw)
    else none
  | .publishSubject outcome, db, .publishing domainId payload publications (entry :: leaderboard) =>
    let checkpoint := actorCheckpoint domainId payload entry
    match outcome with
    | .published =>
      some (db.publish checkpoint,
        .publishing domainId payload (publications ++ [checkpoint]) leaderboard)
    | .refused => some (db, .threw)
    | .unanswered => some (db.publish checkpoint, .threw)
  | .return, db, .publishing _ _ publications [] => some (db, .returned publications)
  | .fail, db, run => if run.running then some (db, .threw) else none
  | .crash, db, run => if run.running then some (db, .crashed) else none
  | _, _, _ => none

/-- **Runs**, on a store that is empty at first. Nobody changes the columns of a table while they go
on. -/
def reputationRuns : Processes ReputationDb ReputationRun ReputationAction Empty where
  genesis db := ∃ replicationsSchema, db = .empty replicationsSchema
  idle := .idle
  act := reputationAct sha256
  env _ _ _ := False

variable {ι : Type}

/-- A moment of a history of runs. -/
abbrev ReputationMoment (ι : Type) : Type := Config ι ReputationDb ReputationRun

/-- A step of such a history. -/
abbrev ReputationEvent (ι : Type) : Type :=
  Event ι ReputationDb ReputationRun ReputationAction Empty

/-- The text of the artifact under a key. -/
def ReputationDb.readArtifact (db : ReputationDb) (artifactKey : String) : Option String :=
  (db.artifacts artifactKey).bind fun row => db.files row.sha256

/-- A payload cites the hash of its artifact. -/
def CitesArtifact (db : ReputationDb) (payload : PayloadRow) : Prop :=
  ∃ text, db.readArtifact payload.artifactKey = some text ∧
    payload.payloadHash = "0x" ++ sha256 text

/-- **The checkpoints are bound to the payloads they cite**: each of them has the number and the
hash of a payload, which is the hash of its artifact, and an entry of the same payload; and a
publication that returns has published a checkpoint for every entry of a payload, and no actor has
two. -/
def Bound (c : ReputationMoment ι) : Prop :=
  (∀ checkpoint ∈ c.shared.checkpoints, ∃ payload ∈ c.shared.payloads,
    ∃ entry ∈ c.shared.entries payload.payloadId,
      checkpoint = actorCheckpoint payload.domainId payload entry ∧
        CitesArtifact sha256 c.shared payload) ∧
  ∀ i publications, c.process i = .returned publications → ∃ payload ∈ c.shared.payloads,
    publications = (c.shared.entries payload.payloadId).map
        (actorCheckpoint payload.domainId payload) ∧
      ((c.shared.entries payload.payloadId).map (·.subjectActor)).Nodup

/-- All of this but for the hash of the artifact. -/
def BoundToEntries (c : ReputationMoment ι) : Prop :=
  (∀ checkpoint ∈ c.shared.checkpoints, ∃ payload ∈ c.shared.payloads,
    ∃ entry ∈ c.shared.entries payload.payloadId,
      checkpoint = actorCheckpoint payload.domainId payload entry) ∧
  ∀ i publications, c.process i = .returned publications → ∃ payload ∈ c.shared.payloads,
    publications = (c.shared.entries payload.payloadId).map
        (actorCheckpoint payload.domainId payload) ∧
      ((c.shared.entries payload.payloadId).map (·.subjectActor)).Nodup

/-- The hash does not collide on the two texts that are made of the body of a payload. -/
def HashTells : Prop :=
  ∀ body : PayloadBody, sha256 body.artifactText = sha256 body.hashedText →
    body.artifactText = body.hashedText

/-- The action publishes a checkpoint. -/
def ReputationAction.publishes : ReputationAction → Bool
  | .publishSubject .published | .publishSubject .unanswered => true
  | _ => false

/-- A checkpoint is published in the step. -/
def publishesCheckpoint (e : ReputationEvent ι) : Bool :=
  match e.label with
  | .act _ a => a.publishes
  | .env _ => false

/-- What a run looks up is what it has found before. -/
def sameAsFound (db : ReputationDb) (domainId : ℕ) (found : Option (Option ℕ)) : Bool :=
  found.all fun payloadId =>
    (readLatestReputationPayload db domainId).map (·.payloadId) = payloadId

/-- What a run looks up is what it has found before, and the key of an artifact is not that of
another one. -/
def ReputationAction.careful (db : ReputationDb) : ReputationAction → ReputationRun → Bool
  | .readPayload, .reading domainId _ _ found => sameAsFound db domainId found
  | .resolvePage, .reading domainId _ _ found => sameAsFound db domainId found
  | .upsertArtifact, .stored body =>
    (db.artifacts (body.artifactKey sha256)).all (·.sha256 = sha256 body.artifactText)
  | _, _ => true

/-- **A step is careful** if the action is. -/
def careful (e : ReputationEvent ι) : Bool :=
  match e.label with
  | .act i a => a.careful sha256 e.before.shared (e.before.process i)
  | .env _ => true

end

/-! ### What a run knows -/

section

variable (sha256 : String → String)

/-- A payload is what has been made of its body. -/
structure Stored (db : ReputationDb) (payload : PayloadRow) : Prop where
  row : payload = payload.body.row sha256 payload.createdAt payload.payloadId
  entries : db.entries payload.payloadId = payload.body.entries payload.payloadId
  nodup : (payload.body.ordered.map (·.subjectActor)).Nodup
  artifact : db.artifacts payload.artifactKey = some ⟨sha256 payload.body.artifactText⟩

/-- **The invariant of the store.** -/
structure StoreInv (db : ReputationDb) : Prop where
  ids : (db.payloads.map (·.payloadId)).Nodup
  stored : ∀ payload ∈ db.payloads, Stored sha256 db payload
  files : ∀ {hash text}, db.files hash = some text → sha256 text = hash
  artifacts : ∀ {key row}, db.artifacts key = some row → (db.files row.sha256).isSome = true
  checkpoints : ∀ checkpoint ∈ db.checkpoints, ∃ payload ∈ db.payloads,
    ∃ entry ∈ db.entries payload.payloadId,
      checkpoint = actorCheckpoint payload.domainId payload entry

/-- **What is there stays there.** -/
structure Grows (db db' : ReputationDb) : Prop where
  payloads : ∀ payload ∈ db.payloads, payload ∈ db'.payloads
  entries : ∀ payload ∈ db.payloads, db'.entries payload.payloadId = db.entries payload.payloadId
  files : ∀ {hash}, (db.files hash).isSome = true → (db'.files hash).isSome = true
  artifacts : ∀ {key row}, db.artifacts key = some row → db'.artifacts key = some row

/-- The pages that have been read are those of these entries. -/
def ReadsEntries (entries : List LeaderboardEntryView) (payloadId : ℕ)
    (reader : LeaderboardReader) : Prop :=
  reader.items = entries.take reader.offset ∧ reader.offset ≤ entries.length ∧
    match reader.state with
    | .resolving => True
    | .counting payloadId' => payloadId' = payloadId
    | .listing payloadId' total => payloadId' = payloadId ∧ total = entries.length
    | .done => reader.offset = entries.length

/-- What the reads of a publication have found: nothing yet, no payload, or one and the same. -/
def ReadsOne (db : ReputationDb) (domainId : ℕ) (payload : Option (Option PayloadRow))
    (reader : LeaderboardReader) : Option (Option ℕ) → Prop
  | none => payload = none ∧ reader = .start
  | some none => (payload = none ∨ payload = some none) ∧
      (reader = .start ∨ reader.state = .done)
  | some (some payloadId) => ∃ row ∈ db.payloads, row.payloadId = payloadId ∧
      row.domainId = domainId ∧ (payload = none ∨ payload = some (some row)) ∧
        ReadsEntries (db.entries payloadId) payloadId reader

/-- **What a run knows about the store.** -/
def Knows (db : ReputationDb) : ReputationRun → Prop
  | .stored body => (db.files (sha256 body.artifactText)).isSome = true
  | .upserted body | .begun body _ | .inserted body _ _ =>
    db.artifacts (body.artifactKey sha256) = some ⟨sha256 body.artifactText⟩
  | .reading domainId payload reader found => ReadsOne db domainId payload reader found
  | .publishing domainId payload publications leaderboard => payload ∈ db.payloads ∧
      payload.domainId = domainId ∧ ∃ done, db.entries payload.payloadId = done ++ leaderboard ∧
        publications = done.map (actorCheckpoint domainId payload)
  | .returned publications => ∃ payload ∈ db.payloads,
      publications = (db.entries payload.payloadId).map
        (actorCheckpoint payload.domainId payload)
  | _ => True

variable {sha256} {db db' : ReputationDb} {run run' : ReputationRun}

theorem Grows.refl (db : ReputationDb) : Grows db db :=
  ⟨fun _ h => h, fun _ _ => rfl, fun h => h, fun h => h⟩

/-- **What a run knows survives what others do.** -/
theorem Knows.grows (h : Knows sha256 db run) (hgrows : Grows db db') : Knows sha256 db' run := by
  cases run with
  | stored body => exact hgrows.files h
  | upserted | begun | inserted => exact hgrows.artifacts h
  | reading domainId payload reader found =>
    match found, h with
    | none, h => exact h
    | some none, h => exact h
    | some (some _), h =>
      obtain ⟨row, hrow, rfl, hdomain, hpayload, hreads⟩ := h
      exact ⟨row, hgrows.payloads row hrow, rfl, hdomain, hpayload,
        (hgrows.entries row hrow).symm ▸ hreads⟩
  | publishing domainId payload publications leaderboard =>
    obtain ⟨hmem, hdomain, done, hentries, hpublications⟩ := h
    exact ⟨hgrows.payloads payload hmem, hdomain, done,
      (hgrows.entries payload hmem).trans hentries, hpublications⟩
  | returned publications =>
    obtain ⟨payload, hmem, hpublications⟩ := h
    exact ⟨payload, hgrows.payloads payload hmem,
      (hgrows.entries payload hmem).symm ▸ hpublications⟩
  | idle | computed | committed | threw | crashed => exact True.intro

/-- The next page goes on where the last one ended. -/
theorem ReadsEntries.append {entries : List LeaderboardEntryView} {payloadId total limit : ℕ}
    {reader : LeaderboardReader} (h : ReadsEntries entries payloadId reader)
    (hlimit : 0 < limit) (htotal : total = entries.length) :
    ReadsEntries entries payloadId
      (reader.append ((entries.drop reader.offset).take limit) total) := by
  obtain ⟨hitems, hoffset, -⟩ := h
  have hlength : ((entries.drop reader.offset).take limit).length =
      min limit (entries.length - reader.offset) := by
    rw [List.length_take, List.length_drop]
  refine ⟨?_, ?_, ?_⟩
  · change reader.items ++ (entries.drop reader.offset).take limit =
      entries.take (reader.offset + _)
    rw [hitems, List.take_add, hlength, ← List.length_drop, ← List.take_eq_take_min]
  · change reader.offset + _ ≤ _
    omega
  · have hdone : ((entries.drop reader.offset).take limit).length = 0 ∨
        total ≤ reader.offset + ((entries.drop reader.offset).take limit).length →
          reader.offset + ((entries.drop reader.offset).take limit).length = entries.length := by
      omega
    unfold LeaderboardReader.append
    by_cases hstop : ((entries.drop reader.offset).take limit).length = 0 ∨
        total ≤ reader.offset + ((entries.drop reader.offset).take limit).length
    · simp only [hstop, if_true]
      exact hdone hstop
    · simp only [hstop, if_false]

theorem Stored.grows {payload : PayloadRow} (h : Stored sha256 db payload)
    (hmem : payload ∈ db.payloads) (hgrows : Grows db db') : Stored sha256 db' payload :=
  ⟨h.row, (hgrows.entries payload hmem).trans h.entries, h.nodup, hgrows.artifacts h.artifact⟩

/-- The checkpoints that are there are still bound. -/
theorem StoreInv.checkpoints_grows (hinv : StoreInv sha256 db) (hgrows : Grows db db')
    {checkpoint : Checkpoint} (hmem : checkpoint ∈ db.checkpoints) :
    ∃ payload ∈ db'.payloads, ∃ entry ∈ db'.entries payload.payloadId,
      checkpoint = actorCheckpoint payload.domainId payload entry := by
  obtain ⟨payload, hpayload, entry, hentry, heq⟩ := hinv.checkpoints checkpoint hmem
  exact ⟨payload, hgrows.payloads payload hpayload, entry,
    (hgrows.entries payload hpayload).symm ▸ hentry, heq⟩

/-- An artifact is stored. -/
theorem StoreInv.storeArtifact (hinv : StoreInv sha256 db) (text : String) :
    StoreInv sha256 (db.storeArtifact sha256 text) ∧ Grows db (db.storeArtifact sha256 text) ∧
      ((db.storeArtifact sha256 text).files (sha256 text)).isSome = true := by
  have hgrows : Grows db (db.storeArtifact sha256 text) := by
    refine ⟨fun _ h => h, fun _ _ => rfl, fun {hash} h => ?_, fun h => h⟩
    change (if hash = sha256 text then some ((db.files hash).getD text)
      else db.files hash).isSome = _
    split
    · rfl
    · exact h
  refine ⟨⟨hinv.ids, fun payload hmem => (hinv.stored payload hmem).grows hmem hgrows,
    fun {hash text'} h => ?_, fun h => hgrows.files (hinv.artifacts h),
    fun checkpoint hmem => hinv.checkpoints_grows hgrows hmem⟩, hgrows, ?_⟩
  · change (if hash = sha256 text then some ((db.files hash).getD text) else db.files hash) = _ at h
    split at h
    next heq =>
      cases hfile : db.files hash with
      | none =>
        rw [hfile] at h
        obtain rfl : text = text' := Option.some.inj h
        exact heq.symm
      | some text₁ =>
        rw [hfile] at h
        obtain rfl : text₁ = text' := Option.some.inj h
        exact hinv.files hfile
    next => exact hinv.files h
  · change (if sha256 text = sha256 text then _ else _ : Option String).isSome = true
    rw [if_pos rfl]
    rfl

/-- Its row is written, over the one of the same artifact at most. -/
theorem StoreInv.upsertArtifact (hinv : StoreInv sha256 db) {body : PayloadBody}
    (hfile : (db.files (sha256 body.artifactText)).isSome = true)
    (hcareful : (db.artifacts (body.artifactKey sha256)).all
      (·.sha256 = sha256 body.artifactText) = true) :
    StoreInv sha256 (db.upsertArtifact sha256 body) ∧ Grows db (db.upsertArtifact sha256 body) := by
  have hgrows : Grows db (db.upsertArtifact sha256 body) := by
    refine ⟨fun _ h => h, fun _ _ => rfl, fun h => h, fun {key row} hrow => ?_⟩
    rcases eq_or_ne key (body.artifactKey sha256) with rfl | hne
    · have hsame : row.sha256 = sha256 body.artifactText := by
        simpa [show db.artifacts (body.artifactKey sha256) = some row from hrow] using hcareful
      refine (Table.set_self _ _ _).trans ?_
      rw [← hsame]
    · exact (Table.set_of_ne _ hne _).trans hrow
  refine ⟨⟨hinv.ids, fun payload hmem => (hinv.stored payload hmem).grows hmem hgrows, hinv.files,
    fun {key row} hrow => ?_, fun checkpoint hmem => hinv.checkpoints_grows hgrows hmem⟩, hgrows⟩
  rcases eq_or_ne key (body.artifactKey sha256) with rfl | hne
  · obtain rfl := Option.some.inj ((Table.set_self _ _ _).symm.trans hrow)
    exact hfile
  · exact hinv.artifacts ((Table.set_of_ne _ hne _).symm.trans hrow)

/-- A payload and its entries are inserted. -/
theorem StoreInv.insertPayload (hinv : StoreInv sha256 db) {body : PayloadBody}
    {createdAt payloadId : ℕ} (haccepts : db.accepts (body.row sha256 createdAt payloadId) = true)
    (hartifact : db.artifacts (body.artifactKey sha256) = some ⟨sha256 body.artifactText⟩) :
    StoreInv sha256 (db.insertPayload (body.row sha256 createdAt payloadId)) ∧
      Grows db (db.insertPayload (body.row sha256 createdAt payloadId)) := by
  simp only [ReputationDb.accepts, Bool.and_eq_true, decide_eq_true_eq] at haccepts
  obtain ⟨⟨hid, -⟩, hnodup⟩ := haccepts
  have hgrows : Grows db (db.insertPayload (body.row sha256 createdAt payloadId)) := by
    refine ⟨fun _ h => List.mem_append_left _ h, fun payload hmem => ?_, fun h => h, fun h => h⟩
    refine Function.update_of_ne ?_ _ _
    intro heq
    exact hid (List.mem_map.mpr ⟨payload, hmem, heq⟩)
  refine ⟨⟨?_, fun payload hmem => ?_, hinv.files, hinv.artifacts,
    fun checkpoint hmem => hinv.checkpoints_grows hgrows hmem⟩, hgrows⟩
  · rw [ReputationDb.insertPayload, List.map_append, List.map_singleton]
    refine List.nodup_append.mpr ⟨hinv.ids, List.nodup_singleton _, fun id hmem id' hid' => ?_⟩
    rintro rfl
    obtain rfl := List.mem_singleton.mp hid'
    exact hid hmem
  · rcases List.mem_append.mp hmem with hmem | hmem
    · exact (hinv.stored payload hmem).grows hmem hgrows
    · obtain rfl := List.mem_singleton.mp hmem
      exact ⟨rfl, Function.update_self _ _ _, hnodup, hartifact⟩

/-- A checkpoint is published. -/
theorem StoreInv.publish (hinv : StoreInv sha256 db) {payload : PayloadRow}
    (hpayload : payload ∈ db.payloads) {entry : LeaderboardEntryView}
    (hentry : entry ∈ db.entries payload.payloadId) :
    StoreInv sha256 (db.publish (actorCheckpoint payload.domainId payload entry)) ∧
      Grows db (db.publish (actorCheckpoint payload.domainId payload entry)) := by
  have hgrows : Grows db (db.publish (actorCheckpoint payload.domainId payload entry)) :=
    ⟨fun _ h => h, fun _ _ => rfl, fun h => h, fun h => h⟩
  refine ⟨⟨hinv.ids, fun payload hmem => (hinv.stored payload hmem).grows hmem hgrows, hinv.files,
    hinv.artifacts, fun checkpoint hmem => ?_⟩, hgrows⟩
  rcases List.mem_append.mp hmem with hmem | hmem
  · exact hinv.checkpoints checkpoint hmem
  · obtain rfl := List.mem_singleton.mp hmem
    exact ⟨payload, hpayload, entry, hentry, rfl⟩

/-- The rows are unique by their number. -/
theorem StoreInv.eq_of_payloadId (hinv : StoreInv sha256 db) {payload payload' : PayloadRow}
    (h : payload ∈ db.payloads) (h' : payload' ∈ db.payloads)
    (hid : payload.payloadId = payload'.payloadId) : payload = payload' :=
  List.inj_on_of_nodup_map hinv.ids h h' hid

/-- What is looked up carefully is what has been found. -/
theorem latest_of_found (hinv : StoreInv sha256 db) {domainId payloadId : ℕ} {row : PayloadRow}
    (hrow : row ∈ db.payloads) (hid : row.payloadId = payloadId)
    (hcareful : sameAsFound db domainId (some (some payloadId)) = true) :
    readLatestReputationPayload db domainId = some row := by
  have hlatest : (readLatestReputationPayload db domainId).map (·.payloadId) = some payloadId := by
    simpa [sameAsFound] using hcareful
  obtain ⟨latest, hsome, heq⟩ := Option.map_eq_some_iff.mp hlatest
  rw [hsome, hinv.eq_of_payloadId (mem_of_readLatest hsome).1 hrow (heq.trans hid.symm)]

theorem latest_of_none {domainId : ℕ} (hcareful : sameAsFound db domainId (some none) = true) :
    readLatestReputationPayload db domainId = none := by
  simpa [sameAsFound] using hcareful

theorem readsEntries_start (entries : List LeaderboardEntryView) (payloadId : ℕ) :
    ReadsEntries entries payloadId .start := ⟨rfl, Nat.zero_le _, trivial⟩

/-- The payload is read, and is the one that has been found. -/
theorem ReadsOne.readPayload (hinv : StoreInv sha256 db) {domainId : ℕ}
    {reader : LeaderboardReader} {found : Option (Option ℕ)}
    (h : ReadsOne db domainId none reader found)
    (hcareful : sameAsFound db domainId found = true) :
    ReadsOne db domainId (some (readLatestReputationPayload db domainId)) reader
      (some (found.getD ((readLatestReputationPayload db domainId).map (·.payloadId)))) := by
  match found, h with
  | none, ⟨_, hstart⟩ =>
    subst hstart
    cases hlatest : readLatestReputationPayload db domainId with
    | none => exact ⟨.inr rfl, .inl rfl⟩
    | some row =>
      obtain ⟨hrow, hdomain⟩ := mem_of_readLatest hlatest
      exact ⟨row, hrow, rfl, hdomain, .inr rfl, readsEntries_start _ _⟩
  | some none, ⟨_, hreader⟩ =>
    rw [latest_of_none hcareful]
    exact ⟨.inr rfl, hreader⟩
  | some (some payloadId), ⟨row, hrow, hid, hdomain, _, hreads⟩ =>
    rw [latest_of_found hinv hrow hid hcareful]
    exact ⟨row, hrow, hid, hdomain, .inr rfl, hreads⟩

/-- The latest payload is looked up for a page, and is the one that has been found. -/
theorem ReadsOne.resolve (hinv : StoreInv sha256 db) {domainId : ℕ}
    {payload : Option (Option PayloadRow)} {reader : LeaderboardReader}
    {found : Option (Option ℕ)} (h : ReadsOne db domainId payload reader found)
    (hcareful : sameAsFound db domainId found = true) :
    ReadsOne db domainId payload (reader.resolve (readLatestReputationPayload db domainId))
      (some (found.getD ((readLatestReputationPayload db domainId).map (·.payloadId)))) := by
  have hnone : (reader.resolve none).state = .done := by
    simp [LeaderboardReader.resolve, LeaderboardReader.append]
  match found, h with
  | none, ⟨hpayload, hstart⟩ =>
    subst hpayload hstart
    cases hlatest : readLatestReputationPayload db domainId with
    | none => exact ⟨.inl rfl, .inr rfl⟩
    | some row =>
      obtain ⟨hrow, hdomain⟩ := mem_of_readLatest hlatest
      exact ⟨row, hrow, rfl, hdomain, .inl rfl, rfl, Nat.zero_le _, rfl⟩
  | some none, ⟨hpayload, _⟩ =>
    rw [latest_of_none hcareful]
    exact ⟨hpayload, .inr hnone⟩
  | some (some payloadId), ⟨row, hrow, hid, hdomain, hpayload, hitems, hoffset, _⟩ =>
    rw [latest_of_found hinv hrow hid hcareful]
    exact ⟨row, hrow, hid, hdomain, hpayload, hitems, hoffset, hid⟩

/-- The entries of a page are counted, of the payload that has been found. -/
theorem ReadsOne.count {domainId payloadId : ℕ} {payload : Option (Option PayloadRow)}
    {reader : LeaderboardReader} {found : Option (Option ℕ)}
    (h : ReadsOne db domainId payload reader found)
    (hstate : reader.state = .counting payloadId) :
    ReadsOne db domainId payload
      { reader with state := .listing payloadId (countLeaderboardEntries db payloadId) } found := by
  match found, h with
  | none, ⟨_, hstart⟩ =>
    subst hstart
    cases hstate
  | some none, ⟨_, hreader⟩ =>
    rcases hreader with rfl | hdone
    · cases hstate
    · rw [hdone] at hstate
      cases hstate
  | some (some _), ⟨row, hrow, hid, hdomain, hpayload, hitems, hoffset, hcounting⟩ =>
    rw [hstate] at hcounting
    obtain rfl : payloadId = _ := hcounting
    exact ⟨row, hrow, hid, hdomain, hpayload, hitems, hoffset, rfl, rfl⟩

/-- A page is read. -/
theorem ReadsOne.list (hinv : StoreInv sha256 db) {domainId payloadId total : ℕ}
    {payload : Option (Option PayloadRow)} {reader : LeaderboardReader}
    {found : Option (Option ℕ)} (h : ReadsOne db domainId payload reader found)
    (hstate : reader.state = .listing payloadId total) :
    ReadsOne db domainId payload
      (reader.append (queryLeaderboardEntries db payloadId 100 reader.offset) total) found := by
  match found, h with
  | none, ⟨_, hstart⟩ =>
    subst hstart
    cases hstate
  | some none, ⟨_, hreader⟩ =>
    rcases hreader with rfl | hdone
    · cases hstate
    · rw [hdone] at hstate
      cases hstate
  | some (some _), ⟨row, hrow, hid, hdomain, hpayload, hreads⟩ =>
    obtain ⟨rfl, htotal⟩ : payloadId = _ ∧ total = (db.entries _).length := by
      have hlisting := hreads.2.2
      rw [hstate] at hlisting
      exact hlisting
    have hsorted : queryLeaderboardEntries db payloadId 100 reader.offset =
        ((db.entries payloadId).drop reader.offset).take 100 := by
      rw [queryLeaderboardEntries, ← hid, (hinv.stored row hrow).entries, insertionSort_entries]
    rw [hsorted]
    exact ⟨row, hrow, hid, hdomain, hpayload, hreads.append (by decide) htotal⟩

/-- Everything has been read, of one payload. -/
theorem ReadsOne.collect {domainId : ℕ} {payload : PayloadRow} {reader : LeaderboardReader}
    {found : Option (Option ℕ)} (h : ReadsOne db domainId (some (some payload)) reader found)
    (hdone : reader.state = .done) :
    Knows sha256 db (.publishing domainId payload [] reader.items) := by
  match found, h with
  | none, ⟨hpayload, _⟩ => cases hpayload
  | some none, ⟨hpayload, _⟩ => rcases hpayload with hpayload | hpayload <;> cases hpayload
  | some (some _), ⟨row, hrow, hid, hdomain, hpayload, hitems, _, hstate⟩ =>
    rcases hpayload with hpayload | hpayload
    · cases hpayload
    · obtain rfl : payload = row := Option.some.inj (Option.some.inj hpayload)
      rw [hdone] at hstate
      refine ⟨hrow, hdomain, [], ?_, rfl⟩
      rw [hitems, show reader.offset = _ from hstate, List.take_length, hid, List.nil_append]

/-- **The store after a careful action**, and what the run knows then. -/
theorem reputationAct_spec {a : ReputationAction} (hinv : StoreInv sha256 db)
    (h : Knows sha256 db run) (hact : reputationAct sha256 a db run = some (db', run'))
    (hcareful : a.careful sha256 db run = true) :
    StoreInv sha256 db' ∧ Grows db db' ∧ Knows sha256 db' run' := by
  have hsame : ∀ {run' : ReputationRun}, Knows sha256 db run' →
      StoreInv sha256 db ∧ Grows db db ∧ Knows sha256 db run' :=
    fun hrun' => ⟨hinv, .refl db, hrun'⟩
  unfold reputationAct at hact
  split at hact
  case h_1 =>
    obtain ⟨rfl, rfl⟩ := Prod.mk.inj (Option.some.inj hact)
    split <;> exact hsame True.intro
  case h_2 body =>
    obtain ⟨rfl, rfl⟩ := Prod.mk.inj (Option.some.inj hact)
    exact hinv.storeArtifact _
  case h_3 body =>
    obtain ⟨rfl, rfl⟩ := Prod.mk.inj (Option.some.inj hact)
    obtain ⟨hinv', hgrows⟩ := hinv.upsertArtifact h hcareful
    exact ⟨hinv', hgrows, Table.set_self _ _ _⟩
  case h_4 | h_5 =>
    obtain ⟨rfl, rfl⟩ := Prod.mk.inj (Option.some.inj hact)
    exact hsame h
  case h_6 body createdAt payloadId =>
    split at hact
    next haccepts =>
      obtain ⟨rfl, rfl⟩ := Prod.mk.inj (Option.some.inj hact)
      obtain ⟨hinv', hgrows⟩ := hinv.insertPayload haccepts h
      exact ⟨hinv', hgrows, True.intro⟩
    next => cases hact
  case h_7 domainId =>
    obtain ⟨rfl, rfl⟩ := Prod.mk.inj (Option.some.inj hact)
    exact hsame ⟨rfl, rfl⟩
  case h_8 domainId leaderboard found =>
    obtain ⟨rfl, rfl⟩ := Prod.mk.inj (Option.some.inj hact)
    exact hsame (ReadsOne.readPayload hinv h hcareful)
  case h_9 domainId payload leaderboard found =>
    split at hact
    next hstate =>
      obtain ⟨rfl, rfl⟩ := Prod.mk.inj (Option.some.inj hact)
      exact hsame (ReadsOne.resolve hinv h hcareful)
    next => cases hact
  case h_10 domainId payload leaderboard found =>
    split at hact
    next payloadId hstate =>
      obtain ⟨rfl, rfl⟩ := Prod.mk.inj (Option.some.inj hact)
      exact hsame (ReadsOne.count h hstate)
    next => cases hact
  case h_11 domainId payload leaderboard found =>
    split at hact
    next payloadId total hstate =>
      obtain ⟨rfl, rfl⟩ := Prod.mk.inj (Option.some.inj hact)
      exact hsame (ReadsOne.list hinv h hstate)
    next => cases hact
  case h_12 domainId payload leaderboard found =>
    split at hact
    next hdone =>
      split at hact
      next payload =>
        obtain ⟨rfl, rfl⟩ := Prod.mk.inj (Option.some.inj hact)
        exact hsame (ReadsOne.collect h hdone)
      next =>
        obtain ⟨rfl, rfl⟩ := Prod.mk.inj (Option.some.inj hact)
        exact hsame True.intro
    next => cases hact
  case h_13 outcome domainId payload publications entry leaderboard =>
    obtain ⟨hpayload, rfl, done, hentries, hpublications⟩ := id h
    have hentry : entry ∈ db.entries payload.payloadId := by
      rw [hentries]
      exact List.mem_append_right _ List.mem_cons_self
    obtain ⟨hinv', hgrows⟩ := hinv.publish hpayload hentry
    split at hact
    · obtain ⟨rfl, rfl⟩ := Prod.mk.inj (Option.some.inj hact)
      refine ⟨hinv', hgrows, hpayload, rfl, done ++ [entry], ?_, ?_⟩
      · rw [List.append_assoc, List.singleton_append]
        exact hentries
      · rw [hpublications, List.map_append, List.map_singleton]
    · obtain ⟨rfl, rfl⟩ := Prod.mk.inj (Option.some.inj hact)
      exact hsame True.intro
    · obtain ⟨rfl, rfl⟩ := Prod.mk.inj (Option.some.inj hact)
      exact ⟨hinv', hgrows, True.intro⟩
  case h_14 domainId payload publications =>
    obtain ⟨rfl, rfl⟩ := Prod.mk.inj (Option.some.inj hact)
    obtain ⟨hpayload, rfl, done, hentries, rfl⟩ := h
    refine hsame ⟨payload, hpayload, ?_⟩
    rw [hentries, List.append_nil]
  case h_15 | h_16 =>
    split at hact
    next =>
      obtain ⟨rfl, rfl⟩ := Prod.mk.inj (Option.some.inj hact)
      exact hsame True.intro
    next => cases hact
  case h_17 => cases hact

/-- **The invariant holds of careful histories**, and what the runs know. -/
theorem storeInv_run {ι : Type} [DecidableEq ι] {tr : List (ReputationEvent ι)}
    {c : ReputationMoment ι} (h : (reputationRuns sha256).Run tr c)
    (hcareful : ∀ e ∈ tr, careful sha256 e = true) :
    StoreInv sha256 c.shared ∧ ∀ i, Knows sha256 c.shared (c.process i) := by
  have howned := h.owned
    (I := fun tr db => (∀ e ∈ tr, careful sha256 e = true) → StoreInv sha256 db)
    (O := fun tr db _ run => (∀ e ∈ tr, careful sha256 e = true) → Knows sha256 db run) ?_ ?_ ?_
  · exact ⟨howned.1 hcareful, fun i => howned.2 i hcareful⟩
  · rintro db ⟨replicationsSchema, rfl⟩
    refine ⟨fun _ => ⟨List.nodup_nil, ?_, ?_, ?_, ?_⟩, fun _ _ => True.intro⟩
    · exact fun _ hmem => absurd hmem List.not_mem_nil
    · exact fun hfile => absurd hfile (Option.some_ne_none _).symm
    · exact fun hrow => absurd hrow (Option.some_ne_none _).symm
    · exact fun _ hmem => absurd hmem List.not_mem_nil
  · intro tr c i a db run _ hinv hknows hact
    have hstep : (∀ e ∈ tr ++ [⟨c, .act i a, ⟨db, Function.update c.process i run⟩⟩],
        careful sha256 e = true) →
        (∀ e ∈ tr, careful sha256 e = true) ∧
          a.careful sha256 c.shared (c.process i) = true :=
      fun hall => ⟨fun e he => hall e (List.mem_append_left _ he),
        hall _ (List.mem_append_right _ (List.mem_singleton_self _))⟩
    refine ⟨fun hall => ?_, fun hall => ?_, fun j _ hall => ?_⟩
    · exact (reputationAct_spec (hinv (hstep hall).1) (hknows i (hstep hall).1) hact
        (hstep hall).2).1
    · exact (reputationAct_spec (hinv (hstep hall).1) (hknows i (hstep hall).1) hact
        (hstep hall).2).2.2
    · exact (hknows j (hstep hall).1).grows (reputationAct_spec (hinv (hstep hall).1)
        (hknows i (hstep hall).1) hact (hstep hall).2).2.1
  · intro tr c b db _ _ _ henv
    cases b

/-- **A payload never cites the hash of its artifact**, if the hash tells the two texts apart. -/
theorem StoreInv.not_citesArtifact (hinv : StoreInv sha256 db) (hhash : HashTells sha256)
    {payload : PayloadRow} (hmem : payload ∈ db.payloads) : ¬CitesArtifact sha256 db payload := by
  have hstored := hinv.stored payload hmem
  have hpayload : payload.payloadHash = "0x" ++ sha256 payload.body.hashedText :=
    congrArg PayloadRow.payloadHash hstored.row
  rintro ⟨text, hread, heq⟩
  have hfile : db.files (sha256 payload.body.artifactText) = some text := by
    rw [ReputationDb.readArtifact, hstored.artifact] at hread
    exact hread
  have hsame : sha256 payload.body.artifactText = sha256 payload.body.hashedText := by
    rw [← hinv.files hfile]
    exact ((String.append_right_inj "0x").mp (hpayload.symm.trans heq)).symm
  exact hashedText_ne_artifactText payload.body (hhash payload.body hsame).symm

/-- Nobody changes the columns. -/
theorem replicationsSchema_act {a : ReputationAction}
    (hact : reputationAct sha256 a db run = some (db', run')) :
    db'.replicationsSchema = db.replicationsSchema := by
  unfold reputationAct at hact
  split at hact
  case h_6 | h_9 | h_10 | h_11 | h_15 | h_16 =>
    split at hact
    · obtain ⟨rfl, rfl⟩ := Prod.mk.inj (Option.some.inj hact)
      rfl
    · cases hact
  case h_12 =>
    split at hact
    · split at hact <;> obtain ⟨rfl, rfl⟩ := Prod.mk.inj (Option.some.inj hact) <;> rfl
    · cases hact
  case h_13 =>
    split at hact <;> obtain ⟨rfl, rfl⟩ := Prod.mk.inj (Option.some.inj hact) <;> rfl
  case h_17 => cases hact
  all_goals
    obtain ⟨rfl, rfl⟩ := Prod.mk.inj (Option.some.inj hact)
    rfl

/-- The checkpoints of a step. -/
theorem checkpoints_act {a : ReputationAction}
    (hact : reputationAct sha256 a db run = some (db', run')) :
    db'.checkpoints = [] ↔ db.checkpoints = [] ∧ a.publishes = false := by
  unfold reputationAct at hact
  split at hact
  case h_6 =>
    split at hact
    · obtain ⟨rfl, rfl⟩ := Prod.mk.inj (Option.some.inj hact)
      simp [ReputationDb.insertPayload, ReputationAction.publishes]
    · cases hact
  case h_13 outcome _ _ _ _ _ =>
    split at hact <;> obtain ⟨rfl, rfl⟩ := Prod.mk.inj (Option.some.inj hact)
    · simp [ReputationDb.publish, ReputationAction.publishes]
    · simp [ReputationAction.publishes]
    · simp [ReputationDb.publish, ReputationAction.publishes]
  case h_9 | h_10 | h_11 | h_15 | h_16 =>
    split at hact
    · obtain ⟨rfl, rfl⟩ := Prod.mk.inj (Option.some.inj hact)
      simp [ReputationAction.publishes]
    · cases hact
  case h_12 =>
    split at hact
    · split at hact <;> obtain ⟨rfl, rfl⟩ := Prod.mk.inj (Option.some.inj hact)
      · simp [ReputationAction.publishes]
      · simp [ReputationAction.publishes]
    · cases hact
  case h_17 => cases hact
  all_goals
    obtain ⟨rfl, rfl⟩ := Prod.mk.inj (Option.some.inj hact)
    simp [ReputationAction.publishes, ReputationDb.storeArtifact, ReputationDb.upsertArtifact]

/-- **There are no checkpoints** as long as no step has published one. -/
theorem checkpoints_eq_nil_iff {ι : Type} [DecidableEq ι] {tr : List (ReputationEvent ι)}
    {c : ReputationMoment ι} (h : (reputationRuns sha256).Run tr c) :
    c.shared.checkpoints = [] ↔ ∀ e ∈ tr, publishesCheckpoint e = false := by
  induction h with
  | genesis hgenesis =>
    obtain ⟨replicationsSchema, rfl⟩ := hgenesis
    exact ⟨fun _ e he => absurd he List.not_mem_nil, fun _ => rfl⟩
  | @snoc tr c c' l _ hstep ih =>
    have hall : (∀ e ∈ tr ++ [⟨c, l, c'⟩], publishesCheckpoint e = false) ↔
        (∀ e ∈ tr, publishesCheckpoint e = false) ∧
          publishesCheckpoint ⟨c, l, c'⟩ = false := by
      simp only [List.forall_mem_append, List.forall_mem_singleton]
    rw [hall, ← ih]
    cases hstep with
    | act hact => exact checkpoints_act hact
    | @env b _ _ => cases b

/-- What a run is at where the replications cannot be listed: it has nothing of a payload. -/
def Fruitless : ReputationRun → Prop
  | .idle | .threw | .crashed => True
  | .reading _ payload _ _ => payload = none ∨ payload = some none
  | _ => False

/-- **Where the replications cannot be listed no payload is stored**, and nothing is published. -/
theorem fruitless_act {a : ReputationAction} (hcolumn : ¬db.replicationsSchema.HasDecisionColumn)
    (hpayloads : db.payloads = []) (hrun : Fruitless run)
    (hact : reputationAct sha256 a db run = some (db', run')) :
    db' = db ∧ Fruitless run' ∧ a.publishes = false := by
  have hlatest : ∀ domainId, readLatestReputationPayload db domainId = none := by
    intro domainId
    rw [readLatestReputationPayload, hpayloads]
    rfl
  unfold reputationAct at hact
  split at hact
  case h_1 =>
    obtain ⟨rfl, rfl⟩ := Prod.mk.inj (Option.some.inj hact)
    rw [if_neg hcolumn]
    exact ⟨rfl, trivial, rfl⟩
  case h_7 =>
    obtain ⟨rfl, rfl⟩ := Prod.mk.inj (Option.some.inj hact)
    exact ⟨rfl, .inl rfl, rfl⟩
  case h_8 =>
    obtain ⟨rfl, rfl⟩ := Prod.mk.inj (Option.some.inj hact)
    exact ⟨rfl, .inr (congrArg some (hlatest _)), rfl⟩
  case h_9 | h_10 | h_11 =>
    split at hact
    · obtain ⟨rfl, rfl⟩ := Prod.mk.inj (Option.some.inj hact)
      exact ⟨rfl, hrun, rfl⟩
    · cases hact
  case h_12 =>
    split at hact
    · obtain rfl := Option.some.inj (hrun.resolve_left (Option.some_ne_none _))
      obtain ⟨rfl, rfl⟩ := Prod.mk.inj (Option.some.inj hact)
      exact ⟨rfl, trivial, rfl⟩
    · cases hact
  case h_15 | h_16 =>
    split at hact
    · obtain ⟨rfl, rfl⟩ := Prod.mk.inj (Option.some.inj hact)
      exact ⟨rfl, trivial, rfl⟩
    · cases hact
  case h_17 => cases hact
  all_goals exact hrun.elim

/-- So it is in every history. -/
theorem fruitless_run {ι : Type} [DecidableEq ι] {tr : List (ReputationEvent ι)}
    {c : ReputationMoment ι} (h : (reputationRuns sha256).Run tr c)
    (hcolumn : ¬c.shared.replicationsSchema.HasDecisionColumn) :
    c.shared.payloads = [] ∧ (∀ i, Fruitless (c.process i)) ∧
      ∀ e ∈ tr, publishesCheckpoint e = false := by
  induction h with
  | genesis hgenesis =>
    obtain ⟨replicationsSchema, rfl⟩ := hgenesis
    exact ⟨rfl, fun _ => trivial, fun e he => absurd he List.not_mem_nil⟩
  | @snoc tr c c' l _ hstep ih =>
    cases hstep with
    | @act i a db run hact =>
      have hschema : db.replicationsSchema = c.shared.replicationsSchema :=
        replicationsSchema_act hact
      obtain ⟨hpayloads, hfruitless, hquiet⟩ := ih (hschema ▸ hcolumn)
      obtain ⟨rfl, hrun, hpublishes⟩ :=
        fruitless_act (hschema ▸ hcolumn) hpayloads (hfruitless i) hact
      refine ⟨hpayloads, fun j => ?_, fun e he => ?_⟩
      · rcases eq_or_ne j i with rfl | hne
        · simp only [Function.update_self]
          exact hrun
        · simp only [Function.update_of_ne hne]
          exact hfruitless j
      · rcases List.mem_append.mp he with he | he
        · exact hquiet e he
        · obtain rfl := List.mem_singleton.mp he
          exact hpublishes
    | @env b _ _ => cases b

/-- A payload of an actor with a score. -/
def bodyOf (subjectActor : String) (score : ℤ) : PayloadBody where
  createdAt := "2026-01-01T00:00:00.000Z"
  cutoffBlock := 1
  cursorBlock := none
  domainId := 7
  ordered := [⟨1, 1, 0, 0, 0, 0, 0, 0, score, subjectActor, 1, 0⟩]

/-- The actions of a computation. -/
def computing (body : PayloadBody) (now payloadId : ℕ) : List ReputationAction :=
  [.compute body, .storeArtifact, .upsertArtifact, .begin now, .insert payloadId, .commit]

/-- A computation, and a publication of what it has computed. -/
def oneAfterTheOther : List (ℕ × ReputationAction) :=
  (computing (bodyOf "0xa" 5) 0 1).map ((0, ·)) ++
    [(1, .publish 7), (1, .resolvePage), (1, .readPayload), (1, .countPage), (1, .listPage),
      (1, .collect), (1, .publishSubject .published), (1, .return)]

/-- Another payload is committed after the publication has read the first one. -/
def recomputed : List (ℕ × ReputationAction) :=
  (computing (bodyOf "0xa" 5) 0 1).map ((0, ·)) ++ [(1, .publish 7), (1, .readPayload)] ++
    (computing (bodyOf "0xa" 6) 1 2).map ((2, ·)) ++
      [(1, .resolvePage), (1, .countPage), (1, .listPage), (1, .collect),
        (1, .publishSubject .published)]

/-- The history some actions give on an empty store where the replications can be listed, with the
text itself for its hash. -/
def playReputation {ι : Type} [DecidableEq ι] (moves : List (ι × ReputationAction)) :
    Option (List (ReputationEvent ι) × ReputationMoment ι) :=
  (reputationRuns id).play moves ⟨.empty .repaired, fun _ => .idle⟩

theorem run_playReputation {ι : Type} [DecidableEq ι] {moves : List (ι × ReputationAction)}
    (h : (playReputation moves).isSome = true) :
    (reputationRuns id).Run ((playReputation moves).get h).1 ((playReputation moves).get h).2 :=
  Processes.run_play (show (reputationRuns id).genesis (.empty .repaired) from ⟨.repaired, rfl⟩) h

theorem oneAfterTheOther_possible : (playReputation oneAfterTheOther).isSome = true := by
  decide

/-- A domain nobody has done anything in. -/
def withoutActors : List (ℕ × ReputationAction) :=
  (computing { bodyOf "0xa" 5 with ordered := [] } 0 1).map ((0, ·)) ++
    [(1, .publish 7), (1, .readPayload), (1, .resolvePage), (1, .countPage), (1, .listPage),
      (1, .collect), (1, .return)]

theorem withoutActors_possible : (playReputation withoutActors).isSome = true := by
  decide

theorem recomputed_possible : (playReputation recomputed).isSome = true := by
  decide +kernel

end

end ScientificProtocol.Reputation
