import ScientificProtocol.Artifacts.Filesystem
import ScientificProtocol.Js.Map

/-!
# Replicas of an artifact

`persistArtifact` of `src/shared/persisted-artifacts.ts` stores an artifact with its primary
backend and then a copy of it with every IPFS target. The backend and the targets are each handed
the content that the call was given, except for Filecoin, which is handed a padded one if the
content is short; and the record that all of them come under has the digest and the length of what
the *backend* was handed.

So every replica holds what the record says unless a short content went to Filecoin and a copy of it
to some target (`ScientificProtocol.Artifacts.replicas_hold_iff`). Where a file has been stored
before, what is found there counts.
-/

namespace ScientificProtocol.Artifacts

/-! ### Where artifacts are -/

/-- A locator, by its scheme. -/
inductive Locator where
  | file (path : String)
  | http (url : String)
  | s3 (bucket key : String)
  | gcs (bucket key : String)
  | ipfs (cid : String)
  deriving DecidableEq

/-- Who stores objects: a node of IPFS, or whoever a locator of another scheme names. -/
inductive StorageClient where
  | locator
  | ipfs (node : String)
  deriving DecidableEq

/-- What is stored, by whom and where. -/
abbrev Storage : Type := StorageClient → Locator → Option Bytes

/-- **A backend stores exactly the bytes it is handed.** -/
def Storage.put (storage : Storage) (client : StorageClient) (locator : Locator) (bytes : Bytes) :
    Storage :=
  fun client' locator' =>
    if client' = client ∧ locator' = locator then some bytes else storage client' locator'

theorem Storage.put_self (storage : Storage) (client : StorageClient) (locator : Locator)
    (bytes : Bytes) : storage.put client locator bytes client locator = some bytes := by
  rw [Storage.put, if_pos ⟨rfl, rfl⟩]

/-- Putting the same bytes somewhere does not change that they are somewhere. -/
theorem Storage.put_kept {storage : Storage} {client client' : StorageClient}
    {locator locator' : Locator} {bytes : Bytes}
    (h : storage client' locator' = some bytes) :
    storage.put client locator bytes client' locator' = some bytes := by
  rw [Storage.put]
  split
  · rfl
  · exact h

inductive ArtifactPersistenceBackend where
  | filesystem
  | http
  | s3
  | gcs
  | ipfs
  | filecoin
  deriving DecidableEq, Repr

/-- A target that copies go to: its replica key, and the node it is at. -/
structure ArtifactIpfsReplicaTarget where
  replicaKey : String
  provider : String
  node : String
  deriving DecidableEq

/-- `ResolvedArtifactPersistenceOptions`. The keys of the targets have been checked. -/
structure ArtifactPersistenceOptions where
  backend : ArtifactPersistenceBackend
  filesystemRoot : String
  httpBaseUrl : String
  s3Bucket : String
  s3Prefix : String
  gcsBucket : String
  gcsPrefix : String
  /-- The node of `ipfsClient`. -/
  ipfsNode : String
  ipfsProvider : String
  ipfsReplicaTargets : List ArtifactIpfsReplicaTarget
  keys_nodup : (ipfsReplicaTargets.map ArtifactIpfsReplicaTarget.replicaKey).Nodup
  primary_reserved : "primary" ∉ ipfsReplicaTargets.map ArtifactIpfsReplicaTarget.replicaKey

/-- What the services outside compute and answer. -/
structure Services where
  sha256Hex : Bytes → String
  /-- The content identifier a node gives to an object. -/
  cid : String → Bytes → String
  /-- Where Filecoin says that an object is to be had. -/
  retrievalUrl : Bytes → String
  /-- Whether the primary backend takes the object. -/
  accepts : Bool
  /-- Whether a target takes it. -/
  takes : ArtifactIpfsReplicaTarget → Bool

/-! ### What is recorded -/

structure PersistedArtifactReplicaRecord where
  isPrimary : Bool
  locator : Locator
  provider : String
  replicaKey : String
  deriving DecidableEq

inductive ArtifactAuditStatus where
  | hashMismatch
  | replicated
  | replicationFailed
  | unreachable
  | verified
  deriving DecidableEq, Repr

structure PersistedArtifactAuditRecord where
  locator : Option Locator
  observedSha256 : Option String
  provider : String
  replicaKey : String
  status : ArtifactAuditStatus
  deriving DecidableEq

/-- `PersistedArtifactRecord`, with its replicas and audits. -/
structure PersistedArtifact where
  artifactKey : String
  byteLength : ℕ
  contentType : String
  kind : String
  sha256 : String
  storagePath : Locator
  audits : List PersistedArtifactAuditRecord
  replicas : List PersistedArtifactReplicaRecord
  deriving DecidableEq

/-! ### Persisting -/

/-- `FILECOIN_MIN_UPLOAD_BYTES`. -/
def filecoinMinUploadBytes : ℕ := 127

/-- Line feeds are put behind what is too short. -/
def padToFilecoinMinimum (bytes : Bytes) : Bytes :=
  if filecoinMinUploadBytes ≤ bytes.length then bytes
  else bytes ++ List.replicate (filecoinMinUploadBytes - bytes.length) 0x0A

/-- `prefix.replace(/^\\/+|\\/+$/g, "")`. -/
def normalizeObjectPrefix (text : String) : String :=
  String.ofList ((text.toList.dropWhile (· = '/')).rdropWhile (· = '/'))

section

variable (S : Services) (options : ArtifactPersistenceOptions) (input : PersistedArtifactInput)

/-- The bytes that the primary backend is handed. -/
def primaryBytes : Bytes :=
  match options.backend with
  | .filecoin => padToFilecoinMinimum input.content
  | _ => input.content

/-- `getS3ObjectKey` and `getGcsObjectKey`. -/
def getObjectKey (objectPrefix : String) : String :=
  let suffix := input.kind ++ "/" ++ S.sha256Hex input.content ++ "." ++
    normalizeExtension input.extension
  if normalizeObjectPrefix objectPrefix = "" then suffix
  else normalizeObjectPrefix objectPrefix ++ "/" ++ suffix

/-- `httpBaseUrl`, without a slash at its end. -/
def normalizedBaseUrl : String :=
  match options.httpBaseUrl.toList.reverse with
  | '/' :: rest => String.ofList rest.reverse
  | _ => options.httpBaseUrl

/-- Who stores the primary replica, and where. -/
def primaryAt : StorageClient × Locator :=
  match options.backend with
  | .filesystem => (.locator, .file (input.filePath S.sha256Hex options.filesystemRoot))
  | .http => (.locator, .http (normalizedBaseUrl options ++ "/" ++ input.kind ++ "/" ++
      S.sha256Hex input.content ++ "." ++ normalizeExtension input.extension))
  | .s3 => (.locator, .s3 options.s3Bucket (getObjectKey S input options.s3Prefix))
  | .gcs => (.locator, .gcs options.gcsBucket (getObjectKey S input options.gcsPrefix))
  | .ipfs => (.ipfs options.ipfsNode, .ipfs (S.cid options.ipfsNode input.content))
  | .filecoin => (.locator, .http (S.retrievalUrl (padToFilecoinMinimum input.content)))

/-- A backend that needs a setting has it. -/
def configured : Bool :=
  match options.backend with
  | .http => options.httpBaseUrl ≠ ""
  | .s3 => options.s3Bucket ≠ ""
  | .gcs => options.gcsBucket ≠ ""
  | _ => true

/-- The primary backend stores what it is handed, but the file system keeps what it has. -/
def storePrimary (storage : Storage) : Storage :=
  let at' := primaryAt S options input
  if options.backend = .filesystem ∧ (storage at'.1 at'.2).isSome then storage
  else storage.put at'.1 at'.2 (primaryBytes options input)

/-- `inferPrimaryReplicaProvider`. -/
def inferPrimaryReplicaProvider : Locator → String
  | .file _ => "filesystem"
  | .http _ => "http"
  | .s3 .. => "s3"
  | .gcs .. => "gcs"
  | .ipfs _ => options.ipfsProvider

def primaryReplica : PersistedArtifactReplicaRecord where
  isPrimary := true
  locator := (primaryAt S options input).2
  provider := inferPrimaryReplicaProvider options (primaryAt S options input).2
  replicaKey := "primary"

/-- The digest that is recorded. -/
def recordedSha256 : String := "0x" ++ S.sha256Hex (primaryBytes options input)

/-- The copy of a target. -/
def targetReplica (target : ArtifactIpfsReplicaTarget) : PersistedArtifactReplicaRecord where
  isPrimary := false
  locator := .ipfs (S.cid target.node input.content)
  provider := target.provider
  replicaKey := target.replicaKey

/-- `replicateArtifactToIpfsTargets`, of the targets one after the other. -/
def storeCopies (storage : Storage) : Storage :=
  (options.ipfsReplicaTargets.filter S.takes).foldl (fun storage target =>
    storage.put (.ipfs target.node) (.ipfs (S.cid target.node input.content)) input.content) storage

def targetAudit (target : ArtifactIpfsReplicaTarget) : PersistedArtifactAuditRecord :=
  if S.takes target then
    { locator := some (.ipfs (S.cid target.node input.content))
      observedSha256 := some (recordedSha256 S options input)
      provider := target.provider, replicaKey := target.replicaKey, status := .replicated }
  else
    { locator := none, observedSha256 := none, provider := target.provider
      replicaKey := target.replicaKey, status := .replicationFailed }

/-- **`persistArtifact`**: what is stored after it, and what it returns. -/
def persistArtifact (storage : Storage) : Option (Storage × PersistedArtifact) :=
  if configured options ∧ S.accepts then
    some (storeCopies S options input (storePrimary S options input storage),
      { artifactKey := artifactKey input.kind (S.sha256Hex (primaryBytes options input))
        byteLength := (primaryBytes options input).length
        contentType := input.contentType
        kind := input.kind
        sha256 := recordedSha256 S options input
        storagePath := (primaryAt S options input).2
        audits :=
          { locator := some (primaryAt S options input).2
            observedSha256 := some (recordedSha256 S options input)
            provider := (primaryReplica S options input).provider
            replicaKey := "primary", status := .replicated } ::
            options.ipfsReplicaTargets.map (targetAudit S options input)
        replicas := primaryReplica S options input ::
          (options.ipfsReplicaTargets.filter S.takes).map (targetReplica S input) })
  else none

/-! ### Reading -/

/-- The node that is asked for a replica on IPFS. -/
def ipfsClientFor (replicaKey : String) : StorageClient :=
  if replicaKey = "primary" then .ipfs options.ipfsNode
  else match options.ipfsReplicaTargets.find? (·.replicaKey = replicaKey) with
    | some target => .ipfs target.node
    | none => .ipfs options.ipfsNode

/-- `openPersistedArtifactReplicaReadStream`: who is asked for a replica. -/
def replicaClient (replica : PersistedArtifactReplicaRecord) : StorageClient :=
  match replica.locator with
  | .ipfs _ => ipfsClientFor options replica.replicaKey
  | _ => .locator

def readReplica (storage : Storage) (replica : PersistedArtifactReplicaRecord) : Option Bytes :=
  storage (replicaClient options replica) replica.locator

/-- `auditPersistedArtifactReplicas`, of one replica. -/
def auditReplica (storage : Storage) (sha256 : String) (replica : PersistedArtifactReplicaRecord) :
    PersistedArtifactAuditRecord :=
  match readReplica options storage replica with
  | some bytes =>
    { locator := some replica.locator, observedSha256 := some ("0x" ++ S.sha256Hex bytes)
      provider := replica.provider, replicaKey := replica.replicaKey
      status := if Js.toLowerCase ("0x" ++ S.sha256Hex bytes) = Js.toLowerCase sha256 then .verified
        else .hashMismatch }
  | none =>
    { locator := some replica.locator, observedSha256 := none, provider := replica.provider
      replicaKey := replica.replicaKey, status := .unreachable }

end

/-! ### What is stored -/

section

variable {S : Services} {options : ArtifactPersistenceOptions} {input : PersistedArtifactInput}
  {storage : Storage}

/-- Copies go to nodes only. -/
theorem storeCopies_locator (locator : Locator) :
    storeCopies S options input storage .locator locator = storage .locator locator := by
  rw [storeCopies]
  generalize options.ipfsReplicaTargets.filter S.takes = targets
  induction targets generalizing storage with
  | nil => rfl
  | cons target targets ih =>
    rw [List.foldl_cons, ih, Storage.put, if_neg]
    exact fun h => by cases h.1

/-- Where the content is, it stays. -/
theorem storeCopies_kept {client : StorageClient} {locator : Locator}
    (h : storage client locator = some input.content) :
    storeCopies S options input storage client locator = some input.content := by
  rw [storeCopies]
  generalize options.ipfsReplicaTargets.filter S.takes = targets
  induction targets generalizing storage with
  | nil => exact h
  | cons target targets ih => exact ih (Storage.put_kept h)

/-- **Every target that takes its copy has the content.** -/
theorem storeCopies_target {target : ArtifactIpfsReplicaTarget}
    (hmem : target ∈ options.ipfsReplicaTargets.filter S.takes) :
    storeCopies S options input storage (.ipfs target.node) (.ipfs (S.cid target.node input.content)) =
      some input.content := by
  rw [storeCopies]
  generalize options.ipfsReplicaTargets.filter S.takes = targets at hmem
  have hkept : ∀ (targets : List ArtifactIpfsReplicaTarget) (storage : Storage),
      storage (.ipfs target.node) (.ipfs (S.cid target.node input.content)) = some input.content →
      targets.foldl (fun storage target =>
        storage.put (.ipfs target.node) (.ipfs (S.cid target.node input.content)) input.content) storage
          (.ipfs target.node) (.ipfs (S.cid target.node input.content)) = some input.content := by
    intro targets
    induction targets with
    | nil => exact fun _ h => h
    | cons target' targets ih => exact fun storage h => ih _ (Storage.put_kept h)
  induction targets generalizing storage with
  | nil => cases hmem
  | cons target' targets ih =>
    obtain rfl | hmem := List.mem_cons.mp hmem
    · exact hkept targets _ (Storage.put_self _ _ _ _)
    · exact ih hmem

/-- The copy of a target is read from that target. -/
theorem readReplica_target {target : ArtifactIpfsReplicaTarget}
    (hmem : target ∈ options.ipfsReplicaTargets.filter S.takes) :
    readReplica options (storeCopies S options input storage) (targetReplica S input target) =
      some input.content := by
  have htarget : target ∈ options.ipfsReplicaTargets := List.mem_of_mem_filter hmem
  have hprimary : target.replicaKey ≠ "primary" := fun heq =>
    options.primary_reserved (heq ▸ List.mem_map_of_mem htarget)
  have hfind := Js.find?_of_nodup options.keys_nodup htarget
  have hclient : replicaClient options (targetReplica S input target) = .ipfs target.node := by
    change ipfsClientFor options target.replicaKey = _
    rw [ipfsClientFor, if_neg hprimary, hfind]
  rw [readReplica, hclient]
  exact storeCopies_target hmem

/-- What there was where the file system stores the artifact. -/
def fileBefore (S : Services) (options : ArtifactPersistenceOptions)
    (input : PersistedArtifactInput) (storage : Storage) : Option Bytes :=
  if options.backend = .filesystem then
    storage .locator (.file (input.filePath S.sha256Hex options.filesystemRoot))
  else none

/-- **What is read of the primary replica**: a file there was, or what the backend was handed. -/
theorem readReplica_primary :
    readReplica options (storeCopies S options input (storePrimary S options input storage))
      (primaryReplica S options input) =
    some ((fileBefore S options input storage).getD (primaryBytes options input)) := by
  have hclient : replicaClient options (primaryReplica S options input) =
      (primaryAt S options input).1 := by
    cases hbackend : options.backend with
    | filesystem | http | s3 | gcs | ipfs | filecoin =>
      simp only [replicaClient, ipfsClientFor, primaryReplica, primaryAt, hbackend, if_true]
  have hlocator : (primaryReplica S options input).locator = (primaryAt S options input).2 := rfl
  rw [readReplica, hclient, hlocator]
  by_cases hfilesystem : options.backend = .filesystem
  · have hat : primaryAt S options input =
        (.locator, .file (input.filePath S.sha256Hex options.filesystemRoot)) := by
      simp only [primaryAt, hfilesystem]
    rw [hat, storeCopies_locator, storePrimary, hat, fileBefore, if_pos hfilesystem]
    cases hfile : storage .locator (.file (input.filePath S.sha256Hex options.filesystemRoot)) with
    | none => simp [Storage.put_self]
    | some file => simp [hfilesystem, hfile]
  · have hstored : storePrimary S options input storage = storage.put (primaryAt S options input).1
        (primaryAt S options input).2 (primaryBytes options input) :=
      if_neg fun h => hfilesystem h.1
    rw [fileBefore, if_neg hfilesystem, Option.getD_none, hstored]
    cases hbackend : options.backend with
    | filesystem => exact absurd hbackend hfilesystem
    | ipfs =>
      have hbytes : primaryBytes options input = input.content := by
        simp only [primaryBytes, hbackend]
      rw [hbytes]
      exact storeCopies_kept (Storage.put_self _ _ _ _)
    | http | s3 | gcs | filecoin =>
      have hat : (primaryAt S options input).1 = .locator := by simp only [primaryAt, hbackend]
      rw [hat, storeCopies_locator, Storage.put_self]

end

/-! ### What is recorded -/

/-- A replica holds what the record says. -/
def Holds (S : Services) (options : ArtifactPersistenceOptions) (storage : Storage)
    (record : PersistedArtifact) (replica : PersistedArtifactReplicaRecord) : Prop :=
  ∃ bytes, readReplica options storage replica = some bytes ∧
    "0x" ++ S.sha256Hex bytes = record.sha256 ∧ bytes.length = record.byteLength

/-- An audit that says what was stored says the truth. -/
def AuditTrue (S : Services) (options : ArtifactPersistenceOptions) (storage : Storage)
    (record : PersistedArtifact) (audit : PersistedArtifactAuditRecord) : Prop :=
  ∃ replica ∈ record.replicas, replica.replicaKey = audit.replicaKey ∧
    audit.locator = some replica.locator ∧
    ∃ bytes, readReplica options storage replica = some bytes ∧
      audit.observedSha256 = some ("0x" ++ S.sha256Hex bytes)

/-- **A record that is true of all its replicas**, now and in a later audit. -/
structure RecordHolds (S : Services) (options : ArtifactPersistenceOptions) (storage : Storage)
    (record : PersistedArtifact) : Prop where
  replicas : ∀ replica ∈ record.replicas, Holds S options storage record replica
  audits : ∀ audit ∈ record.audits, audit.status = .replicated →
    AuditTrue S options storage record audit
  later : ∀ replica ∈ record.replicas,
    (auditReplica S options storage record.sha256 replica).status = .verified

/-- **When it is**: a file that was there has the digest and the length of the content, and a
content that is padded for Filecoin goes to no target. -/
structure SameEverywhere (S : Services) (options : ArtifactPersistenceOptions)
    (input : PersistedArtifactInput) (storage : Storage) : Prop where
  file : ∀ file ∈ fileBefore S options input storage,
    S.sha256Hex file = S.sha256Hex input.content ∧ file.length = input.content.length
  padding : options.backend = .filecoin → filecoinMinUploadBytes ≤ input.content.length ∨
    ∀ target ∈ options.ipfsReplicaTargets, S.takes target = false

theorem Holds.later {S : Services} {options : ArtifactPersistenceOptions} {storage : Storage}
    {record : PersistedArtifact} {replica : PersistedArtifactReplicaRecord}
    (h : Holds S options storage record replica) :
    (auditReplica S options storage record.sha256 replica).status = .verified := by
  obtain ⟨bytes, hread, hsha, -⟩ := h
  simp only [auditReplica, hread, hsha, if_true]

theorem primaryBytes_of_ne {options : ArtifactPersistenceOptions} {input : PersistedArtifactInput}
    (h : options.backend ≠ .filecoin) : primaryBytes options input = input.content := by
  cases hbackend : options.backend with
  | filecoin => exact absurd hbackend h
  | filesystem | http | s3 | gcs | ipfs => simp only [primaryBytes, hbackend]

/-- Without padding, the backend is handed the content. -/
theorem primaryBytes_of_le {options : ArtifactPersistenceOptions} {input : PersistedArtifactInput}
    (h : filecoinMinUploadBytes ≤ input.content.length) :
    primaryBytes options input = input.content := by
  by_cases hbackend : options.backend = .filecoin
  · simp only [primaryBytes, hbackend, padToFilecoinMinimum, if_pos h]
  · exact primaryBytes_of_ne hbackend

/-- **When the replicas hold the recorded content.** -/
theorem replicas_hold_iff (S : Services) (options : ArtifactPersistenceOptions)
    (input : PersistedArtifactInput) (storage : Storage) {storage' : Storage}
    {record : PersistedArtifact}
    (h : persistArtifact S options input storage = some (storage', record)) :
    RecordHolds S options storage' record ↔ SameEverywhere S options input storage := by
  obtain ⟨-, heq⟩ := Option.ite_none_right_eq_some.mp h
  obtain ⟨rfl, rfl⟩ := Prod.mk.inj (Option.some.inj heq)
  have hprimary : readReplica options (storeCopies S options input
      (storePrimary S options input storage)) (primaryReplica S options input) =
        some ((fileBefore S options input storage).getD (primaryBytes options input)) :=
    readReplica_primary
  constructor
  · intro hholds
    refine ⟨fun file hfile => ?_, fun hbackend => ?_⟩
    · obtain ⟨bytes, hread, hsha, hlength⟩ := hholds.replicas _ List.mem_cons_self
      rw [hprimary, Option.mem_def.mp hfile, Option.getD_some] at hread
      obtain rfl := Option.some.inj hread
      have hne : options.backend ≠ .filecoin := by
        intro hfilecoin
        rw [fileBefore, if_neg (by rw [hfilecoin]; exact fun heq => by cases heq)] at hfile
        cases hfile
      rw [recordedSha256, primaryBytes_of_ne hne] at hsha
      rw [primaryBytes_of_ne hne] at hlength
      exact ⟨(String.append_right_inj _).mp hsha, hlength⟩
    · by_contra hpadded
      rw [not_or, not_le, not_forall] at hpadded
      obtain ⟨hshort, target, htarget⟩ := hpadded
      rw [Classical.not_imp, Bool.not_eq_false] at htarget
      have hmem : target ∈ options.ipfsReplicaTargets.filter S.takes :=
        List.mem_filter.mpr htarget
      -- The copy is shorter than what is recorded.
      obtain ⟨bytes, hread, -, hlength⟩ := hholds.replicas (targetReplica S input target)
        (List.mem_cons_of_mem _ (List.mem_map_of_mem hmem))
      rw [readReplica_target hmem] at hread
      obtain rfl := Option.some.inj hread
      simp only [primaryBytes, hbackend, padToFilecoinMinimum, if_neg (Nat.not_le_of_lt hshort),
        List.length_append, List.length_replicate] at hlength
      omega
  · intro hsame
    have hheld : ∀ replica ∈ primaryReplica S options input ::
        (options.ipfsReplicaTargets.filter S.takes).map (targetReplica S input),
        ∃ bytes, readReplica options (storeCopies S options input
            (storePrimary S options input storage)) replica = some bytes ∧
          "0x" ++ S.sha256Hex bytes = recordedSha256 S options input ∧
          bytes.length = (primaryBytes options input).length := by
      intro replica hmem
      obtain rfl | hmem := List.mem_cons.mp hmem
      · refine ⟨_, hprimary, ?_⟩
        cases hfile : fileBefore S options input storage with
        | none => exact ⟨rfl, rfl⟩
        | some file =>
          have hne : options.backend ≠ .filecoin := by
            intro hfilecoin
            rw [fileBefore, if_neg (by rw [hfilecoin]; exact fun heq => by cases heq)] at hfile
            cases hfile
          obtain ⟨hsha, hlength⟩ := hsame.file file hfile
          rw [Option.getD_some, recordedSha256, primaryBytes_of_ne hne, hsha]
          exact ⟨rfl, hlength⟩
      · obtain ⟨target, htarget, rfl⟩ := List.mem_map.mp hmem
        have hbytes : primaryBytes options input = input.content := by
          by_cases hbackend : options.backend = .filecoin
          · obtain hlong | hnone := hsame.padding hbackend
            · exact primaryBytes_of_le hlong
            · obtain ⟨hin, htakes⟩ := List.mem_filter.mp htarget
              rw [hnone target hin] at htakes
              cases htakes
          · exact primaryBytes_of_ne hbackend
        refine ⟨_, readReplica_target htarget, ?_⟩
        rw [recordedSha256, hbytes]
        exact ⟨rfl, rfl⟩
    refine ⟨hheld, fun audit hmem hstatus => ?_, fun replica hmem => Holds.later (hheld _ hmem)⟩
    obtain rfl | hmem := List.mem_cons.mp hmem
    · obtain ⟨bytes, hread, hsha, -⟩ := hheld _ List.mem_cons_self
      exact ⟨_, List.mem_cons_self, rfl, rfl, bytes, hread, congrArg some hsha.symm⟩
    · obtain ⟨target, htarget, rfl⟩ := List.mem_map.mp hmem
      by_cases htakes : S.takes target = true
      · have hreplica : targetReplica S input target ∈ primaryReplica S options input ::
            (options.ipfsReplicaTargets.filter S.takes).map (targetReplica S input) :=
          List.mem_cons_of_mem _
            (List.mem_map_of_mem (List.mem_filter.mpr ⟨htarget, htakes⟩))
        obtain ⟨bytes, hread, hsha, -⟩ := hheld _ hreplica
        rw [targetAudit, if_pos htakes]
        exact ⟨_, hreplica, rfl, rfl, bytes, hread, congrArg some hsha.symm⟩
      · rw [targetAudit, if_neg htakes] at hstatus
        cases hstatus

/-! ### Two persisted artifacts -/

/-- Services that take everything, with stand-ins for what they compute. -/
def readyServices : Services where
  sha256Hex := sizeDigest
  cid node bytes := node ++ sizeDigest bytes
  retrievalUrl := fun bytes => "https://pieces/" ++ sizeDigest bytes
  accepts := true
  takes := fun _ => true

theorem primary_not_mem : "primary" ∉ ["ipfs-1"] := by decide

/-- A backend, and one target at a node of its own. -/
def withOneTarget (backend : ArtifactPersistenceBackend) : ArtifactPersistenceOptions where
  backend := backend
  filesystemRoot := "store"
  httpBaseUrl := "https://objects"
  s3Bucket := "bucket"
  s3Prefix := ""
  gcsBucket := "bucket"
  gcsPrefix := ""
  ipfsNode := "main"
  ipfsProvider := "ipfs:kubo"
  ipfsReplicaTargets := [⟨"ipfs-1", "ipfs:kubo", "other"⟩]
  keys_nodup := List.nodup_singleton _
  primary_reserved := primary_not_mem

/-- What is stored and recorded of the note of three bytes, with nothing stored before. -/
def persistNote (backend : ArtifactPersistenceBackend) : Option (Storage × PersistedArtifact) :=
  persistArtifact readyServices (withOneTarget backend) note fun _ _ => none

theorem persistNote_possible (backend : ArtifactPersistenceBackend) :
    (persistNote backend).isSome := by
  cases backend <;> decide

theorem persistNote_eq (backend : ArtifactPersistenceBackend) :
    persistArtifact readyServices (withOneTarget backend) note (fun _ _ => none) =
      some (((persistNote backend).get (persistNote_possible backend)).1,
        ((persistNote backend).get (persistNote_possible backend)).2) :=
  (Option.some_get (persistNote_possible backend)).symm

/-- **A short content that goes to Filecoin**: the record is of 127 bytes, and so says the audit of
the copy, which has three. -/
theorem padded_for_filecoin :
    let storage := ((persistNote .filecoin).get (persistNote_possible .filecoin)).1
    let record := ((persistNote .filecoin).get (persistNote_possible .filecoin)).2
    record.byteLength = 127 ∧ record.sha256 = "0x127" ∧
    record.replicas.map (readReplica (withOneTarget .filecoin) storage) =
      [some ([1, 2, 3] ++ List.replicate 124 0x0A), some [1, 2, 3]] ∧
    record.audits.map (fun audit => (audit.status, audit.observedSha256)) =
      [(.replicated, some "0x127"), (.replicated, some "0x127")] ∧
    (record.replicas.map fun replica =>
        (auditReplica readyServices (withOneTarget .filecoin) storage record.sha256
          replica).status) = [.verified, .hashMismatch] := by
  decide +kernel

/-- With another backend all is well. -/
theorem replicas_hold_s3 :
    RecordHolds readyServices (withOneTarget .s3)
      ((persistNote .s3).get (persistNote_possible .s3)).1
      ((persistNote .s3).get (persistNote_possible .s3)).2 := by
  refine (replicas_hold_iff readyServices (withOneTarget .s3) note (fun _ _ => none)
    (persistNote_eq .s3)).mpr ⟨fun file hfile => ?_, fun hbackend => ?_⟩
  · rw [fileBefore, if_neg (by decide)] at hfile
    cases hfile
  · cases hbackend

end ScientificProtocol.Artifacts
