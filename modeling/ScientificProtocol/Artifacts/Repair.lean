import ScientificProtocol.Artifacts.Locators
import ScientificProtocol.Coordinator.Store

/-!
# Repairing a replica

A replica that an audit finds damaged is repaired by an agent, which tells the repair-results route
of `src/api/routes/agents.ts` where a new copy is, or by a worker, which makes one with
`runArtifactRepairTask` of `src/artifacts/maintenance.ts`. Both write the row of the replica first
and verify what it says afterwards. The route keeps the task if the verification fails, but not the
row that was there; and the row and the key are of the agent's choosing. The worker does not look
at the verification at all.

What should hold of both is `ScientificProtocol.Artifacts.RepairRule`; when it does is
`ScientificProtocol.Artifacts.verified_repair_iff`.
-/

namespace ScientificProtocol.Artifacts

open Coordinator

/-! ### Tables -/

/-- A row of `persisted_artifact_replicas`, behind its key. -/
structure ReplicaRow where
  provider : String
  locator : String
  isPrimary : Bool
  /-- As a JSON text. -/
  providerMetadata : String
  createdAt : Time
  updatedAt : Time
  lastCheckedAt : Option Time
  lastCheckStatus : Option ArtifactAuditStatus
  lastCheckError : Option String
  deriving DecidableEq

/-- A replica as it is handed to the store, with its locator the text that it is. -/
structure ReplicaRecord where
  isPrimary : Bool
  locator : String
  provider : String
  providerMetadata : Option String
  replicaKey : String
  deriving DecidableEq

inductive ArtifactAuditKind where
  | agentReport
  | persist
  | verify
  deriving DecidableEq, Repr

/-- An audit as it is handed to the store. -/
structure AuditRecord where
  checkKind : ArtifactAuditKind
  checkedAt : Time
  detail : Option String
  locator : String
  observedSha256 : Option String
  provider : String
  replicaKey : String
  status : ArtifactAuditStatus
  deriving DecidableEq

/-- What is read of a row of `persisted_artifacts`. -/
structure ArtifactRow where
  sha256 : String
  storagePath : String
  deriving DecidableEq

/-- An artifact as `persistJsonArtifact` returns it. Its primary replica is among the replicas. -/
structure StoredResult where
  artifactKey : String
  row : ArtifactRow
  replicas : List ReplicaRecord
  audits : List AuditRecord
  deriving DecidableEq

structure ArtifactDb where
  artifacts : Sql.Table String ArtifactRow
  /-- The replicas, under the keys of the artifact and of the replica. -/
  replicas : Sql.Table (String × String) ReplicaRow
  audits : List (String × AuditRecord)
  tasks : ArtifactMaintenanceQueue

/-- The row that `upsertPersistedArtifactReplica` leaves, over the one that was there. -/
def ReplicaRecord.rowOver (replica : ReplicaRecord) (now : Time) (old : Option ReplicaRow) :
    ReplicaRow :=
  (old.map fun row => { row with
    provider := replica.provider, locator := replica.locator, isPrimary := replica.isPrimary
    providerMetadata := replica.providerMetadata.getD "\x7b\x7d", updatedAt := now }).getD
    { provider := replica.provider, locator := replica.locator, isPrimary := replica.isPrimary
      providerMetadata := replica.providerMetadata.getD "\x7b\x7d", createdAt := now
      updatedAt := now, lastCheckedAt := none, lastCheckStatus := none, lastCheckError := none }

/-- The health of a replica after an audit. -/
def ReplicaRow.checked (now : Time) (row : ReplicaRow) (audit : AuditRecord) : ReplicaRow :=
  if audit.replicaKey ≠ "" ∧ audit.checkKind ≠ .agentReport then
    { row with
      lastCheckedAt := some audit.checkedAt, lastCheckStatus := some audit.status
      lastCheckError := audit.detail, updatedAt := now }
  else row

namespace ArtifactDb

variable (now : Time) (db : ArtifactDb) (artifactKey : String)

def upsertPersistedArtifactReplica (replica : ReplicaRecord) : ArtifactDb :=
  { db with
    replicas := db.replicas.set (artifactKey, replica.replicaKey)
      (replica.rowOver now (db.replicas (artifactKey, replica.replicaKey))) }

def recordPersistedArtifactAudit (audit : AuditRecord) : ArtifactDb :=
  { db with
    audits := db.audits ++ [(artifactKey, audit)]
    replicas := db.replicas.update (artifactKey, audit.replicaKey) fun row =>
      row.checked now audit }

def upsertPersistedArtifact (artifact : StoredResult) : ArtifactDb :=
  let stored := { db with artifacts := db.artifacts.set artifact.artifactKey artifact.row }
  artifact.audits.foldl (fun db => db.recordPersistedArtifactAudit now artifact.artifactKey)
    (artifact.replicas.foldl
      (fun db => db.upsertPersistedArtifactReplica now artifact.artifactKey) stored)

/-- A replica is written, and then what audits find of it. -/
def writeReplica (replica : ReplicaRecord) (audits : List AuditRecord) : ArtifactDb :=
  audits.foldl (fun db => db.recordPersistedArtifactAudit now artifactKey)
    (db.upsertPersistedArtifactReplica now artifactKey replica)

end ArtifactDb

/-! ### What the services answer -/

/-- The result of a repair, which names the artifact. -/
structure RepairResult where
  artifactKey : String
  repairedReplica : ReplicaRecord
  repairSourceReplicaKey : Option String
  verificationAudits : List AuditRecord
  deriving DecidableEq

/-- What the services outside compute and answer, to a call or to a reader. -/
structure RepairServices where
  runtime : Runtime
  options : ArtifactPersistenceOptions
  sha256Hex : Bytes → String
  /-- The bytes that an access brings, or its error: while a source is looked for. -/
  sourceBytes : Access → Except String Bytes
  /-- The same while a replica is verified. -/
  verifiedBytes : Access → Except String Bytes
  /-- A target stores an object: its content identifier and what the target says of it. -/
  addObject : ArtifactIpfsReplicaTarget → Bytes → Except String (String × Option String)
  persistJsonArtifact : RepairResult → Except String StoredResult
  /-- The key of a result has the digest of a text with the key of the artifact in it, and no text
  has its own digest in it. -/
  elsewhere : ∀ {result stored}, persistJsonArtifact result = .ok stored →
    stored.artifactKey ≠ result.artifactKey

namespace RepairServices

variable (S : RepairServices) (now : Time)

/-- The text of a digest is the one that the artifact was stored with. -/
def isDigestOf (bytes : Bytes) (sha256 : String) : Bool :=
  Js.toLowerCase ("0x" ++ S.sha256Hex bytes) = Js.toLowerCase sha256

/-- The bytes of an access, as a reader gets them. -/
def bytesOf (fetched : Access → Except String Bytes) : Access → Except String Bytes
  | .inline bytes => .ok bytes
  | .refused error => .error error
  | access => fetched access

/-- What verifying a replica reads. -/
def readBack (replica : ReplicaRecord) : Except String Bytes :=
  bytesOf S.verifiedBytes
    (openPersistedArtifactReplicaReadStream S.runtime S.options replica.locator replica.replicaKey)

/-- `auditPersistedArtifactReplicas`, of one replica. -/
def verificationAudit (sha256 : String) (replica : ReplicaRecord) : AuditRecord :=
  match S.readBack replica with
  | .ok bytes =>
    { checkKind := .verify, checkedAt := now
      detail := if S.isDigestOf bytes sha256 then none
        else some ("expected " ++ sha256 ++ ", found 0x" ++ S.sha256Hex bytes)
      locator := replica.locator, observedSha256 := some ("0x" ++ S.sha256Hex bytes)
      provider := replica.provider, replicaKey := replica.replicaKey
      status := if S.isDigestOf bytes sha256 then .verified else .hashMismatch }
  | .error error =>
    { checkKind := .verify, checkedAt := now, detail := some error, locator := replica.locator
      observedSha256 := none, provider := replica.provider, replicaKey := replica.replicaKey
      status := .unreachable }

@[simp] theorem verificationAudit_replicaKey (sha256 : String) (replica : ReplicaRecord) :
    (S.verificationAudit now sha256 replica).replicaKey = replica.replicaKey := by
  rw [verificationAudit]
  split
  · rfl
  · rfl

/-- **A replica is verified if what is read back has the digest.** -/
theorem verificationAudit_status {sha256 : String} {replica : ReplicaRecord} :
    (S.verificationAudit now sha256 replica).status = .verified ↔
      ∃ bytes, S.readBack replica = .ok bytes ∧ S.isDigestOf bytes sha256 = true := by
  rw [verificationAudit]
  split
  next bytes hbytes => simp [hbytes]
  next error herror => simp [herror]

end RepairServices

/-! ### The route -/

/-- `payload.repairedReplica`, with the texts that `String` makes of what is there. -/
structure SubmittedReplica where
  locator : Option String
  provider : Option String
  replicaKey : Option String
  deriving DecidableEq

/-- A signed request to the repair-results route. -/
structure RepairSubmission where
  taskId : ℕ
  agentId : String
  repairedReplica : Option SubmittedReplica
  repairSourceReplicaKey : Option String
  deriving DecidableEq

inductive RepairAnswer where
  | completed
  | refused (status : ℕ) (error : String)
  | thrown (error : String)
  deriving DecidableEq

/-- The replica of a submission: what is not given is the task's. -/
def SubmittedReplica.toRecord (raw : SubmittedReplica) (spec : ArtifactMaintenanceSpec)
    (agentId : String) : ReplicaRecord where
  isPrimary := false
  locator := raw.locator.getD ""
  provider := (raw.provider.or spec.targetProvider).getD "unknown"
  providerMetadata := none
  replicaKey := (raw.replicaKey.or spec.targetReplicaKey).getD ("agent-" ++ agentId ++ "-repair")

/-- A text that the database takes. -/
def isStorable (text : String) : Bool := '\x00' ∉ text.toList

/-- What the route checks before it writes, and the database with it: the artifact, and the replica
that is submitted. -/
def admitRepair (db : ArtifactDb) (request : RepairSubmission) :
    Except RepairAnswer (ArtifactMaintenanceSpec × ArtifactRow × ReplicaRecord) :=
  match db.tasks.items request.taskId with
  | none => .error (.refused 404 "artifact_maintenance_task_not_found")
  | some task =>
    if task.spec.taskType ≠ .repair then
      .error (.refused 409 "artifact_maintenance_task_type_mismatch")
    else if task.assignedAgentId ≠ some request.agentId then
      .error (.refused 409 "artifact_maintenance_task_not_assigned_to_agent")
    else
      match db.artifacts task.spec.artifactKey with
      | none => .error (.refused 404 "persisted_artifact_not_found")
      | some artifact =>
        match request.repairedReplica with
        | none => .error (.thrown "invalid_agent_repair_replica")
        | some raw =>
          let replica := raw.toRecord task.spec request.agentId
          if isStorable replica.locator && isStorable replica.provider &&
              isStorable replica.replicaKey then
            .ok (task.spec, artifact, replica)
          else .error (.thrown "invalid byte sequence for encoding UTF8: 0x00")

/-- The last run of a task, as `readArtifactMaintenanceTaskRuns` lists them. -/
def currentRun (tasks : ArtifactMaintenanceQueue) (taskId : ℕ) : Option ℕ :=
  (tasks.runs.select fun _ run => decide (run.itemId = taskId)).getLast?.map Prod.fst

section

variable (S : RepairServices) (now : Time) (db : ArtifactDb)

/-- **The repair-results route.** -/
def submitRepair (request : RepairSubmission) : RepairAnswer × ArtifactDb :=
  match admitRepair db request with
  | .error answer => (answer, db)
  | .ok (spec, artifact, replica) =>
    let audit := S.verificationAudit now artifact.sha256 replica
    let audited := db.writeReplica now spec.artifactKey replica [audit]
    if audit.status ≠ .verified then
      (.refused 422 "artifact_repair_verification_failed", audited)
    else
      match S.persistJsonArtifact
        { artifactKey := spec.artifactKey, repairedReplica := replica
          repairSourceReplicaKey := request.repairSourceReplicaKey
          verificationAudits := [audit] } with
      | .error error => (.thrown error, audited)
      | .ok result =>
        let stored := audited.upsertPersistedArtifact now result
        match currentRun stored.tasks request.taskId with
        | none => (.thrown "artifact_maintenance_run_not_found", stored)
        | some runId =>
          (.completed, { stored with
            tasks := completeArtifactMaintenanceTask now stored.tasks ⟨request.taskId, runId⟩
              result.artifactKey request.repairSourceReplicaKey (some replica.locator) })

/-! ### The worker -/

/-- `resolveRepairSourceForArtifact`, of the keys and locators of the replicas that are listed: the
bytes of the first healthy one, and its key. -/
def resolveRepairSource (artifact : ArtifactRow) (replicas : List (String × String))
    (targetReplicaKey : String) : Option (Bytes × String) :=
  let candidates := if replicas.any (·.1 = "primary") then replicas
    else ("primary", artifact.storagePath) :: replicas
  (candidates.filter (·.1 ≠ targetReplicaKey)).findSome? fun replica =>
    let access := if replica.1 = "primary" then
        readPersistedArtifactBytes S.runtime S.options artifact.storagePath
      else readPersistedArtifactReplicaBytes S.runtime S.options replica.2 replica.1
    match RepairServices.bytesOf S.sourceBytes access with
    | .ok bytes => if S.isDigestOf bytes artifact.sha256 then some (bytes, replica.1) else none
    | .error _ => none

/-- `persistArtifactReplicaToTarget`: the replica that a target has stored. -/
def persistArtifactReplicaToTarget (bytes : Bytes) (target : ArtifactIpfsReplicaTarget) :
    Except String ReplicaRecord :=
  (S.addObject target bytes).map fun added =>
    { isPrimary := false, locator := "ipfs://" ++ added.1, provider := target.provider
      providerMetadata := added.2, replicaKey := target.replicaKey }

/-- The audit that comes with it. -/
def persistAudit (sha256 : String) (replica : ReplicaRecord) : AuditRecord where
  checkKind := .persist
  checkedAt := now
  detail := none
  locator := replica.locator
  observedSha256 := some sha256
  provider := replica.provider
  replicaKey := replica.replicaKey
  status := .replicated

/-- What the worker does before it writes: the artifact, the key of its source, and the replica that
it has made. -/
def makeRepair (spec : ArtifactMaintenanceSpec) (taskId : ℕ) (listed : List (String × String)) :
    Except String (ArtifactRow × String × ReplicaRecord) :=
  let targetReplicaKey := spec.targetReplicaKey.getD ""
  if targetReplicaKey = "" then
    .error ("artifact repair task " ++ toString taskId ++ " is missing targetReplicaKey")
  else
    match db.artifacts spec.artifactKey with
    | none => .error ("persisted artifact " ++ spec.artifactKey ++ " not found")
    | some artifact =>
      match S.options.ipfsReplicaTargets.find? (·.replicaKey = targetReplicaKey) with
      | none => .error ("no configured replica target for " ++ targetReplicaKey)
      | some target =>
        match resolveRepairSource S artifact listed targetReplicaKey with
        | none =>
          .error ("no healthy source replica available for artifact " ++ spec.artifactKey ++
            " and target " ++ targetReplicaKey)
        | some source => (persistArtifactReplicaToTarget S source.1 target).map fun replica =>
            (artifact, source.2, replica)

/-- **`runArtifactRepairTask`.** -/
def runArtifactRepairTask (spec : ArtifactMaintenanceSpec) (lease : Lease)
    (listed : List (String × String)) : RepairAnswer × ArtifactDb :=
  match makeRepair S db spec lease.itemId listed with
  | .error error => (.thrown error, db)
  | .ok (artifact, sourceKey, replica) =>
    let audit := S.verificationAudit now artifact.sha256 replica
    let audited := db.writeReplica now spec.artifactKey replica
      [persistAudit now artifact.sha256 replica, audit]
    match S.persistJsonArtifact
      { artifactKey := spec.artifactKey, repairedReplica := replica
        repairSourceReplicaKey := some sourceKey, verificationAudits := [audit] } with
    | .error error => (.thrown error, audited)
    | .ok result =>
      let stored := audited.upsertPersistedArtifact now result
      (.completed, { stored with
        tasks := completeArtifactMaintenanceTask now stored.tasks lease result.artifactKey
          (some sourceKey) (some replica.locator) })

end

/-! ### What is written -/

/-- The row of a replica that has been written and audited. -/
def ReplicaRecord.auditedRow (replica : ReplicaRecord) (now : Time) (old : Option ReplicaRow)
    (audits : List AuditRecord) : ReplicaRow :=
  audits.foldl (fun row => row.checked now) (replica.rowOver now old)

namespace ArtifactDb

variable {now : Time} {db : ArtifactDb} {artifactKey : String}

/-- The audits of a replica change the row of it, and of nothing else. -/
theorem foldl_audits {replicaKey : String} {audits : List AuditRecord} {row : ReplicaRow}
    (haudits : ∀ audit ∈ audits, audit.replicaKey = replicaKey)
    (hrow : db.replicas (artifactKey, replicaKey) = some row) (key : String × String) :
    (audits.foldl (fun db => db.recordPersistedArtifactAudit now artifactKey) db).replicas key =
      if key = (artifactKey, replicaKey) then
        some (audits.foldl (fun row => row.checked now) row)
      else db.replicas key := by
  induction audits generalizing db row with
  | nil =>
    rw [List.foldl_nil, List.foldl_nil]
    split_ifs with hkey
    · rw [hkey, hrow]
    · rfl
  | cons audit audits ih =>
    obtain ⟨hkey, hrest⟩ := List.forall_mem_cons.mp haudits
    have hchecked : (db.recordPersistedArtifactAudit now artifactKey audit).replicas
        (artifactKey, replicaKey) = some (row.checked now audit) := by
      rw [recordPersistedArtifactAudit, hkey, Sql.Table.update_self, hrow, Option.map_some]
    rw [List.foldl_cons, List.foldl_cons, ih hrest hchecked]
    split_ifs with hother
    · rfl
    · rw [recordPersistedArtifactAudit, hkey, Sql.Table.update_of_ne _ hother]

/-- **What writing a replica leaves**: its row, with all the audits, and every other row as it
was. -/
theorem writeReplica_replicas {replica : ReplicaRecord} {audits : List AuditRecord}
    (haudits : ∀ audit ∈ audits, audit.replicaKey = replica.replicaKey) (key : String × String) :
    (db.writeReplica now artifactKey replica audits).replicas key =
      if key = (artifactKey, replica.replicaKey) then
        some (replica.auditedRow now (db.replicas key) audits)
      else db.replicas key := by
  have hrow : (db.upsertPersistedArtifactReplica now artifactKey replica).replicas
      (artifactKey, replica.replicaKey) =
        some (replica.rowOver now (db.replicas (artifactKey, replica.replicaKey))) :=
    Sql.Table.set_self _ _ _
  rw [writeReplica, foldl_audits haudits hrow]
  split_ifs with hkey
  · rw [hkey, ReplicaRecord.auditedRow]
  · exact Sql.Table.set_of_ne _ hkey _

theorem foldl_audits_tasks (audits : List AuditRecord) :
    (audits.foldl (fun db => db.recordPersistedArtifactAudit now artifactKey) db).tasks =
      db.tasks := by
  induction audits generalizing db with
  | nil => rfl
  | cons audit audits ih => exact ih

theorem writeReplica_tasks (replica : ReplicaRecord) (audits : List AuditRecord) :
    (db.writeReplica now artifactKey replica audits).tasks = db.tasks := foldl_audits_tasks audits

/-- An artifact has rows of its own only. -/
theorem upsertPersistedArtifact_replicas {artifact : StoredResult}
    (hne : artifact.artifactKey ≠ artifactKey) (replicaKey : String) :
    (db.upsertPersistedArtifact now artifact).replicas (artifactKey, replicaKey) =
      db.replicas (artifactKey, replicaKey) := by
  have hkey (replicaKey' : String) :
      (artifactKey, replicaKey) ≠ (artifact.artifactKey, replicaKey') :=
    fun h => hne (Prod.ext_iff.mp h).1.symm
  have haudits : ∀ (audits : List AuditRecord) (db : ArtifactDb),
      (audits.foldl (fun db => db.recordPersistedArtifactAudit now artifact.artifactKey)
        db).replicas (artifactKey, replicaKey) = db.replicas (artifactKey, replicaKey) := by
    intro audits
    induction audits with
    | nil => exact fun _ => rfl
    | cons audit audits ih =>
      intro db
      rw [List.foldl_cons, ih]
      exact Sql.Table.update_of_ne _ (hkey _) _
  have hreplicas : ∀ (replicas : List ReplicaRecord) (db : ArtifactDb),
      (replicas.foldl (fun db => db.upsertPersistedArtifactReplica now artifact.artifactKey)
        db).replicas (artifactKey, replicaKey) = db.replicas (artifactKey, replicaKey) := by
    intro replicas
    induction replicas with
    | nil => exact fun _ => rfl
    | cons replica replicas ih =>
      intro db
      rw [List.foldl_cons, ih]
      exact Sql.Table.set_of_ne _ (hkey _) _
  simp only [upsertPersistedArtifact]
  rw [haudits, hreplicas]

theorem upsertPersistedArtifact_tasks (artifact : StoredResult) :
    (db.upsertPersistedArtifact now artifact).tasks = db.tasks := by
  have hreplicas : ∀ (replicas : List ReplicaRecord) (db : ArtifactDb),
      (replicas.foldl (fun db => db.upsertPersistedArtifactReplica now artifact.artifactKey)
        db).tasks = db.tasks := by
    intro replicas
    induction replicas with
    | nil => exact fun _ => rfl
    | cons replica replicas ih => exact fun db => (ih _).trans rfl
  simp only [upsertPersistedArtifact]
  rw [foldl_audits_tasks, hreplicas]

end ArtifactDb

/-! ### Verified repair only -/

section

variable (S : RepairServices) (now : Time)

/-- **What is read back of a replica has the digest of the artifact.** -/
def RepairServices.Verified (db : ArtifactDb) (artifactKey : String) (replica : ReplicaRecord) :
    Prop :=
  ∃ artifact bytes, db.artifacts artifactKey = some artifact ∧ S.readBack replica = .ok bytes ∧
    S.isDigestOf bytes artifact.sha256 = true

/-- **The rule of repairs**, of what a call makes of the tables and of the replica that it writes,
if it comes so far. -/
structure RepairRule (db db' : ArtifactDb) (taskId : ℕ) (spec : ArtifactMaintenanceSpec)
    (written : Option ReplicaRecord) : Prop where
  /-- Without a verified replica nothing changes. -/
  unverified : (∀ replica ∈ written, ¬ S.Verified db spec.artifactKey replica) →
    (∀ replicaKey, db'.replicas (spec.artifactKey, replicaKey) =
      db.replicas (spec.artifactKey, replicaKey)) ∧
      db'.tasks.items taskId = db.tasks.items taskId
  /-- The primary replica is never touched. -/
  primary : db'.replicas (spec.artifactKey, "primary") = db.replicas (spec.artifactKey, "primary")
  /-- A task is completed by a verified replica with the key it asks for, which is in the table. -/
  completed : (db.tasks.items taskId).all (·.status ≠ .completed) →
    (db'.tasks.items taskId).any (·.status = .completed) →
    ∃ replica ∈ written, S.Verified db spec.artifactKey replica ∧
      spec.targetReplicaKey = some replica.replicaKey ∧
      ∃ row, db'.replicas (spec.artifactKey, replica.replicaKey) = some row ∧
        row.locator = replica.locator ∧ row.provider = replica.provider

/-- The replica that a request to the route writes. -/
def submitted (db : ArtifactDb) (request : RepairSubmission) : Option ReplicaRecord :=
  (admitRepair db request).toOption.map fun admitted => admitted.2.2

/-- The replica that the worker writes. -/
def made (db : ArtifactDb) (spec : ArtifactMaintenanceSpec) (taskId : ℕ)
    (listed : List (String × String)) : Option ReplicaRecord :=
  (makeRepair S db spec taskId listed).toOption.map fun repair => repair.2.2

/-- The replica is in the table already, with what audits say of it. -/
def AlreadyThere (db : ArtifactDb) (artifactKey : String) (replica : ReplicaRecord)
    (audits : List AuditRecord) : Prop :=
  db.replicas (artifactKey, replica.replicaKey) =
    some (replica.auditedRow now (db.replicas (artifactKey, replica.replicaKey)) audits)

/-- **When a request to the route keeps the rule**: an unverified replica, and one with the key of
the primary replica, is in the table already; and a verified one that completes the task has the key
that the task asks for. -/
def RouteKeeps (db : ArtifactDb) (request : RepairSubmission) : Prop :=
  ∀ spec artifact replica, admitRepair db request = .ok (spec, artifact, replica) →
    let audit := S.verificationAudit now artifact.sha256 replica
    (audit.status ≠ .verified ∨ replica.replicaKey = "primary" →
      AlreadyThere now db spec.artifactKey replica [audit]) ∧
    (audit.status = .verified → (db.tasks.items request.taskId).all (·.status ≠ .completed) →
      (S.persistJsonArtifact
        { artifactKey := spec.artifactKey, repairedReplica := replica
          repairSourceReplicaKey := request.repairSourceReplicaKey
          verificationAudits := [audit] }).isOk →
      (currentRun db.tasks request.taskId).isSome → spec.targetReplicaKey = some replica.replicaKey)

/-- A task has been completed at this moment with this result. -/
structure CompletedWith (now : Time)
    (task : WorkItem ArtifactMaintenanceSpec ArtifactMaintenanceResult)
    (result : ArtifactMaintenanceResult) : Prop where
  status : task.status = .completed
  completedAt : task.completedAt = some now
  updatedAt : task.updatedAt = now
  result_eq : task.result = result

/-- **When the worker keeps the rule**: an unverified replica is in the table already, and its
result is not stored, or the task has been completed with it already. -/
def WorkerKeeps (db : ArtifactDb) (spec : ArtifactMaintenanceSpec) (lease : Lease)
    (listed : List (String × String)) : Prop :=
  ∀ artifact sourceKey replica,
    makeRepair S db spec lease.itemId listed = .ok (artifact, sourceKey, replica) →
    let audit := S.verificationAudit now artifact.sha256 replica
    audit.status ≠ .verified →
      AlreadyThere now db spec.artifactKey replica
        [persistAudit now artifact.sha256 replica, audit] ∧
      ∀ result, S.persistJsonArtifact
        { artifactKey := spec.artifactKey, repairedReplica := replica
          repairSourceReplicaKey := some sourceKey, verificationAudits := [audit] } = .ok result →
        ∀ task, db.tasks.items lease.itemId = some task → CompletedWith now task
          { resultArtifactKey := some result.artifactKey
            repairSourceReplicaKey := some sourceKey
            repairLocator := some replica.locator }

end

section

variable {S : RepairServices} {now : Time} {db db' : ArtifactDb}

theorem verified_iff {artifactKey : String} {artifact : ArtifactRow} {replica : ReplicaRecord}
    (hartifact : db.artifacts artifactKey = some artifact) :
    S.Verified db artifactKey replica ↔
      (S.verificationAudit now artifact.sha256 replica).status = .verified := by
  rw [S.verificationAudit_status now]
  constructor
  · rintro ⟨artifact', bytes, hartifact', hbytes, hdigest⟩
    obtain rfl : artifact = artifact' := Option.some.inj (hartifact.symm.trans hartifact')
    exact ⟨bytes, hbytes, hdigest⟩
  · rintro ⟨bytes, hbytes, hdigest⟩
    exact ⟨artifact, bytes, hartifact, hbytes, hdigest⟩

/-- Audits do not change where a replica is. -/
theorem auditedRow_at (replica : ReplicaRecord) (old : Option ReplicaRow)
    (audits : List AuditRecord) :
    (replica.auditedRow now old audits).locator = replica.locator ∧
      (replica.auditedRow now old audits).provider = replica.provider := by
  have hkept : ∀ (audits : List AuditRecord) (row : ReplicaRow),
      (audits.foldl (fun row => row.checked now) row).locator = row.locator ∧
        (audits.foldl (fun row => row.checked now) row).provider = row.provider := by
    intro audits
    induction audits with
    | nil => exact fun _ => ⟨rfl, rfl⟩
    | cons audit audits ih =>
      intro row
      obtain ⟨hlocator, hprovider⟩ := ih (row.checked now audit)
      have hchecked : (row.checked now audit).locator = row.locator ∧
          (row.checked now audit).provider = row.provider := by
        rw [ReplicaRow.checked]
        split_ifs
        · exact ⟨rfl, rfl⟩
        · exact ⟨rfl, rfl⟩
      exact ⟨hlocator.trans hchecked.1, hprovider.trans hchecked.2⟩
  obtain ⟨hlocator, hprovider⟩ := hkept audits (replica.rowOver now old)
  have hover : (replica.rowOver now old).locator = replica.locator ∧
      (replica.rowOver now old).provider = replica.provider := by
    cases old with
    | none => exact ⟨rfl, rfl⟩
    | some row => exact ⟨rfl, rfl⟩
  exact ⟨hlocator.trans hover.1, hprovider.trans hover.2⟩

/-- A call that writes nothing keeps the rule. -/
theorem RepairRule.of_unchanged (taskId : ℕ) (spec : ArtifactMaintenanceSpec) :
    RepairRule S db db taskId spec none where
  unverified _ := ⟨fun _ => rfl, rfl⟩
  primary := rfl
  completed hbefore hafter := by
    cases hitem : db.tasks.items taskId with
    | none =>
      rw [hitem] at hafter
      exact absurd hafter Bool.false_ne_true
    | some item =>
      rw [hitem] at hbefore hafter
      simp_all

/-- **The rule of a call that writes one replica of the artifact.** -/
theorem repairRule_iff {taskId : ℕ} {spec : ArtifactMaintenanceSpec} {replica : ReplicaRecord}
    {audits : List AuditRecord}
    (hrows : ∀ replicaKey, db'.replicas (spec.artifactKey, replicaKey) =
      if replicaKey = replica.replicaKey then
        some (replica.auditedRow now (db.replicas (spec.artifactKey, replicaKey)) audits)
      else db.replicas (spec.artifactKey, replicaKey)) :
    RepairRule S db db' taskId spec (some replica) ↔
      (¬ S.Verified db spec.artifactKey replica →
        AlreadyThere now db spec.artifactKey replica audits ∧
          db'.tasks.items taskId = db.tasks.items taskId) ∧
      (replica.replicaKey = "primary" → AlreadyThere now db spec.artifactKey replica audits) ∧
      ((db.tasks.items taskId).all (·.status ≠ .completed) →
        (db'.tasks.items taskId).any (·.status = .completed) →
        S.Verified db spec.artifactKey replica ∧
          spec.targetReplicaKey = some replica.replicaKey) := by
  have hrow := hrows replica.replicaKey
  rw [if_pos rfl] at hrow
  have hthere : AlreadyThere now db spec.artifactKey replica audits ↔
      ∀ replicaKey, db'.replicas (spec.artifactKey, replicaKey) =
        db.replicas (spec.artifactKey, replicaKey) := by
    constructor
    · intro halready replicaKey
      rw [hrows]
      split_ifs with hkey
      · rw [hkey]
        exact halready.symm
      · rfl
    · exact fun h => (h _).symm.trans hrow
  constructor
  · rintro ⟨hunverified, hprimary, hcompleted⟩
    refine ⟨fun hnot => ?_, fun hkey => ?_, fun hbefore hafter => ?_⟩
    · obtain ⟨hsame, htask⟩ := hunverified fun replica' hmem => by
        cases Option.mem_some_iff.mp hmem
        exact hnot
      exact ⟨hthere.mpr hsame, htask⟩
    · rw [← hkey, hrow] at hprimary
      exact hprimary.symm
    · obtain ⟨replica', hmem, hverified, htarget, -⟩ := hcompleted hbefore hafter
      cases Option.mem_some_iff.mp hmem
      exact ⟨hverified, htarget⟩
  · rintro ⟨hunverified, hprimary, hcompleted⟩
    refine ⟨fun hnot => ?_, ?_, fun hbefore hafter => ?_⟩
    · obtain ⟨halready, htask⟩ := hunverified (hnot replica rfl)
      exact ⟨hthere.mp halready, htask⟩
    · by_cases hkey : replica.replicaKey = "primary"
      · exact hthere.mp (hprimary hkey) "primary"
      · rw [hrows, if_neg (Ne.symm hkey)]
    · obtain ⟨hverified, htarget⟩ := hcompleted hbefore hafter
      exact ⟨replica, rfl, hverified, htarget, _, hrow, auditedRow_at replica _ audits⟩

/-! ### The two callers -/

/-- What the route has found out when it starts to write. -/
theorem admitRepair_ok {request : RepairSubmission} {spec : ArtifactMaintenanceSpec}
    {artifact : ArtifactRow} {replica : ReplicaRecord}
    (h : admitRepair db request = .ok (spec, artifact, replica)) :
    (∃ task, db.tasks.items request.taskId = some task ∧ spec = task.spec) ∧
      db.artifacts spec.artifactKey = some artifact := by
  rw [admitRepair] at h
  split at h
  next => cases h
  next task htask =>
    split_ifs at h
    split at h
    next => cases h
    next artifact' hartifact =>
      split at h
      next => cases h
      next raw hraw =>
        simp only at h
        split_ifs at h
        cases h
        exact ⟨⟨task, htask, rfl⟩, hartifact⟩

/-- What the worker has found out when it starts to write: no target has the key of the primary
replica. -/
theorem makeRepair_ok {spec : ArtifactMaintenanceSpec} {taskId : ℕ}
    {listed : List (String × String)} {artifact : ArtifactRow} {sourceKey : String}
    {replica : ReplicaRecord}
    (h : makeRepair S db spec taskId listed = .ok (artifact, sourceKey, replica)) :
    db.artifacts spec.artifactKey = some artifact ∧
      spec.targetReplicaKey = some replica.replicaKey ∧ replica.replicaKey ≠ "primary" := by
  simp only [makeRepair] at h
  split_ifs at h with hempty
  split at h
  next => cases h
  next artifact' hartifact =>
    split at h
    next => cases h
    next target htarget =>
      split at h
      next => cases h
      next source hsource =>
        rw [persistArtifactReplicaToTarget] at h
        cases hadded : S.addObject target source.1 with
        | error error =>
          rw [hadded] at h
          cases h
        | ok added =>
          rw [hadded] at h
          cases h
          have hkey : target.replicaKey = spec.targetReplicaKey.getD "" := by
            simpa using List.find?_some htarget
          refine ⟨hartifact, ?_, fun hprimary => ?_⟩
          · cases hspec : spec.targetReplicaKey with
            | none =>
              rw [hspec] at hempty
              exact absurd rfl hempty
            | some key =>
              rw [hspec] at hkey
              exact congrArg some hkey.symm
          · refine S.options.primary_reserved ?_
            rw [← show target.replicaKey = "primary" from hprimary]
            exact List.mem_map_of_mem (List.mem_of_find?_eq_some htarget)

/-- The rows of the artifact after its replica has been written. -/
theorem writeReplica_rows (artifactKey : String) {replica : ReplicaRecord}
    {audits : List AuditRecord} (haudits : ∀ audit ∈ audits, audit.replicaKey = replica.replicaKey)
    (replicaKey : String) :
    (db.writeReplica now artifactKey replica audits).replicas (artifactKey, replicaKey) =
      if replicaKey = replica.replicaKey then
        some (replica.auditedRow now (db.replicas (artifactKey, replicaKey)) audits)
      else db.replicas (artifactKey, replicaKey) := by
  rw [ArtifactDb.writeReplica_replicas haudits]
  exact if_congr (by simp) rfl rfl

/-- Completing a task writes its row. -/
theorem completeArtifactMaintenanceTask_items (tasks : ArtifactMaintenanceQueue) (lease : Lease)
    (resultArtifactKey : String) (sourceKey locator : Option String) :
    (completeArtifactMaintenanceTask now tasks lease resultArtifactKey sourceKey locator).items
        lease.itemId =
      (tasks.items lease.itemId).map fun item => item.complete now fun _ =>
        { resultArtifactKey := some resultArtifactKey, repairSourceReplicaKey := sourceKey
          repairLocator := locator } :=
  Sql.Serial.update_self _ _ _

/-- Completing a task changes nothing exactly if it has been completed so already. -/
theorem complete_eq_self_iff {tasks : ArtifactMaintenanceQueue} {lease : Lease}
    {resultArtifactKey : String} {sourceKey locator : Option String} :
    (completeArtifactMaintenanceTask now tasks lease resultArtifactKey sourceKey locator).items
        lease.itemId = tasks.items lease.itemId ↔
      ∀ task, tasks.items lease.itemId = some task → CompletedWith now task
        { resultArtifactKey := some resultArtifactKey, repairSourceReplicaKey := sourceKey
          repairLocator := locator } := by
  rw [completeArtifactMaintenanceTask_items]
  cases tasks.items lease.itemId with
  | none => exact iff_of_true rfl fun task h => absurd h (by simp)
  | some task =>
    rw [Option.map_some, Option.some.injEq]
    constructor
    · rintro hsame task' heq
      obtain rfl := Option.some.inj heq
      rw [← hsame]
      exact ⟨rfl, rfl, rfl, rfl⟩
    · intro h
      obtain ⟨hstatus, hcompletedAt, hupdatedAt, hresult⟩ := h task rfl
      obtain ⟨_, _, _, _, _, _, _, _, _⟩ := task
      simp only [WorkItem.complete] at *
      simp only [hstatus, hcompletedAt, hupdatedAt, hresult]

/-- A task that is not completed is not completed by what leaves it as it is. -/
theorem not_completed {taskId : ℕ} (hsame : db'.tasks.items taskId = db.tasks.items taskId)
    (hbefore : (db.tasks.items taskId).all (·.status ≠ .completed))
    (hafter : (db'.tasks.items taskId).any (·.status = .completed)) : False := by
  rw [hsame] at hafter
  cases hitem : db.tasks.items taskId with
  | none =>
    rw [hitem] at hafter
    exact Bool.false_ne_true hafter
  | some item =>
    rw [hitem] at hbefore hafter
    simp_all

/-- **The rule of a call that writes one replica and leaves the tasks alone.** -/
theorem repairRule_iff_of_tasks {taskId : ℕ} {spec : ArtifactMaintenanceSpec}
    {replica : ReplicaRecord} {audits : List AuditRecord}
    (hrows : ∀ replicaKey, db'.replicas (spec.artifactKey, replicaKey) =
      if replicaKey = replica.replicaKey then
        some (replica.auditedRow now (db.replicas (spec.artifactKey, replicaKey)) audits)
      else db.replicas (spec.artifactKey, replicaKey))
    (htasks : db'.tasks = db.tasks) :
    RepairRule S db db' taskId spec (some replica) ↔
      (¬ S.Verified db spec.artifactKey replica ∨ replica.replicaKey = "primary" →
        AlreadyThere now db spec.artifactKey replica audits) := by
  have hsame : db'.tasks.items taskId = db.tasks.items taskId := by rw [htasks]
  rw [repairRule_iff hrows]
  constructor
  · rintro ⟨hunverified, hprimary, -⟩ (hnot | hkey)
    · exact (hunverified hnot).1
    · exact hprimary hkey
  · intro halready
    exact ⟨fun hnot => ⟨halready (.inl hnot), hsame⟩, fun hkey => halready (.inr hkey),
      fun hbefore hafter => (not_completed hsame hbefore hafter).elim⟩

/-- What holds of whatever a computation results in, when its result is known. -/
theorem forall_eq_ok_iff {ε α β γ : Type} {Q : α → β → γ → Prop} {a : α} {b : β} {c : γ} :
    (∀ a' b' c', (Except.ok (a, b, c) : Except ε (α × β × γ)) = .ok (a', b', c') → Q a' b' c') ↔
      Q a b c := by
  constructor
  · exact fun h => h a b c rfl
  · rintro h a' b' c' heq
    cases heq
    exact h

/-- **The route**, of a request for a task that there is. -/
theorem submitRepair_keeps_iff {request : RepairSubmission}
    {task : WorkItem ArtifactMaintenanceSpec ArtifactMaintenanceResult}
    (htask : db.tasks.items request.taskId = some task) :
    RepairRule S db (submitRepair S now db request).2 request.taskId task.spec
      (submitted db request) ↔ RouteKeeps S now db request := by
  rw [submitRepair, submitted, RouteKeeps]
  cases hadmitted : admitRepair db request with
  | error answer =>
    exact iff_of_true (RepairRule.of_unchanged request.taskId task.spec)
      fun spec artifact replica h => by cases h
  | ok admitted =>
    obtain ⟨spec, artifact, replica⟩ := admitted
    obtain ⟨⟨task', htask', rfl⟩, hartifact⟩ := admitRepair_ok hadmitted
    obtain rfl : task = task' := Option.some.inj (htask.symm.trans htask')
    have haudits : ∀ audit ∈ [S.verificationAudit now artifact.sha256 replica],
        audit.replicaKey = replica.replicaKey := by simp
    have hverified : S.Verified db task.spec.artifactKey replica ↔
        (S.verificationAudit now artifact.sha256 replica).status = .verified :=
      verified_iff hartifact
    rw [forall_eq_ok_iff]
    change RepairRule S db _ request.taskId task.spec (some replica) ↔ _
    simp only
    generalize haudit : S.verificationAudit now artifact.sha256 replica = audit at *
    have hrows : ∀ replicaKey, (db.writeReplica now task.spec.artifactKey replica
        [audit]).replicas (task.spec.artifactKey, replicaKey) = _ :=
      writeReplica_rows task.spec.artifactKey haudits
    have htasks : (db.writeReplica now task.spec.artifactKey replica [audit]).tasks = db.tasks :=
      ArtifactDb.writeReplica_tasks replica [audit]
    have hstopped {db' : ArtifactDb} (hrows' : ∀ replicaKey, db'.replicas
        (task.spec.artifactKey, replicaKey) = _) (htasks' : db'.tasks = db.tasks) :
        RepairRule S db db' request.taskId task.spec (some replica) ↔
          (audit.status ≠ .verified ∨ replica.replicaKey = "primary" →
            AlreadyThere now db task.spec.artifactKey replica [audit]) :=
      (repairRule_iff_of_tasks hrows' htasks').trans (by rw [hverified])
    by_cases hstatus : audit.status = .verified
    · rw [if_neg (not_not_intro hstatus)]
      cases hpersist : S.persistJsonArtifact
        { artifactKey := task.spec.artifactKey, repairedReplica := replica
          repairSourceReplicaKey := request.repairSourceReplicaKey
          verificationAudits := [audit] } with
      | error error =>
        refine (hstopped hrows htasks).trans (and_iff_left fun _ _ hok => ?_).symm
        exact absurd hok Bool.false_ne_true
      | ok result =>
        have hstored : ∀ replicaKey, ((db.writeReplica now task.spec.artifactKey replica
            [audit]).upsertPersistedArtifact now result).replicas
              (task.spec.artifactKey, replicaKey) = _ := fun replicaKey =>
          (ArtifactDb.upsertPersistedArtifact_replicas (S.elsewhere hpersist) replicaKey).trans
            (hrows replicaKey)
        have hstoredTasks : ((db.writeReplica now task.spec.artifactKey replica
            [audit]).upsertPersistedArtifact now result).tasks = db.tasks :=
          (ArtifactDb.upsertPersistedArtifact_tasks result).trans htasks
        simp only [hstoredTasks]
        cases hrun : currentRun db.tasks request.taskId with
        | none =>
          refine (hstopped hstored hstoredTasks).trans (and_iff_left fun _ _ _ hsome => ?_).symm
          exact absurd hsome Bool.false_ne_true
        | some runId =>
          have hreplica : S.Verified db task.spec.artifactKey replica := hverified.mpr hstatus
          refine Iff.trans (repairRule_iff hstored) ?_
          constructor
          · rintro ⟨-, hprimary, hcompleted⟩
            refine ⟨fun h => hprimary (h.resolve_left (not_not_intro hstatus)), ?_⟩
            intro _ hbefore _ _
            refine (hcompleted hbefore ?_).2
            rw [completeArtifactMaintenanceTask_items, htask]
            rfl
          · rintro ⟨halready, htarget⟩
            refine ⟨fun hnot => absurd hreplica hnot, fun hkey => halready (.inr hkey), ?_⟩
            intro hbefore _
            exact ⟨hreplica, htarget hstatus hbefore rfl rfl⟩
    · rw [if_pos hstatus]
      exact (hstopped hrows htasks).trans (and_iff_left fun h => absurd h hstatus).symm

/-- **The worker**, with any task and any lease. -/
theorem runArtifactRepairTask_keeps_iff (spec : ArtifactMaintenanceSpec) (lease : Lease)
    (listed : List (String × String)) :
    RepairRule S db (runArtifactRepairTask S now db spec lease listed).2 lease.itemId spec
      (made S db spec lease.itemId listed) ↔ WorkerKeeps S now db spec lease listed := by
  rw [runArtifactRepairTask, made, WorkerKeeps]
  cases hmake : makeRepair S db spec lease.itemId listed with
  | error error =>
    exact iff_of_true (RepairRule.of_unchanged lease.itemId spec)
      fun artifact sourceKey replica h => by cases h
  | ok repair =>
    obtain ⟨artifact, sourceKey, replica⟩ := repair
    obtain ⟨hartifact, htarget, hprimary⟩ := makeRepair_ok hmake
    have haudits : ∀ audit ∈ [persistAudit now artifact.sha256 replica,
        S.verificationAudit now artifact.sha256 replica],
        audit.replicaKey = replica.replicaKey := by simp [persistAudit]
    have hverified : S.Verified db spec.artifactKey replica ↔
        (S.verificationAudit now artifact.sha256 replica).status = .verified :=
      verified_iff hartifact
    rw [forall_eq_ok_iff]
    change RepairRule S db _ lease.itemId spec (some replica) ↔ _
    simp only
    generalize haudit : S.verificationAudit now artifact.sha256 replica = audit at *
    have hrows : ∀ replicaKey, (db.writeReplica now spec.artifactKey replica
        [persistAudit now artifact.sha256 replica, audit]).replicas
          (spec.artifactKey, replicaKey) = _ := writeReplica_rows spec.artifactKey haudits
    have htasks : (db.writeReplica now spec.artifactKey replica
        [persistAudit now artifact.sha256 replica, audit]).tasks = db.tasks :=
      ArtifactDb.writeReplica_tasks replica _
    cases hpersist : S.persistJsonArtifact
      { artifactKey := spec.artifactKey, repairedReplica := replica
        repairSourceReplicaKey := some sourceKey, verificationAudits := [audit] } with
    | error error =>
      rw [repairRule_iff_of_tasks hrows htasks, hverified]
      constructor
      · intro halready hstatus
        exact ⟨halready (.inl hstatus), fun result h => by cases h⟩
      · rintro hkeeps (hstatus | hkey)
        · exact (hkeeps hstatus).1
        · exact absurd hkey hprimary
    | ok result =>
      have hstored : ∀ replicaKey, ((db.writeReplica now spec.artifactKey replica
          [persistAudit now artifact.sha256 replica, audit]).upsertPersistedArtifact now
            result).replicas (spec.artifactKey, replicaKey) = _ := fun replicaKey =>
        (ArtifactDb.upsertPersistedArtifact_replicas (S.elsewhere hpersist) replicaKey).trans
          (hrows replicaKey)
      simp only [ArtifactDb.upsertPersistedArtifact_tasks, htasks]
      refine Iff.trans (repairRule_iff hstored) ?_
      rw [hverified]
      constructor
      · rintro ⟨hunverified, -, -⟩ hstatus
        obtain ⟨halready, hitem⟩ := hunverified hstatus
        refine ⟨halready, fun result' h => ?_⟩
        cases h
        exact complete_eq_self_iff.mp hitem
      · intro hkeeps
        refine ⟨fun hstatus => ?_, fun hkey => absurd hkey hprimary, fun hbefore hafter => ?_⟩
        · exact ⟨(hkeeps hstatus).1, complete_eq_self_iff.mpr ((hkeeps hstatus).2 result rfl)⟩
        · by_cases hstatus : audit.status = .verified
          · exact ⟨hstatus, htarget⟩
          · have hsame := complete_eq_self_iff.mpr ((hkeeps hstatus).2 result rfl)
            exact (not_completed hsame hbefore hafter).elim

/-- The rule of a request to the route; one for a task that there is not changes nothing. -/
def RouteRule (S : RepairServices) (db db' : ArtifactDb) (request : RepairSubmission) : Prop :=
  match db.tasks.items request.taskId with
  | some task => RepairRule S db db' request.taskId task.spec (submitted db request)
  | none => db' = db

theorem submitRepair_rule_iff (request : RepairSubmission) :
    RouteRule S db (submitRepair S now db request).2 request ↔ RouteKeeps S now db request := by
  rw [RouteRule]
  cases htask : db.tasks.items request.taskId with
  | some task => exact submitRepair_keeps_iff htask
  | none =>
    have hadmitted : admitRepair db request =
        .error (.refused 404 "artifact_maintenance_task_not_found") := by
      rw [admitRepair, htask]
    refine iff_of_true ?_ fun spec artifact replica h => ?_
    · rw [submitRepair, hadmitted]
    · rw [hadmitted] at h
      cases h

end

/-- **When repairs are verified repairs only**: for every request to the route and for every run of
the worker, over any tables and with any answers of the services. -/
theorem verified_repair_iff (S : RepairServices) (now : Time) (db : ArtifactDb)
    (request : RepairSubmission) (spec : ArtifactMaintenanceSpec) (lease : Lease)
    (listed : List (String × String)) :
    (RouteRule S db (submitRepair S now db request).2 request ↔ RouteKeeps S now db request) ∧
      (RepairRule S db (runArtifactRepairTask S now db spec lease listed).2 lease.itemId spec
        (made S db spec lease.itemId listed) ↔ WorkerKeeps S now db spec lease listed) :=
  ⟨submitRepair_rule_iff request, runArtifactRepairTask_keeps_iff spec lease listed⟩

/-! ### A replica that is not the artifact -/

theorem append_ne_self (text : String) : "artifact-maintenance-repair-result-" ++ text ≠ text := by
  intro h
  have hlength := congrArg String.length h
  rw [String.length_append] at hlength
  have hpositive : 0 < "artifact-maintenance-repair-result-".length := by decide
  omega

/-- Every source has the three bytes of the artifact, and every replica reads back empty. -/
def emptyReplicas : RepairServices where
  runtime := plainRuntime
  options := withOneTarget .s3
  sha256Hex := sizeDigest
  sourceBytes := fun _ => .ok [1, 2, 3]
  verifiedBytes := fun _ => .ok []
  addObject := fun _ _ => .ok ("bafy", none)
  persistJsonArtifact := fun result => .ok
    { artifactKey := "artifact-maintenance-repair-result-" ++ result.artifactKey
      row := ⟨"0x9", "s3://bucket/result"⟩, replicas := [], audits := [] }
  elsewhere h := by
    cases h
    exact append_ne_self _

def repairSpec : ArtifactMaintenanceSpec where
  artifactKey := "artifact-1"
  taskType := .repair
  requestedBy := "artifact-audit:1"
  targetReplicaKey := some "ipfs-1"
  targetProvider := some "ipfs:kubo"

/-- A task to repair the copy of an artifact, which agent 7 has claimed. -/
def repairTasks : ArtifactMaintenanceQueue :=
  ((claimArtifactMaintenanceTaskById 2 (createArtifactMaintenanceTask 1 .empty repairSpec)
    (some "7") 1 "worker").map Prod.snd).getD .empty

def repairDb : ArtifactDb where
  artifacts := Sql.Table.empty.set "artifact-1" ⟨"0x3", "store/note"⟩
  replicas := Sql.Table.empty.set ("artifact-1", "primary")
    { provider := "filesystem", locator := "store/note", isPrimary := true
      providerMetadata := "\x7b\x7d", createdAt := 0, updatedAt := 0, lastCheckedAt := none
      lastCheckStatus := none, lastCheckError := none }
  audits := []
  tasks := repairTasks

/-- A submission that names the primary replica. -/
def primarySubmission : RepairSubmission where
  taskId := 1
  agentId := "7"
  repairedReplica := some ⟨some "s3://elsewhere/note", none, some "primary"⟩
  repairSourceReplicaKey := none

/-- **The primary replica is replaced by a refused submission, and a task is completed by a copy
that reads back wrong.** -/
theorem unverified_repairs :
    let route := submitRepair emptyReplicas 9 repairDb primarySubmission
    let worker := runArtifactRepairTask emptyReplicas 9 repairDb repairSpec ⟨1, 1⟩ []
    route.1 = .refused 422 "artifact_repair_verification_failed" ∧
    (repairDb.replicas ("artifact-1", "primary")).map (·.locator) = some "store/note" ∧
    (route.2.replicas ("artifact-1", "primary")).map (·.locator) = some "s3://elsewhere/note" ∧
    ¬ RouteRule emptyReplicas repairDb route.2 primarySubmission ∧
    worker.1 = .completed ∧
    (worker.2.replicas ("artifact-1", "ipfs-1")).map (·.lastCheckStatus) =
      some (some .hashMismatch) ∧
    (worker.2.tasks.items 1).map (·.status) = some .completed ∧
    ¬ RepairRule emptyReplicas repairDb worker.2 1 repairSpec
      (made emptyReplicas repairDb repairSpec 1 []) := by
  have hbefore : (repairDb.replicas ("artifact-1", "primary")).map (·.locator) =
      some "store/note" := by decide
  have hafter : ((submitRepair emptyReplicas 9 repairDb primarySubmission).2.replicas
      ("artifact-1", "primary")).map (·.locator) = some "s3://elsewhere/note" := by decide
  have hmade : made emptyReplicas repairDb repairSpec 1 [] =
      some ⟨false, "ipfs://bafy", "ipfs:kubo", none, "ipfs-1"⟩ := by decide
  refine ⟨by decide, hbefore, hafter, fun hrule => ?_, by decide,
    by decide, by decide, fun hrule => ?_⟩
  · have hprimary : (submitRepair emptyReplicas 9 repairDb primarySubmission).2.replicas
        ("artifact-1", "primary") = repairDb.replicas ("artifact-1", "primary") :=
      RepairRule.primary hrule
    rw [hprimary, hbefore] at hafter
    exact absurd hafter (by decide)
  · obtain ⟨replica, hmem, hverified, -⟩ :=
      hrule.completed (by decide) (by decide)
    rw [hmade] at hmem
    cases Option.mem_some_iff.mp hmem
    have hartifact : repairDb.artifacts "artifact-1" = some ⟨"0x3", "store/note"⟩ := rfl
    have hstatus : (emptyReplicas.verificationAudit 9 "0x3"
        ⟨false, "ipfs://bafy", "ipfs:kubo", none, "ipfs-1"⟩).status = .verified :=
      (verified_iff hartifact).mp hverified
    exact absurd hstatus (by decide)

end ScientificProtocol.Artifacts
