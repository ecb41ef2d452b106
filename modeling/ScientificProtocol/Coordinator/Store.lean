import ScientificProtocol.Concurrency.Processes
import ScientificProtocol.Coordinator.Exclusivity

/-!
# The store of the coordinator

`src/coordinator/store.ts`: the queue of artifact maintenance tasks and the queue of
replication jobs, and the functions that create, claim, complete, fail, keep alive and
expire their items. Each function is one transaction, and one step; the database runs it
at READ COMMITTED, and its first statement locks the row of the item it is about.

Whoever calls the store has its leases from the store
(`ScientificProtocol.Coordinator.callers`): a worker goes on with the item and the run it
has claimed, and a route of the API with a run it has read for the item it was asked about.
Either may call back at any later time, when the lease is no longer worth anything.
-/

namespace ScientificProtocol.Coordinator

open Concurrency

/-! ### Artifact maintenance tasks -/

inductive ArtifactMaintenanceTaskType where
  | audit
  | repair
  deriving DecidableEq, Repr

structure ArtifactMaintenanceSpec where
  artifactKey : String
  taskType : ArtifactMaintenanceTaskType
  requestedBy : String
  targetReplicaKey : Option String
  targetProvider : Option String
  deriving DecidableEq

/-- What completing a task stores with it. -/
structure ArtifactMaintenanceResult where
  resultArtifactKey : Option String
  repairSourceReplicaKey : Option String
  repairLocator : Option String
  deriving DecidableEq, Inhabited

/-- What completing a task stores with the run. -/
structure ArtifactMaintenanceRunResult where
  summaryArtifactKey : Option String
  deriving DecidableEq, Inhabited

abbrev ArtifactMaintenanceQueue : Type :=
  WorkQueue ArtifactMaintenanceSpec ArtifactMaintenanceResult ArtifactMaintenanceRunResult

/-- The columns of `artifact_maintenance_tasks_open_identity_idx`. -/
def ArtifactMaintenanceSpec.sameIdentity (spec spec' : ArtifactMaintenanceSpec) : Bool :=
  decide (spec.artifactKey = spec'.artifactKey ∧ spec.taskType = spec'.taskType ∧
    spec.targetReplicaKey.getD "" = spec'.targetReplicaKey.getD "")

section

variable (now : Time) (q : ArtifactMaintenanceQueue)

/-- A task is created, unless one like it is open or assigned. -/
def createArtifactMaintenanceTask (spec : ArtifactMaintenanceSpec) : ArtifactMaintenanceQueue :=
  match q.items.select fun _ item =>
    item.spec.sameIdentity spec && decide (item.status = .«open» ∨ item.status = .assigned) with
  | [] => q.create now spec default
  | _ => q

def claimNextOpenArtifactMaintenanceTask (agentId : Option String)
    (taskType : Option ArtifactMaintenanceTaskType) (workerId : String) (locked : ℕ → Bool) :
    Option (Lease × ArtifactMaintenanceQueue) :=
  q.claimNextOpen now (fun spec => taskType.isNone || decide (some spec.taskType = taskType)) locked
    workerId agentId default

def claimArtifactMaintenanceTaskById (agentId : Option String) (taskId : ℕ) (workerId : String) :
    Option (Lease × ArtifactMaintenanceQueue) := q.claimById now taskId workerId agentId default

def completeArtifactMaintenanceTask (lease : Lease) (resultArtifactKey : String)
    (repairSourceReplicaKey repairLocator : Option String) : ArtifactMaintenanceQueue :=
  q.complete now lease
    (fun _ => { resultArtifactKey := some resultArtifactKey, repairSourceReplicaKey,
                repairLocator })
    (fun _ => { summaryArtifactKey := some resultArtifactKey })

def failArtifactMaintenanceTask (lease : Lease) (failureReason : String) :
    ArtifactMaintenanceQueue := q.fail now lease failureReason id id

def heartbeatArtifactMaintenanceTaskRun (lease : Lease) (agentId workerId : Option String) :
    Option ArtifactMaintenanceQueue := q.heartbeat now lease agentId workerId

def expireStaleArtifactMaintenanceTaskRuns (limit : Option ℕ) (staleBefore : Time)
    (locked : ℕ → Bool) : ArtifactMaintenanceQueue :=
  q.expireStaleRuns now locked limit staleBefore

end

/-! ### Replication jobs -/

structure ReplicationJobSpec where
  claimId : String
  requestedBy : String
  specHash : String
  specURI : Option String
  deriving DecidableEq

/-- What completing a job stores with it. -/
structure ReplicationJobResult where
  requestId : Option String
  resultArtifactKey : Option String
  resultHash : Option String
  evidenceHash : Option String
  evidenceURI : Option String
  onchainReplicationId : Option String
  submissionTxHash : Option String
  submissionActor : Option String
  submittedAt : Option Time
  deriving DecidableEq, Inhabited

/-- What completing a job stores with the run. -/
structure ReplicationJobRunResult where
  requestId : Option String
  executionManifestHash : Option String
  resultArtifactKey : Option String
  resultHash : Option String
  evidenceHash : Option String
  evidenceURI : Option String
  submissionTxHash : Option String
  deriving DecidableEq, Inhabited

abbrev ReplicationQueue : Type :=
  WorkQueue ReplicationJobSpec ReplicationJobResult ReplicationJobRunResult

/-- The result `completeReplicationJob` is called with. -/
structure ReplicationJobCompletion where
  evidenceHash : String
  evidenceURI : String
  executionManifestHash : String
  onchainReplicationId : Option String
  requestId : Option String
  resultArtifactKey : String
  resultHash : String
  submissionActor : Option String
  submissionTxHash : Option String
  deriving DecidableEq

section

variable (now : Time) (q : ReplicationQueue)

def createReplicationJob (spec : ReplicationJobSpec) : ReplicationQueue := q.create now spec default

def claimNextOpenReplicationJob (agentId : Option String) (workerId : String) (locked : ℕ → Bool) :
    Option (Lease × ReplicationQueue) :=
  q.claimNextOpen now (fun _ => true) locked workerId agentId default

def claimReplicationJobById (agentId : Option String) (jobId : ℕ) (workerId : String) :
    Option (Lease × ReplicationQueue) := q.claimById now jobId workerId agentId default

def completeReplicationJob (lease : Lease) (input : ReplicationJobCompletion) : ReplicationQueue :=
  q.complete now lease
    (fun result =>
      { requestId := input.requestId.or result.requestId
        resultArtifactKey := some input.resultArtifactKey, resultHash := some input.resultHash
        evidenceHash := some input.evidenceHash, evidenceURI := some input.evidenceURI
        onchainReplicationId := input.onchainReplicationId
        submissionTxHash := input.submissionTxHash, submissionActor := input.submissionActor
        submittedAt := some now })
    (fun result =>
      { requestId := input.requestId.or result.requestId
        executionManifestHash := some input.executionManifestHash
        resultArtifactKey := some input.resultArtifactKey, resultHash := some input.resultHash
        evidenceHash := some input.evidenceHash, evidenceURI := some input.evidenceURI
        submissionTxHash := input.submissionTxHash })

def failReplicationJob (lease : Lease) (failureReason : String) (requestId : Option String) :
    ReplicationQueue :=
  q.fail now lease failureReason
    (fun result => { result with requestId := requestId.or result.requestId })
    (fun result => { result with requestId := requestId.or result.requestId })

def heartbeatReplicationJobRun (lease : Lease) (agentId workerId : Option String) :
    Option ReplicationQueue := q.heartbeat now lease agentId workerId

def expireStaleReplicationJobRuns (limit : Option ℕ) (staleBefore : Time) (locked : ℕ → Bool) :
    ReplicationQueue := q.expireStaleRuns now locked limit staleBefore

end

/-! ### Calls of the store -/

/-- The tables of the coordinator. -/
structure CoordinatorDb where
  maintenance : ArtifactMaintenanceQueue
  replication : ReplicationQueue

/-- The tables as they are set up. -/
def CoordinatorDb.empty : CoordinatorDb := ⟨.empty, .empty⟩

inductive QueueKind where
  | maintenance
  | replication
  deriving DecidableEq, Repr

/-- One call of the store. -/
inductive StoreCall where
  | createArtifactMaintenanceTask (spec : ArtifactMaintenanceSpec)
  | claimNextOpenArtifactMaintenanceTask (agentId : Option String)
      (taskType : Option ArtifactMaintenanceTaskType) (workerId : String) (locked : ℕ → Bool)
  | claimArtifactMaintenanceTaskById (agentId : Option String) (taskId : ℕ) (workerId : String)
  | completeArtifactMaintenanceTask (lease : Lease) (resultArtifactKey : String)
      (repairSourceReplicaKey repairLocator : Option String)
  | failArtifactMaintenanceTask (lease : Lease) (failureReason : String)
  | heartbeatArtifactMaintenanceTaskRun (lease : Lease) (agentId workerId : Option String)
  | expireStaleArtifactMaintenanceTaskRuns (limit : Option ℕ) (staleBefore : Time)
      (locked : ℕ → Bool)
  | createReplicationJob (spec : ReplicationJobSpec)
  | claimNextOpenReplicationJob (agentId : Option String) (workerId : String) (locked : ℕ → Bool)
  | claimReplicationJobById (agentId : Option String) (jobId : ℕ) (workerId : String)
  | completeReplicationJob (lease : Lease) (input : ReplicationJobCompletion)
  | failReplicationJob (lease : Lease) (failureReason : String) (requestId : Option String)
  | heartbeatReplicationJobRun (lease : Lease) (agentId workerId : Option String)
  | expireStaleReplicationJobRuns (limit : Option ℕ) (staleBefore : Time) (locked : ℕ → Bool)

namespace StoreCall

/-- The lease a call uses up: the item it completes or fails, and the run it does it with. -/
def used : StoreCall → Option (QueueKind × Lease)
  | .completeArtifactMaintenanceTask lease _ _ _ => some (.maintenance, lease)
  | .failArtifactMaintenanceTask lease _ => some (.maintenance, lease)
  | .completeReplicationJob lease _ => some (.replication, lease)
  | .failReplicationJob lease _ _ => some (.replication, lease)
  | _ => none

/-- The lease a call uses up in one of the queues. -/
def usedIn (kind : QueueKind) (call : StoreCall) : Option Lease :=
  call.used.bind fun used => if used.1 = kind then some used.2 else none

/-- The runs a call lets expire in one of the queues. -/
def expiredIn (db : CoordinatorDb) : QueueKind → StoreCall → List ℕ
  | .maintenance, .expireStaleArtifactMaintenanceTaskRuns limit staleBefore locked =>
    (db.maintenance.staleRuns locked limit staleBefore).map Prod.fst
  | .replication, .expireStaleReplicationJobRuns limit staleBefore locked =>
    (db.replication.staleRuns locked limit staleBefore).map Prod.fst
  | _, _ => []

variable (now : Time) (db : CoordinatorDb)

/-- What a call of the maintenance queue leaves behind, and the lease it grants. -/
def onMaintenance (r : Option (Lease × ArtifactMaintenanceQueue)) :
    CoordinatorDb × Option (QueueKind × Lease) :=
  match r with
  | some (lease, q) => ({ db with maintenance := q }, some (.maintenance, lease))
  | none => (db, none)

/-- What a call of the replication queue leaves behind, and the lease it grants. -/
def onReplication (r : Option (Lease × ReplicationQueue)) :
    CoordinatorDb × Option (QueueKind × Lease) :=
  match r with
  | some (lease, q) => ({ db with replication := q }, some (.replication, lease))
  | none => (db, none)

/-- Running a call, with the lease it grants. -/
def exec : StoreCall → CoordinatorDb × Option (QueueKind × Lease)
  | .createArtifactMaintenanceTask spec =>
    ({ db with
      maintenance := Coordinator.createArtifactMaintenanceTask now db.maintenance spec }, none)
  | .claimNextOpenArtifactMaintenanceTask agentId taskType workerId locked =>
    onMaintenance db (Coordinator.claimNextOpenArtifactMaintenanceTask now db.maintenance agentId
      taskType workerId locked)
  | .claimArtifactMaintenanceTaskById agentId taskId workerId =>
    onMaintenance db (Coordinator.claimArtifactMaintenanceTaskById now db.maintenance agentId taskId
      workerId)
  | .completeArtifactMaintenanceTask lease resultArtifactKey repairSourceReplicaKey repairLocator =>
    ({ db with
      maintenance := Coordinator.completeArtifactMaintenanceTask now db.maintenance lease
        resultArtifactKey repairSourceReplicaKey repairLocator }, none)
  | .failArtifactMaintenanceTask lease failureReason =>
    ({ db with
      maintenance :=
        Coordinator.failArtifactMaintenanceTask now db.maintenance lease failureReason }, none)
  | .heartbeatArtifactMaintenanceTaskRun lease agentId workerId =>
    ({ db with
      maintenance := (Coordinator.heartbeatArtifactMaintenanceTaskRun now db.maintenance lease
        agentId workerId).getD db.maintenance }, none)
  | .expireStaleArtifactMaintenanceTaskRuns limit staleBefore locked =>
    ({ db with
      maintenance := Coordinator.expireStaleArtifactMaintenanceTaskRuns now db.maintenance limit
        staleBefore locked }, none)
  | .createReplicationJob spec =>
    ({ db with replication := Coordinator.createReplicationJob now db.replication spec }, none)
  | .claimNextOpenReplicationJob agentId workerId locked =>
    onReplication db (Coordinator.claimNextOpenReplicationJob now db.replication agentId workerId
      locked)
  | .claimReplicationJobById agentId jobId workerId =>
    onReplication db (Coordinator.claimReplicationJobById now db.replication agentId jobId workerId)
  | .completeReplicationJob lease input =>
    ({ db with
      replication := Coordinator.completeReplicationJob now db.replication lease input }, none)
  | .failReplicationJob lease failureReason requestId =>
    ({ db with
      replication := Coordinator.failReplicationJob now db.replication lease failureReason
        requestId }, none)
  | .heartbeatReplicationJobRun lease agentId workerId =>
    ({ db with
      replication := (Coordinator.heartbeatReplicationJobRun now db.replication lease agentId
        workerId).getD db.replication }, none)
  | .expireStaleReplicationJobRuns limit staleBefore locked =>
    ({ db with
      replication := Coordinator.expireStaleReplicationJobRuns now db.replication limit staleBefore
        locked }, none)

end StoreCall

/-! ### Those who call the store -/

/-- What a caller does next. -/
inductive CallerAction where
  /-- It calls the store. -/
  | call (now : Time) (call : StoreCall)
  /-- It reads the runs of an item, and goes on with one of them. -/
  | readRuns (kind : QueueKind) (lease : Lease)

namespace CoordinatorDb

/-- The run of a lease is a run of its item. -/
def isRunOf (db : CoordinatorDb) : QueueKind → Lease → Bool
  | .maintenance, lease => db.maintenance.isRunOf lease
  | .replication, lease => db.replication.isRunOf lease

end CoordinatorDb

/-- A caller acts: it completes and fails only what it holds, and holds what it has claimed
or read last. -/
def CallerAction.act (a : CallerAction) (db : CoordinatorDb) (held : Option (QueueKind × Lease)) :
    Option (CoordinatorDb × Option (QueueKind × Lease)) :=
  match a with
  | .call now c =>
    if c.used.isNone ∨ c.used = held then some ((c.exec now db).1, (c.exec now db).2.or held)
    else none
  | .readRuns kind lease => if db.isRunOf kind lease then some (db, some (kind, lease)) else none

/-- **The callers of the store**: any number of workers and routes. -/
def callers : Processes CoordinatorDb (Option (QueueKind × Lease)) CallerAction Empty where
  genesis db := db = .empty
  idle := none
  act := CallerAction.act
  env b := b.elim

/-! ### What a call does -/

namespace StoreCall

variable {now : Time} {db : CoordinatorDb}

theorem step_onMaintenance {r : Option (Lease × ArtifactMaintenanceQueue)}
    (h : ∀ granted ∈ r, WorkQueue.Step now db.maintenance none [] granted.2) :
    WorkQueue.Step now db.maintenance none [] (onMaintenance db r).1.maintenance ∧
      WorkQueue.Step now db.replication none [] (onMaintenance db r).1.replication := by
  cases r with
  | none => exact ⟨.idle, .idle⟩
  | some granted => exact ⟨h granted rfl, .idle⟩

theorem step_onReplication {r : Option (Lease × ReplicationQueue)}
    (h : ∀ granted ∈ r, WorkQueue.Step now db.replication none [] granted.2) :
    WorkQueue.Step now db.maintenance none [] (onReplication db r).1.maintenance ∧
      WorkQueue.Step now db.replication none [] (onReplication db r).1.replication := by
  cases r with
  | none => exact ⟨.idle, .idle⟩
  | some granted => exact ⟨.idle, h granted rfl⟩

/-- **A call of the store is one transaction of each queue**, and of one of them at most an
effective one. -/
theorem exec_step (now : Time) (db : CoordinatorDb) (call : StoreCall) :
    WorkQueue.Step now db.maintenance (call.usedIn .maintenance) (call.expiredIn db .maintenance)
        (call.exec now db).1.maintenance ∧
      WorkQueue.Step now db.replication (call.usedIn .replication) (call.expiredIn db .replication)
        (call.exec now db).1.replication := by
  cases call with
  | createArtifactMaintenanceTask spec =>
    refine ⟨?_, .idle⟩
    simp only [exec, Coordinator.createArtifactMaintenanceTask]
    split
    · exact .create spec default
    · exact .idle
  | claimNextOpenArtifactMaintenanceTask agentId taskType workerId locked =>
    exact step_onMaintenance fun _ h => WorkQueue.step_claimNextOpen h
  | claimArtifactMaintenanceTaskById agentId taskId workerId =>
    exact step_onMaintenance fun _ h => WorkQueue.step_claimById h
  | completeArtifactMaintenanceTask lease _ _ _ => exact ⟨.complete lease _ _, .idle⟩
  | failArtifactMaintenanceTask lease failureReason => exact ⟨.fail lease failureReason _ _, .idle⟩
  | heartbeatArtifactMaintenanceTaskRun lease agentId workerId =>
    exact ⟨WorkQueue.step_heartbeat, .idle⟩
  | expireStaleArtifactMaintenanceTaskRuns limit staleBefore locked =>
    exact ⟨.expire locked limit staleBefore, .idle⟩
  | createReplicationJob spec => exact ⟨.idle, .create spec default⟩
  | claimNextOpenReplicationJob agentId workerId locked =>
    exact step_onReplication fun _ h => WorkQueue.step_claimNextOpen h
  | claimReplicationJobById agentId jobId workerId =>
    exact step_onReplication fun _ h => WorkQueue.step_claimById h
  | completeReplicationJob lease input => exact ⟨.idle, .complete lease _ _⟩
  | failReplicationJob lease failureReason requestId => exact ⟨.idle, .fail lease failureReason _ _⟩
  | heartbeatReplicationJobRun lease agentId workerId => exact ⟨.idle, WorkQueue.step_heartbeat⟩
  | expireStaleReplicationJobRuns limit staleBefore locked =>
    exact ⟨.idle, .expire locked limit staleBefore⟩

/-- A run stays a run of its item. -/
theorem isRunOf_exec (call : StoreCall) {kind : QueueKind} {lease : Lease}
    (h : db.isRunOf kind lease = true) : (call.exec now db).1.isRunOf kind lease = true := by
  obtain ⟨hmaintenance, hreplication⟩ := exec_step now db call
  cases kind with
  | maintenance => exact hmaintenance.isRunOf h
  | replication => exact hreplication.isRunOf h

theorem isRunOf_onMaintenance {r : Option (Lease × ArtifactMaintenanceQueue)} {kind : QueueKind}
    {lease : Lease} (hr : ∀ granted ∈ r, granted.2.isRunOf granted.1 = true)
    (h : (onMaintenance db r).2 = some (kind, lease)) :
    (onMaintenance db r).1.isRunOf kind lease = true := by
  rcases r with _ | granted
  · exact absurd h (by simp [onMaintenance])
  · obtain ⟨rfl, rfl⟩ := Prod.mk.inj (Option.some.inj h)
    exact hr granted rfl

theorem isRunOf_onReplication {r : Option (Lease × ReplicationQueue)} {kind : QueueKind}
    {lease : Lease} (hr : ∀ granted ∈ r, granted.2.isRunOf granted.1 = true)
    (h : (onReplication db r).2 = some (kind, lease)) :
    (onReplication db r).1.isRunOf kind lease = true := by
  rcases r with _ | granted
  · exact absurd h (by simp [onReplication])
  · obtain ⟨rfl, rfl⟩ := Prod.mk.inj (Option.some.inj h)
    exact hr granted rfl

/-- A lease that is granted names a run of its item. -/
theorem isRunOf_granted {call : StoreCall} {kind : QueueKind} {lease : Lease}
    (h : (call.exec now db).2 = some (kind, lease)) :
    (call.exec now db).1.isRunOf kind lease = true := by
  cases call with
  | claimNextOpenArtifactMaintenanceTask =>
    exact isRunOf_onMaintenance (fun _ hr => WorkQueue.isRunOf_claimNextOpen hr) h
  | claimArtifactMaintenanceTaskById =>
    exact isRunOf_onMaintenance (fun _ hr => WorkQueue.isRunOf_claimById hr) h
  | claimNextOpenReplicationJob =>
    exact isRunOf_onReplication (fun _ hr => WorkQueue.isRunOf_claimNextOpen hr) h
  | claimReplicationJobById =>
    exact isRunOf_onReplication (fun _ hr => WorkQueue.isRunOf_claimById hr) h
  | _ => exact absurd h (by simp [exec])

end StoreCall

/-! ### Leases are exclusive -/

/-- A history of the callers of the store. -/
abbrev CallerHistory (ι : Type) : Type :=
  List (Event ι CoordinatorDb (Option (QueueKind × Lease)) CallerAction Empty)

/-- A lease a call uses up in a queue is the one its caller holds. -/
theorem StoreCall.mem_usedIn {call : StoreCall} {kind : QueueKind} {lease : Lease} :
    lease ∈ call.usedIn kind ↔ call.used = some (kind, lease) := by
  simp only [usedIn, Option.mem_def, Option.bind_eq_some_iff, Option.ite_none_right_eq_some]
  constructor
  · rintro ⟨⟨kind', lease'⟩, hused, rfl, hlease⟩
    rwa [← Option.some.inj hlease]
  · intro hused
    exact ⟨(kind, lease), hused, rfl, rfl⟩

section

variable {ι : Type} [DecidableEq ι] {tr : CallerHistory ι}
  {c : Config ι CoordinatorDb (Option (QueueKind × Lease))}

/-- Along every history leases are exclusive, and a caller holds a run of an item. -/
theorem exclusive_and_held (h : callers.Run tr c) :
    (c.shared.maintenance.Exclusive ∧ c.shared.replication.Exclusive) ∧
      ∀ i, ∀ held ∈ c.process i, c.shared.isRunOf held.1 held.2 = true := by
  refine h.owned (I := fun _ db => db.maintenance.Exclusive ∧ db.replication.Exclusive)
    (O := fun _ db _ p => ∀ held ∈ p, db.isRunOf held.1 held.2 = true) ?_ ?_ ?_
  · rintro _ rfl
    exact ⟨⟨WorkQueue.exclusive_empty, WorkQueue.exclusive_empty⟩, fun _ _ hheld => nomatch hheld⟩
  · intro tr c i a db held _ ⟨hmaintenance, hreplication⟩ hown hact
    cases a with
    | call now call =>
      obtain ⟨hallowed, heq⟩ := Option.ite_none_right_eq_some.mp hact
      obtain ⟨rfl, rfl⟩ := Prod.mk.inj (Option.some.inj heq)
      -- What a call uses up is held, so it is a run of its item.
      have hused : ∀ kind, ∀ lease ∈ call.usedIn kind, c.shared.isRunOf kind lease = true := by
        intro kind lease hlease
        rw [StoreCall.mem_usedIn] at hlease
        rcases hallowed with hnone | hheld
        · exact absurd hnone (by simp [hlease])
        · exact hown i (kind, lease) (hheld ▸ hlease)
      obtain ⟨hstep, hstep'⟩ := call.exec_step now c.shared
      refine ⟨⟨hmaintenance.step hstep (hused .maintenance),
        hreplication.step hstep' (hused .replication)⟩, fun held hheld => ?_, fun j _ held hheld =>
        call.isRunOf_exec (hown j held hheld)⟩
      rcases Option.or_eq_some_iff.mp hheld with hgranted | ⟨-, hkept⟩
      · exact StoreCall.isRunOf_granted hgranted
      · exact call.isRunOf_exec (hown i held hkept)
    | readRuns kind lease =>
      obtain ⟨hread, heq⟩ := Option.ite_none_right_eq_some.mp hact
      obtain ⟨rfl, rfl⟩ := Prod.mk.inj (Option.some.inj heq)
      refine ⟨⟨hmaintenance, hreplication⟩, fun held hheld => ?_, fun j _ => hown j⟩
      obtain rfl := Option.some.inj hheld
      exact hread
  · exact fun {tr c b} => b.elim

/-- **Leases are exclusive**, in both queues and at every moment of every history of the
callers. -/
theorem leases_exclusive (h : callers.Run tr c) :
    c.shared.maintenance.Exclusive ∧ c.shared.replication.Exclusive :=
  (exclusive_and_held h).1

end

/-! ### A stale worker -/

/-- What an audit is about. -/
def auditSpec : ArtifactMaintenanceSpec where
  artifactKey := "artifact-1"
  taskType := .audit
  requestedBy := "artifact-maintenance-scheduler"
  targetReplicaKey := none
  targetProvider := none

/-- Worker 0 claims an audit, and is not heard of; the audit is opened again, and worker 1
claims it; then worker 0 completes it. -/
def staleCompletion : List (ℕ × CallerAction) :=
  [(0, .call 1 (.createArtifactMaintenanceTask auditSpec)),
    (0, .call 2 (.claimNextOpenArtifactMaintenanceTask none none "a" fun _ => false)),
    (1, .call 9 (.expireStaleArtifactMaintenanceTaskRuns none 5 fun _ => false)),
    (1, .call 10 (.claimArtifactMaintenanceTaskById (some "7") 1 "b")),
    (0, .call 11 (.completeArtifactMaintenanceTask ⟨1, 1⟩ "result-a" none none))]

/-- The history this makes. -/
def playCallers (moves : List (ℕ × CallerAction)) :
    Option (CallerHistory ℕ × Config ℕ CoordinatorDb (Option (QueueKind × Lease))) :=
  callers.play moves ⟨.empty, fun _ => none⟩

theorem staleCompletion_possible : (playCallers staleCompletion).isSome := by decide

theorem leases_exclusive_staleCompletion :
    ((playCallers staleCompletion).get staleCompletion_possible).2.shared.maintenance.Exclusive ∧
      ((playCallers staleCompletion).get staleCompletion_possible).2.shared.replication.Exclusive :=
  leases_exclusive (Processes.run_play rfl staleCompletion_possible)

end ScientificProtocol.Coordinator
