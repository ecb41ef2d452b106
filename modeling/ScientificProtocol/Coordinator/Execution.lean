import ScientificProtocol.Coordinator.Store
import ScientificProtocol.System.World

/-!
# Executions of replication jobs

A replication job is executed by a worker that has claimed it
(`processReplicationJob` of `src/workers/replication-worker.ts`) or by a post of the agent
it is assigned to (the submission route of `src/api/routes/agents.ts`). Either hands the
result to `submitPersistedReplicationResult` of `src/coordinator/execution.ts`, which sends
a transaction to the replication registry and waits for it, and then completes the job; if
anything throws, it fails the job. The post reads the job first, and then the run it names,
which must be running.

Nothing ties the two commits together, so an execution may crash between them, and the
transaction it has sent is executed all the same, or is never executed. Every number of
executions may be under way, with any other calls of the store and any other transactions
in between.
-/

namespace ScientificProtocol.Coordinator

open Evm Concurrency

/-! ### What is submitted -/

/-- What an execution knows of the job it submits for. -/
structure SubmissionTask where
  lease : Lease
  claimId : String
  assignedAgentId : Option String
  workerId : String
  deriving DecidableEq

/-- A transaction that submits a replication. -/
structure SubmissionTx where
  submitter : Address
  claimId : ℕ
  environmentHash : Bytes32
  resultHash : Bytes32
  agentId : ℕ
  reply : ModuleReply

def SubmissionTx.message (tx : SubmissionTx) : Message where
  sender := tx.submitter
  value := 0
  reply := tx.reply
  target := .replicationRegistry
    (.submitReplication tx.claimId tx.environmentHash tx.resultHash tx.resultHash tx.agentId)

/-- Who submits, and the hash of the claim, the run and the worker. -/
structure Submitter where
  address : Address
  environmentHash : String → ℕ → String → Bytes32

/-- The transaction for a task; `BigInt` may throw. -/
def SubmissionTask.tx (submitter : Submitter) (task : SubmissionTask) (resultHash : Bytes32)
    (reply : ModuleReply) : Option SubmissionTx := do
  let claimId ← Js.bigInt task.claimId
  let agentId ← Js.bigInt (task.assignedAgentId.getD "0")
  return {
    submitter := submitter.address, claimId, resultHash, agentId, reply
    environmentHash :=
      submitter.environmentHash task.claimId task.lease.runId task.workerId }

/-! ### Executions -/

/-- What has become of the transaction of an execution. -/
inductive TxFate where
  | unsent
  | inFlight (tx : SubmissionTx)
  | submitted (replicationId : ℕ)
  /-- It has been reverted, or dropped. -/
  | lost

/-- How an execution stands to its job. -/
inductive ExecutionStage where
  | trying
  /-- Something has thrown, and it is going to fail the job. -/
  | failing
  /-- It has completed or failed the job, or has crashed. -/
  | over
  deriving DecidableEq, Repr

/-- Where an execution is. -/
inductive Execution where
  | idle
  /-- A post has read the job. -/
  | asked (jobId : ℕ) (agentId : String) (runId : ℕ) (claimId : String)
  | underWay (task : SubmissionTask) (stage : ExecutionStage) (fate : TxFate)

/-- What the executions share. -/
structure SubmissionSite where
  db : CoordinatorDb
  chain : Evm.Config World Suspended
  /-- What has been submitted on behalf of which job, as pairs of the job and the
  replication. -/
  submitted : List (ℕ × ℕ)

/-- The replications that have been submitted on behalf of a job. -/
def SubmissionSite.submittedFor (s : SubmissionSite) (jobId : ℕ) : List (ℕ × ℕ) :=
  s.submitted.filter fun entry => decide (entry.1 = jobId)

/-- What happens next. -/
inductive ExecutionAction where
  /-- Somebody calls the store, but for completing or failing something. -/
  | call (now : Time) (call : StoreCall)
  /-- A worker claims a job, and reads it. -/
  | claim (now : Time) (agentId : Option String) (workerId : String) (jobId : Option ℕ)
      (locked : ℕ → Bool)
  /-- A post of an agent, with the run it names: the job is read. -/
  | readJob (jobId : ℕ) (agentId : String) (runId : ℕ)
  /-- The post reads the run. -/
  | readRun
  | send (resultHash : Bytes32) (reply : ModuleReply)
  /-- The chain executes the transaction. -/
  | mine
  /-- The transaction is dropped. -/
  | drop
  | throw
  | complete (now : Time) (input : ReplicationJobCompletion)
  | fail (now : Time) (failureReason : String) (requestId : Option String)
  | crash

/-- The claim a worker makes. -/
def claimCall (agentId : Option String) (workerId : String) (locked : ℕ → Bool) :
    Option ℕ → StoreCall
  | some jobId => .claimReplicationJobById agentId jobId workerId
  | none => .claimNextOpenReplicationJob agentId workerId locked

section

variable (D : Deployment) (submitter : Submitter)

/-- The chain executes a transaction, between two others. -/
def mineTx (task : SubmissionTask) (stage : ExecutionStage) (tx : SubmissionTx)
    (s : SubmissionSite) : Option (SubmissionSite × Execution) :=
  match s.chain.frames, World.exec D tx.message s.chain.world with
  | [], .ok (.done w) =>
    let replicationId := s.chain.world.replicationRegistry.nextReplicationId
    some ({ s with
        chain := ⟨w, []⟩
        submitted := s.submitted ++ [(task.lease.itemId, replicationId)] },
      .underWay task stage (.submitted replicationId))
  | [], .error _ => some (s, .underWay task stage .lost)
  | _, _ => none

/-- **One action of an execution.** -/
def executionAct : ExecutionAction → SubmissionSite → Execution →
    Option (SubmissionSite × Execution)
  | .call now call, s, e =>
    if call.used = none then some ({ s with db := (call.exec now s.db).1 }, e) else none
  | .claim now agentId workerId jobId locked, s, .idle =>
    match (claimCall agentId workerId locked jobId).exec now s.db with
    | (db, some (_, lease)) => (db.replication.items lease.itemId).map fun job =>
      ({ s with db }, .underWay
        { lease, claimId := job.spec.claimId, assignedAgentId := job.assignedAgentId.or agentId,
          workerId } .trying .unsent)
    | (_, none) => none
  | .readJob jobId agentId runId, s, .idle =>
    (s.db.replication.items jobId).bind fun job =>
      if job.assignedAgentId = some agentId then
        some (s, .asked jobId agentId runId job.spec.claimId)
      else none
  | .readRun, s, .asked jobId agentId runId claimId =>
    (s.db.replication.runs runId).bind fun run =>
      if run.itemId = jobId ∧ run.status = .running ∧ run.agentId = some agentId then
        some (s, .underWay
          { lease := ⟨jobId, runId⟩, claimId, assignedAgentId := some agentId,
            workerId := run.workerId } .trying .unsent)
      else none
  | .send resultHash reply, s, .underWay task .trying .unsent =>
    match task.tx submitter resultHash reply with
    | some tx => some (s, .underWay task .trying (.inFlight tx))
    | none => some (s, .underWay task .failing .unsent)
  -- The transaction of an execution that is over is executed all the same.
  | .mine, s, .underWay task stage (.inFlight tx) => mineTx D task stage tx s
  | .drop, s, .underWay task stage (.inFlight _) => some (s, .underWay task stage .lost)
  | .throw, s, .underWay task .trying fate => some (s, .underWay task .failing fate)
  | .complete now input, s, .underWay task .trying (.submitted replicationId) =>
    some ({ s with db := ((StoreCall.completeReplicationJob task.lease input).exec now s.db).1 },
      .underWay task .over (.submitted replicationId))
  | .fail now failureReason requestId, s, .underWay task .failing fate =>
    some ({ s with
        db := ((StoreCall.failReplicationJob task.lease failureReason requestId).exec now s.db).1 },
      .underWay task .over fate)
  | .crash, s, .underWay task _ fate => some (s, .underWay task .over fate)
  | _, _, _ => none

/-- What others do on the chain. -/
inductive SubmissionEnvStep :
    Evm.Action Message Suspended → SubmissionSite → SubmissionSite → Prop
  | chain {s : SubmissionSite} {a : Evm.Action Message Suspended}
      {c : Evm.Config World Suspended} : (protocol D).Forward s.chain a c →
      SubmissionEnvStep a s { s with chain := c }

/-- **The executions of replication jobs**, on any chain that can be observed. -/
def executions :
    Processes SubmissionSite Execution ExecutionAction (Evm.Action Message Suspended) where
  genesis s := (protocol D).Reachable s.chain ∧ s.db = .empty ∧ s.submitted = []
  idle := .idle
  act := executionAct D submitter
  env := SubmissionEnvStep D

end

/-- One step of a history of executions. -/
abbrev ExecutionEvent (ι : Type) : Type :=
  Concurrency.Event ι SubmissionSite Execution ExecutionAction (Evm.Action Message Suspended)

/-! ### What an action does -/

namespace Execution

/-- The lease an execution is engaged in: until it is over, and still then if it has
submitted a replication or has left a transaction behind. -/
def engaged : Execution → Option Lease
  | .idle | .asked _ _ _ _ => none
  | .underWay _ .over .unsent | .underWay _ .over .lost => none
  | .underWay task _ _ => some task.lease

def isOver : Execution → Bool
  | .underWay _ .over _ => true
  | _ => false

/-- The job an execution has submitted a replication for, and the replication. -/
def submission : Execution → Option (ℕ × ℕ)
  | .underWay task _ (.submitted replicationId) => some (task.lease.itemId, replicationId)
  | _ => none

/-- Who has submitted something is engaged. -/
theorem engaged_of_submission {e : Execution} {entry : ℕ × ℕ} (h : e.submission = some entry) :
    ∃ lease, e.engaged = some lease ∧ lease.itemId = entry.1 := by
  unfold submission at h
  split at h
  next task stage replicationId =>
    obtain rfl := Option.some.inj h
    cases stage <;> exact ⟨task.lease, rfl, rfl⟩
  next => exact absurd h (by simp)

end Execution

/-- **What an action of an execution does**, to the queue of jobs, to what has been
submitted, and to the execution. -/
inductive ExecutionEffect (s : SubmissionSite) :
    Execution → ExecutionAction → SubmissionSite → Execution → Prop
  | call {e : Execution} {now : Time} {call : StoreCall} : call.used = none →
      ExecutionEffect s e (.call now call) { s with db := (call.exec now s.db).1 } e
  /-- A worker is engaged in what it has claimed. -/
  | claim {e e' : Execution} {a : ExecutionAction} {now : Time} {call : StoreCall}
      {lease : Lease} : call.used = none → call.expiredIn s.db .replication = [] →
      (∃ item, s.db.replication.items lease.itemId = some item ∧ item.status = .«open») →
      (call.exec now s.db).1.replication.holds lease = true →
      e.submission = none → e'.engaged = some lease →
      ExecutionEffect s e a { s with db := (call.exec now s.db).1 } e'
  /-- A post is engaged in a run that is running. -/
  | admitted {jobId runId : ℕ} {agentId claimId : String} {e' : Execution} {run : WorkRun
      ReplicationJobRunResult} : s.db.replication.runs runId = some run → run.itemId = jobId →
      run.status = .running → e'.engaged = some ⟨jobId, runId⟩ →
      ExecutionEffect s (.asked jobId agentId runId claimId) .readRun s e'
  /-- It goes on, or gives up. -/
  | work {e e' : Execution} {a : ExecutionAction} :
      (∀ lease, e'.engaged = some lease → e.engaged = some lease ∧ (e.isOver → e'.isOver)) →
      (∀ entry, e.submission = some entry → e'.submission = some entry) →
      ExecutionEffect s e a s e'
  /-- Its transaction is executed. -/
  | submit {e e' : Execution} {a : ExecutionAction} {c : Evm.Config World Suspended}
      {entry : ℕ × ℕ} {lease : Lease} : e.submission = none → e.engaged = some lease →
      e'.engaged = some lease → e'.isOver = e.isOver → e'.submission = some entry →
      lease.itemId = entry.1 →
      ExecutionEffect s e a { s with chain := c, submitted := s.submitted ++ [entry] } e'
  /-- It completes or fails its job. -/
  | close {e e' : Execution} {a : ExecutionAction} {now : Time} {call : StoreCall}
      {lease : Lease} : call.used = some (.replication, lease) →
      e.engaged = some lease → e.isOver = false → e'.isOver = true →
      (∀ lease', e'.engaged = some lease' → lease' = lease) →
      (∀ entry, e.submission = some entry → e'.submission = some entry) →
      ExecutionEffect s e a { s with db := (call.exec now s.db).1 } e'

/-- What is claimed was open, and is held. -/
theorem claimCall_granted {now : Time} {db db' : CoordinatorDb} {agentId : Option String}
    {workerId : String} {locked : ℕ → Bool} {jobId : Option ℕ} {kind : QueueKind} {lease : Lease}
    (h : (claimCall agentId workerId locked jobId).exec now db = (db', some (kind, lease))) :
    (∃ item, db.replication.items lease.itemId = some item ∧ item.status = .«open») ∧
      db'.replication.holds lease = true := by
  have hassign : ∀ {r : Option (Lease × ReplicationQueue)},
      (∀ granted ∈ r, ∃ itemId item, db.replication.items itemId = some item ∧
        item.status = .«open» ∧
        granted = db.replication.assign now itemId workerId agentId default) →
      StoreCall.onReplication db r = (db', some (kind, lease)) →
      (∃ item, db.replication.items lease.itemId = some item ∧ item.status = .«open») ∧
        db'.replication.holds lease = true := by
    intro r hr heq
    rcases r with _ | granted
    · exact absurd heq (by simp [StoreCall.onReplication])
    · obtain ⟨itemId, item, hitem, hopen, rfl⟩ := hr granted rfl
      obtain ⟨rfl, hlease⟩ := Prod.mk.inj heq
      obtain ⟨-, rfl⟩ := Prod.mk.inj (Option.some.inj hlease)
      exact ⟨⟨item, hitem, hopen⟩, WorkQueue.holds_assign hitem⟩
  cases jobId with
  | none => exact hassign (fun _ hgranted => WorkQueue.claimNextOpen_eq_some hgranted) h
  | some jobId =>
    refine hassign (fun _ hgranted => ?_) h
    obtain ⟨item, hitem, hopen, rfl⟩ := WorkQueue.claimById_eq_some hgranted
    exact ⟨jobId, item, hitem, hopen, rfl⟩

theorem used_claimCall {agentId : Option String} {workerId : String} {locked : ℕ → Bool}
    {jobId : Option ℕ} : (claimCall agentId workerId locked jobId).used = none := by
  cases jobId <;> rfl

theorem expiredIn_claimCall {db : CoordinatorDb} {agentId : Option String} {workerId : String}
    {locked : ℕ → Bool} {jobId : Option ℕ} :
    (claimCall agentId workerId locked jobId).expiredIn db .replication = [] := by
  cases jobId <;> rfl

section

variable {D : Deployment} {submitter : Submitter} {s s' : SubmissionSite} {e e' : Execution}

/-- What has been submitted does not depend on the stage. -/
theorem submission_stage {task : SubmissionTask} {stage stage' : ExecutionStage} {fate : TxFate} :
    (Execution.underWay task stage fate).submission =
      (Execution.underWay task stage' fate).submission := by
  cases fate <;> rfl

/-- A transaction is lost. -/
theorem effect_lost {task : SubmissionTask} {stage : ExecutionStage} {tx : SubmissionTx}
    {a : ExecutionAction} : ExecutionEffect s (.underWay task stage (.inFlight tx)) a s
      (.underWay task stage .lost) := by
  refine .work (fun lease hlease => ?_) fun _ hentry => absurd hentry nofun
  cases stage with
  | «over» => exact absurd hlease nofun
  | trying | failing => exact ⟨hlease, fun h => h⟩

theorem effect_of_mineTx {task : SubmissionTask} {stage : ExecutionStage} {tx : SubmissionTx}
    {a : ExecutionAction} (h : mineTx D task stage tx s = some (s', e')) :
    ExecutionEffect s (.underWay task stage (.inFlight tx)) a s' e' := by
  unfold mineTx at h
  split at h
  · obtain ⟨rfl, rfl⟩ := Prod.mk.inj (Option.some.inj h)
    cases stage <;> exact .submit rfl rfl rfl rfl rfl rfl
  · obtain ⟨rfl, rfl⟩ := Prod.mk.inj (Option.some.inj h)
    exact effect_lost
  · exact absurd h (by simp)

/-- **Every action of an execution has one of the effects above.** -/
theorem effect_of_act {a : ExecutionAction} (h : executionAct D submitter a s e = some (s', e')) :
    ExecutionEffect s e a s' e' := by
  unfold executionAct at h
  split at h
  · obtain ⟨hused, heq⟩ := Option.ite_none_right_eq_some.mp h
    obtain ⟨rfl, rfl⟩ := Prod.mk.inj (Option.some.inj heq)
    exact .call hused
  next now agentId workerId jobId locked =>
    split at h
    next db kind lease hexec =>
      obtain ⟨job, -, heq⟩ := Option.map_eq_some_iff.mp h
      obtain ⟨rfl, rfl⟩ := Prod.mk.inj heq
      obtain ⟨hopen, hheld⟩ := claimCall_granted hexec
      obtain rfl : ((claimCall agentId workerId locked jobId).exec now s.db).1 = db :=
        congrArg Prod.fst hexec
      exact .claim used_claimCall expiredIn_claimCall hopen hheld rfl rfl
    next => exact absurd h (by simp)
  · obtain ⟨job, -, heq⟩ := Option.bind_eq_some_iff.mp h
    obtain ⟨-, heq⟩ := Option.ite_none_right_eq_some.mp heq
    obtain ⟨rfl, rfl⟩ := Prod.mk.inj (Option.some.inj heq)
    exact .work (fun _ hlease => absurd hlease nofun) fun _ hentry => absurd hentry nofun
  · obtain ⟨run, hrun, heq⟩ := Option.bind_eq_some_iff.mp h
    obtain ⟨⟨hitem, hrunning, -⟩, heq⟩ := Option.ite_none_right_eq_some.mp heq
    obtain ⟨rfl, rfl⟩ := Prod.mk.inj (Option.some.inj heq)
    exact .admitted hrun hitem hrunning rfl
  · split at h
    · obtain ⟨rfl, rfl⟩ := Prod.mk.inj (Option.some.inj h)
      exact .work (fun _ hlease => ⟨hlease, fun h => h⟩) fun _ hentry => absurd hentry nofun
    · obtain ⟨rfl, rfl⟩ := Prod.mk.inj (Option.some.inj h)
      exact .work (fun _ hlease => ⟨hlease, fun h => h⟩) fun _ hentry => absurd hentry nofun
  · exact effect_of_mineTx h
  next task stage tx =>
    obtain ⟨rfl, rfl⟩ := Prod.mk.inj (Option.some.inj h)
    exact effect_lost
  next task fate =>
    obtain ⟨rfl, rfl⟩ := Prod.mk.inj (Option.some.inj h)
    refine .work (fun lease hlease => ⟨?_, fun h => h⟩) fun _ hentry =>
      submission_stage.trans hentry
    cases fate <;> exact hlease
  next now input task replicationId =>
    obtain ⟨rfl, rfl⟩ := Prod.mk.inj (Option.some.inj h)
    exact .close rfl rfl rfl rfl (fun _ hlease => (Option.some.inj hlease).symm)
      fun _ hentry => hentry
  next now failureReason requestId task fate =>
    obtain ⟨rfl, rfl⟩ := Prod.mk.inj (Option.some.inj h)
    refine .close rfl ?_ rfl rfl (fun lease' hlease => ?_) fun _ hentry =>
      submission_stage.trans hentry
    · cases fate <;> rfl
    cases fate with
    | unsent | lost => exact absurd hlease nofun
    | inFlight | submitted => exact (Option.some.inj hlease).symm
  next task stage fate =>
    obtain ⟨rfl, rfl⟩ := Prod.mk.inj (Option.some.inj h)
    refine .work (fun lease hlease => ⟨?_, fun _ => rfl⟩) fun _ hentry =>
      submission_stage.trans hentry
    cases fate with
    | unsent | lost => exact absurd hlease nofun
    | inFlight | submitted => cases stage <;> exact hlease
  · exact absurd h (by simp)

end

end ScientificProtocol.Coordinator
