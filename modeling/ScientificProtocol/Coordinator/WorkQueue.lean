import ScientificProtocol.Js.Text
import ScientificProtocol.Sql.Table

/-!
# Queues of leased work

What the two work queues of `src/coordinator/store.ts` have in common: items of work, and
runs at them. An item is open, or assigned to a worker, or completed, or failed; claiming
an open item starts a run, and the run is the lease of its worker, which a heartbeat keeps
alive and which expires without one. The functions of the store write an item and a run in
one transaction, so each of them is one step here. Rows that other transactions have
locked are skipped where the source skips them, and which these are is not ours to say.

The columns the two queues do not share are parameters: `σ` for what an item is about,
`δ` for what completing it stores with the item, and `ρ` for what it stores with the run.
-/

namespace ScientificProtocol.Coordinator

/-- A time stamp of the database. -/
abbrev Time : Type := ℕ

/-- `ReplicationJobStatus` and `ArtifactMaintenanceTaskStatus`. -/
inductive WorkStatus where
  | assigned
  | completed
  | failed
  | «open»
  deriving DecidableEq, Repr

/-- `ReplicationJobRunStatus` and `ArtifactMaintenanceTaskRunStatus`. -/
inductive RunStatus where
  | completed
  | failed
  | running
  deriving DecidableEq, Repr

/-- A row of `replication_jobs` or of `artifact_maintenance_tasks`. -/
structure WorkItem (σ δ : Type) where
  spec : σ
  status : WorkStatus
  assignedWorker : Option String
  assignedAgentId : Option String
  assignedAt : Option Time
  failureReason : Option String
  completedAt : Option Time
  updatedAt : Time
  result : δ
  deriving DecidableEq

/-- A row of `replication_job_runs` or of `artifact_maintenance_task_runs`. -/
structure WorkRun (ρ : Type) where
  /-- `job_id` or `task_id`. -/
  itemId : ℕ
  workerId : String
  agentId : Option String
  status : RunStatus
  failureReason : Option String
  startedAt : Time
  lastHeartbeatAt : Option Time
  finishedAt : Option Time
  result : ρ
  deriving DecidableEq

/-! ### What a statement writes into a row -/

namespace WorkItem

variable {σ δ : Type} (now : Time) (item : WorkItem σ δ)

def assign (workerId : String) (agentId : Option String) : WorkItem σ δ :=
  { item with
    status := .assigned, assignedWorker := some workerId, assignedAgentId := agentId
    assignedAt := some now, updatedAt := now }

def complete (setResult : δ → δ) : WorkItem σ δ :=
  { item with
    status := .completed, completedAt := some now, updatedAt := now
    result := setResult item.result }

def fail (failureReason : String) (setResult : δ → δ) : WorkItem σ δ :=
  { item with
    status := .failed, failureReason := some (Js.slice 2000 failureReason), updatedAt := now
    result := setResult item.result }

def touch : WorkItem σ δ := { item with updatedAt := now }

def reopen : WorkItem σ δ :=
  { item with
    status := .«open», assignedWorker := none, assignedAgentId := none, assignedAt := none
    updatedAt := now }

end WorkItem

namespace WorkRun

variable {ρ : Type} (now : Time) (run : WorkRun ρ)

/-- `COALESCE(last_heartbeat_at, started_at)`. -/
def seenAt : Time := run.lastHeartbeatAt.getD run.startedAt

def complete (setResult : ρ → ρ) : WorkRun ρ :=
  { run with status := .completed, finishedAt := some now, result := setResult run.result }

def fail (failureReason : String) (setResult : ρ → ρ) : WorkRun ρ :=
  { run with
    status := .failed, failureReason := some (Js.slice 2000 failureReason)
    finishedAt := some now, result := setResult run.result }

def beat : WorkRun ρ := { run with lastHeartbeatAt := some now }

def expire : WorkRun ρ :=
  { run with
    status := .failed, failureReason := some "heartbeat_timeout", finishedAt := some now }

end WorkRun

/-! ### The two tables of a queue -/

/-- What a worker holds: an item, and its run at it. -/
structure Lease where
  itemId : ℕ
  runId : ℕ
  deriving DecidableEq

/-- The two tables of a queue. -/
structure WorkQueue (σ δ ρ : Type) where
  items : Sql.Serial (WorkItem σ δ)
  runs : Sql.Serial (WorkRun ρ)

namespace WorkQueue

variable {σ δ ρ : Type}

/-- The queue as it is set up. -/
def empty : WorkQueue σ δ ρ := ⟨.empty, .empty⟩

variable (now : Time) (q : WorkQueue σ δ ρ)

/-- A new item is open. -/
def create (spec : σ) (result : δ) : WorkQueue σ δ ρ :=
  { q with
    items := q.items.insert
      { spec, status := .«open», assignedWorker := none, assignedAgentId := none
        assignedAt := none, failureReason := none, completedAt := none, updatedAt := now, result } }

/-- Assigning an item to a worker, and the run that begins. -/
def assign (itemId : ℕ) (workerId : String) (agentId : Option String) (result : ρ) :
    Lease × WorkQueue σ δ ρ :=
  (⟨itemId, q.runs.next⟩,
    { items := q.items.update itemId fun item => item.assign now workerId agentId
      runs := q.runs.insert
        { itemId, workerId, agentId, status := .running, failureReason := none
          startedAt := now, lastHeartbeatAt := some now, finishedAt := none, result } })

/-- Claiming the first open item, of those that are wanted and not locked. -/
def claimNextOpen (wanted : σ → Bool) (locked : ℕ → Bool) (workerId : String)
    (agentId : Option String) (result : ρ) : Option (Lease × WorkQueue σ δ ρ) :=
  match q.items.select fun itemId item =>
    decide (item.status = .«open») && wanted item.spec && !locked itemId with
  | [] => none
  | (itemId, _) :: _ => some (q.assign now itemId workerId agentId result)

/-- Claiming an item, if it is open. -/
def claimById (itemId : ℕ) (workerId : String) (agentId : Option String) (result : ρ) :
    Option (Lease × WorkQueue σ δ ρ) :=
  match q.items itemId with
  | some item =>
    if item.status = .«open» then some (q.assign now itemId workerId agentId result) else none
  | none => none

/-- Completing an item with a run. Neither is looked at first. -/
def complete (lease : Lease) (setResult : δ → δ) (setRunResult : ρ → ρ) : WorkQueue σ δ ρ where
  items := q.items.update lease.itemId fun item => item.complete now setResult
  runs := q.runs.update lease.runId fun run => run.complete now setRunResult

/-- Failing an item with a run. Neither is looked at first. -/
def fail (lease : Lease) (failureReason : String) (setResult : δ → δ) (setRunResult : ρ → ρ) :
    WorkQueue σ δ ρ where
  items := q.items.update lease.itemId fun item => item.fail now failureReason setResult
  runs := q.runs.update lease.runId fun run => run.fail now failureReason setRunResult

/-- The run of a lease is a run of its item. -/
def isRunOf (lease : Lease) : Bool :=
  (q.runs lease.runId).any fun run => decide (run.itemId = lease.itemId)

/-- The run of a lease is running, and its item assigned. -/
def holds (lease : Lease) : Bool :=
  (q.runs lease.runId).any fun run =>
    decide (run.itemId = lease.itemId ∧ run.status = .running) &&
      (q.items lease.itemId).any fun item => decide (item.status = .assigned)

/-- A heartbeat, from the agent and the worker of the run where these are named. -/
def heartbeat (lease : Lease) (agentId workerId : Option String) : Option (WorkQueue σ δ ρ) :=
  if q.holds lease ∧ (q.runs lease.runId).any fun run =>
      (agentId.isNone || decide (run.agentId = agentId)) &&
        (workerId.isNone || decide (some run.workerId = workerId)) then
    some
      { items := q.items.update lease.itemId fun item => item.touch now
        runs := q.runs.update lease.runId fun run => run.beat now }
  else none

/-- The runs that have not been heard of since a time, the oldest first. -/
def staleRuns (locked : ℕ → Bool) (limit : Option ℕ) (staleBefore : Time) :
    List (ℕ × WorkRun ρ) :=
  ((q.runs.select fun runId run =>
    q.holds ⟨run.itemId, runId⟩ && decide (run.seenAt < staleBefore) && !locked runId).mergeSort
      fun a b => decide (a.2.seenAt ≤ b.2.seenAt)).take (max 1 (min (limit.getD 50) 200))

/-- A stale run fails, and its item is open again. -/
def expireRun (stale : ℕ × WorkRun ρ) : WorkQueue σ δ ρ where
  items := q.items.update stale.2.itemId fun item => item.reopen now
  runs := q.runs.update stale.1 fun run => run.expire now

def expireStaleRuns (locked : ℕ → Bool) (limit : Option ℕ) (staleBefore : Time) :
    WorkQueue σ δ ρ :=
  (q.staleRuns locked limit staleBefore).foldl (expireRun now) q

/-! ### What a step does -/

variable {now} {q} {q' : WorkQueue σ δ ρ}

theorem isRunOf_iff {lease : Lease} : q.isRunOf lease = true ↔
    ∃ run, q.runs lease.runId = some run ∧ run.itemId = lease.itemId := by
  simp only [isRunOf, Option.any_eq_true, decide_eq_true_eq]

theorem isRunOf_assign {itemId : ℕ} {workerId : String} {agentId : Option String} {result : ρ} :
    (q.assign now itemId workerId agentId result).2.isRunOf
      (q.assign now itemId workerId agentId result).1 = true :=
  isRunOf_iff.mpr ⟨_, Sql.Serial.insert_self _ _, rfl⟩

/-- **A lease is held exactly if** its run is running at its item, and the item is
assigned. -/
theorem holds_iff {lease : Lease} : q.holds lease = true ↔
    ∃ run item, q.runs lease.runId = some run ∧ run.itemId = lease.itemId ∧
      run.status = .running ∧ q.items lease.itemId = some item ∧ item.status = .assigned := by
  simp only [holds, Option.any_eq_true, Bool.and_eq_true, decide_eq_true_eq]
  constructor
  · rintro ⟨run, hrun, ⟨hitem, hrunning⟩, item, hrow, hassigned⟩
    exact ⟨run, item, hrun, hitem, hrunning, hrow, hassigned⟩
  · rintro ⟨run, item, hrun, hitem, hrunning, hrow, hassigned⟩
    exact ⟨run, hrun, ⟨hitem, hrunning⟩, item, hrow, hassigned⟩

/-- What is assigned is held. -/
theorem holds_assign {itemId : ℕ} {item : WorkItem σ δ} (hitem : q.items itemId = some item)
    {workerId : String} {agentId : Option String} {result : ρ} :
    (q.assign now itemId workerId agentId result).2.holds
      (q.assign now itemId workerId agentId result).1 = true := by
  refine holds_iff.mpr ⟨_, item.assign now workerId agentId, Sql.Serial.insert_self _ _, rfl, rfl,
    ?_, rfl⟩
  rw [assign, Sql.Serial.update_self, hitem, Option.map_some]

/-- A stale run is a run of the queue, and holds its item. -/
theorem holds_of_mem_staleRuns {locked : ℕ → Bool} {limit : Option ℕ} {staleBefore : Time}
    {stale : ℕ × WorkRun ρ} (h : stale ∈ q.staleRuns locked limit staleBefore) :
    q.runs stale.1 = some stale.2 ∧ q.holds ⟨stale.2.itemId, stale.1⟩ = true := by
  have hselect := List.mem_mergeSort.mp (List.mem_of_mem_take h)
  obtain ⟨hrow, hstale⟩ := Sql.Serial.mem_select.mp hselect
  simp only [Bool.and_eq_true] at hstale
  exact ⟨hrow, hstale.1.1⟩

/-- Every stale run is listed once. -/
theorem nodup_staleRuns (locked : ℕ → Bool) (limit : Option ℕ) (staleBefore : Time) :
    ((q.staleRuns locked limit staleBefore).map Prod.fst).Nodup := by
  refine List.Nodup.sublist ((List.take_sublist _ _).map Prod.fst) ?_
  exact ((List.mergeSort_perm _ _).map Prod.fst).nodup_iff.mpr (Sql.Serial.nodup_select _)

theorem heartbeat_eq_some {lease : Lease} {agentId workerId : Option String}
    (h : q.heartbeat now lease agentId workerId = some q') : q.holds lease = true ∧
      q' = { items := q.items.update lease.itemId fun item => item.touch now
             runs := q.runs.update lease.runId fun run => run.beat now } := by
  obtain ⟨⟨hholds, -⟩, heq⟩ := Option.ite_none_right_eq_some.mp h
  exact ⟨hholds, (Option.some.inj heq).symm⟩

/-- A claim that succeeds assigns an open item. -/
theorem claimNextOpen_eq_some {wanted : σ → Bool} {locked : ℕ → Bool} {workerId : String}
    {agentId : Option String} {result : ρ} {granted : Lease × WorkQueue σ δ ρ}
    (h : q.claimNextOpen now wanted locked workerId agentId result = some granted) :
    ∃ itemId item, q.items itemId = some item ∧ item.status = .«open» ∧
      granted = q.assign now itemId workerId agentId result := by
  unfold claimNextOpen at h
  split at h
  · exact absurd h (by simp)
  · next itemId item _ hselect =>
    have hmem := Sql.Serial.mem_select.mp (hselect ▸ List.mem_cons_self)
    simp only [Bool.and_eq_true, decide_eq_true_eq] at hmem
    exact ⟨itemId, item, hmem.1, hmem.2.1.1, (Option.some.inj h).symm⟩

theorem claimById_eq_some {itemId : ℕ} {workerId : String} {agentId : Option String} {result : ρ}
    {granted : Lease × WorkQueue σ δ ρ}
    (h : q.claimById now itemId workerId agentId result = some granted) :
    ∃ item, q.items itemId = some item ∧ item.status = .«open» ∧
      granted = q.assign now itemId workerId agentId result := by
  unfold claimById at h
  split at h
  · next item hrow =>
    obtain ⟨hopen, hgranted⟩ := Option.ite_none_right_eq_some.mp h
    exact ⟨item, hrow, hopen, (Option.some.inj hgranted).symm⟩
  · exact absurd h (by simp)

section

variable {workerId : String} {agentId : Option String} {result : ρ}
  {granted : Lease × WorkQueue σ δ ρ}

/-- What a claim grants is a run of its item. -/
theorem isRunOf_claimNextOpen {wanted : σ → Bool} {locked : ℕ → Bool}
    (h : q.claimNextOpen now wanted locked workerId agentId result = some granted) :
    granted.2.isRunOf granted.1 = true := by
  obtain ⟨itemId, -, -, -, rfl⟩ := claimNextOpen_eq_some h
  exact isRunOf_assign

theorem isRunOf_claimById {itemId : ℕ}
    (h : q.claimById now itemId workerId agentId result = some granted) :
    granted.2.isRunOf granted.1 = true := by
  obtain ⟨-, -, -, rfl⟩ := claimById_eq_some h
  exact isRunOf_assign

end

end WorkQueue

end ScientificProtocol.Coordinator
