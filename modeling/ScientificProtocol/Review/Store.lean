import Mathlib.Data.Rat.Floor
import Mathlib.Logic.Relation
import ScientificProtocol.RewardPolicy.ReadModel
import ScientificProtocol.Sql.Table

/-!
# The review store

`src/review/store.ts`: review tasks, the runs of the workers that claim them, and the
submissions they end in. A task takes submissions until its policy has enough of them, and
several workers may be at it at once, so a run is not a lease of the task as the runs of
`src/coordinator/store.ts` are: who may start one is decided by counting rows.

Every function of the store is one transaction, which holds the lock of the row of the
task where it counts, so each of them is one step here. A transaction that throws is
rolled back. Rows that other transactions have locked are skipped where the source skips
them, and which these are is not ours to say.

| function | what it looks at first |
|---|---|
| `claimReviewTaskById` | the task is open, and has room for one more submission |
| `heartbeatReviewTaskRun` | the run is running, and the task open |
| `expireStaleReviewTaskRuns` | the run is running, the task open, and the run stale |
| `recordReviewSubmission` | the run is running |
| `failReviewTaskRun` | nothing |

What a transaction may do to the rows is said once (`ScientificProtocol.Review.Step`), and
every function does that (`ScientificProtocol.Review.exec_steps`).
-/

namespace ScientificProtocol.Review

open RewardPolicy (ReviewTaskType ReviewTaskStatus)

/-- A time stamp of the database. -/
abbrev Time : Type := ℕ

/-! ### Policies -/

/-- A policy as it is handed in, or stored: what is not a number is none. -/
structure PolicyInput where
  minSubmissions : Option ℚ
  maxSubmissions : Option ℚ
  requireDistinctAgents : Option Bool
  deriving DecidableEq

/-- A policy that has been normalized. -/
structure ReviewConsensusPolicy where
  maxSubmissions : ℕ
  minSubmissions : ℕ
  requireDistinctAgents : Bool
  min_pos : 1 ≤ minSubmissions
  min_le_max : minSubmissions ≤ maxSubmissions
  deriving DecidableEq

/-- `clampInteger`, for bounds that are not negative. -/
def clampInteger (input : Option ℚ) (minimum maximum fallback : ℕ) : ℕ :=
  match input with
  | none => fallback
  | some value => max minimum (min maximum ⌊value⌋.toNat)

theorem le_clampInteger {input : Option ℚ} {minimum maximum fallback : ℕ}
    (h : minimum ≤ fallback) : minimum ≤ clampInteger input minimum maximum fallback := by
  cases input with
  | none => exact h
  | some value => exact Nat.le_max_left _ _

/-- `normalizeConsensusPolicy`, with `DEFAULT_CONSENSUS_POLICY` for what is missing. -/
def normalizeConsensusPolicy (raw : PolicyInput) : ReviewConsensusPolicy where
  minSubmissions := clampInteger raw.minSubmissions 1 10 1
  maxSubmissions :=
    clampInteger raw.maxSubmissions (clampInteger raw.minSubmissions 1 10 1) 10
      (max 1 (clampInteger raw.minSubmissions 1 10 1))
  requireDistinctAgents := raw.requireDistinctAgents.getD false
  min_pos := le_clampInteger (Nat.le_refl 1)
  min_le_max := le_clampInteger (Nat.le_max_right _ _)

/-! ### Rows -/

/-- `ReviewTaskRunStatus`. -/
inductive RunStatus where
  | completed
  | failed
  | running
  deriving DecidableEq, Repr

/-- What a task is about: the columns nothing changes. -/
structure TaskSpec where
  claimId : Option String
  sourceId : Option ℕ
  subjectType : String
  subjectId : String
  taskType : ReviewTaskType
  scopeKey : String
  schemaVersion : String
  requestedBy : String
  requiredCapabilities : List String
  inputArtifactKeys : List String
  consensusPolicy : PolicyInput
  createdAt : Time
  deriving DecidableEq

/-- A row of `review_tasks`. -/
structure ReviewTask where
  spec : TaskSpec
  status : ReviewTaskStatus
  resultArtifactKey : Option String
  updatedAt : Time
  completedAt : Option Time
  deriving DecidableEq

/-- A row of `review_task_runs`. -/
structure ReviewTaskRun where
  taskId : ℕ
  workerId : String
  agentId : Option String
  status : RunStatus
  failureReason : Option String
  lastHeartbeatAt : Option Time
  startedAt : Time
  finishedAt : Option Time
  deriving DecidableEq

/-- A row of `review_submissions`. -/
structure ReviewSubmission where
  taskId : ℕ
  runId : Option ℕ
  claimId : Option String
  sourceId : Option ℕ
  reviewerActor : String
  reviewerAgentId : Option String
  verdict : String
  confidenceBps : ℕ
  evidenceArtifactKey : Option String
  resultArtifactKey : Option String
  createdAt : Time
  deriving DecidableEq

namespace ReviewTask

variable (now : Time) (task : ReviewTask)

/-- The policy of a task, as `mapReviewTaskRow` reads it. -/
def policy : ReviewConsensusPolicy := normalizeConsensusPolicy task.spec.consensusPolicy

def touch : ReviewTask := { task with updatedAt := now }

/-- A submission that is not the last one needed. -/
def keepResult (resultArtifactKey : Option String) : ReviewTask :=
  { task with
    resultArtifactKey := resultArtifactKey.or task.resultArtifactKey, updatedAt := now }

/-- Enough submissions. -/
def complete (resultArtifactKey : Option String) : ReviewTask :=
  { task with
    status := .completed, resultArtifactKey := resultArtifactKey.or task.resultArtifactKey
    updatedAt := now, completedAt := task.completedAt.or (some now) }

end ReviewTask

namespace ReviewTaskRun

variable (now : Time) (run : ReviewTaskRun)

/-- `COALESCE(last_heartbeat_at, started_at)`. -/
def seenAt : Time := run.lastHeartbeatAt.getD run.startedAt

def beat : ReviewTaskRun := { run with lastHeartbeatAt := some now }

def complete : ReviewTaskRun := { run with status := .completed, finishedAt := some now }

def fail (failureReason : String) : ReviewTaskRun :=
  { run with status := .failed, failureReason := some failureReason, finishedAt := some now }

end ReviewTaskRun

/-- An agent identifier that counts as one: not `null`, and not blank. -/
def isAgent (agentId : Option String) : Bool := agentId.any fun a => decide (a ≠ "")

/-! ### The three tables -/

/-- The tables of the review store. -/
structure ReviewDb where
  tasks : Sql.Serial ReviewTask
  runs : Sql.Serial ReviewTaskRun
  submissions : Sql.Serial ReviewSubmission

namespace ReviewDb

/-- The tables as they are set up. -/
def empty : ReviewDb := ⟨.empty, .empty, .empty⟩

variable (db : ReviewDb)

/-- `countReviewTaskCompletedSubmissions`. -/
def completedSubmissions (taskId : ℕ) : ℕ :=
  db.submissions.count fun _ submission => decide (submission.taskId = taskId)

/-- `countReviewTaskRunningRuns`. -/
def runningRuns (taskId : ℕ) : ℕ :=
  db.runs.count fun _ run => decide (run.taskId = taskId ∧ run.status = .running)

/-- How many submissions of a task an agent has made. -/
def priorSubmission (taskId : ℕ) (agentId : Option String) : ℕ :=
  db.submissions.count fun _ submission =>
    decide (submission.taskId = taskId ∧ submission.reviewerAgentId = agentId)

/-- How many runs an agent has running at a task. -/
def priorRuns (taskId : ℕ) (agentId : Option String) : ℕ :=
  db.runs.count fun _ run =>
    decide (run.taskId = taskId ∧ run.agentId = agentId ∧ run.status = .running)

/-- The task has a status. -/
def hasStatus (taskId : ℕ) (status : ReviewTaskStatus) : Bool :=
  (db.tasks taskId).any fun task => decide (task.status = status)

/-- `review_task_runs_running_identity_idx`: another run of the same agent and worker is
running at the task. -/
def runningIdentity (taskId : ℕ) (agentId : Option String) (workerId : String) : Bool :=
  decide (db.runs.count (fun _ run => decide (run.taskId = taskId ∧
    run.agentId.getD "" = agentId.getD "" ∧ run.workerId = workerId ∧
      run.status = .running)) ≠ 0)

end ReviewDb

/-! ### The functions of the store -/

structure CreateReviewTask where
  spec : TaskSpec
  deriving DecidableEq

structure ClaimReviewTaskById where
  agentId : Option String
  taskId : ℕ
  workerId : String
  deriving DecidableEq

structure FailReviewTaskRun where
  failureReason : String
  runId : ℕ
  taskId : ℕ
  deriving DecidableEq

structure HeartbeatReviewTaskRun where
  agentId : Option String
  runId : ℕ
  taskId : ℕ
  workerId : Option String
  deriving DecidableEq

/-- With the clock of the caller, and the runs that other transactions have locked. -/
structure ExpireStaleReviewTaskRuns where
  limit : Option ℕ
  staleAfterMs : ℕ
  dateNow : Time
  locked : ℕ → Bool

structure RecordReviewSubmission where
  claimId : Option String
  confidenceBps : ℕ
  evidenceArtifactKey : Option String
  resultArtifactKey : Option String
  reviewerActor : String
  reviewerAgentId : Option String
  runId : Option ℕ
  sourceId : Option ℕ
  taskId : ℕ
  verdict : String
  deriving DecidableEq

variable (now : Time) (db : ReviewDb)

/-- The task that stands for a subject already, if one is open. -/
def openTask (spec : TaskSpec) : Option (ℕ × ReviewTask) :=
  (db.tasks.select fun _ task => decide (task.spec.subjectType = spec.subjectType ∧
    task.spec.subjectId = spec.subjectId ∧ task.spec.taskType = spec.taskType ∧
      task.spec.scopeKey = spec.scopeKey ∧ task.status = .open)).head?

/-- The task, and whether it is a new one. -/
def createReviewTask (input : CreateReviewTask) : ℕ × ReviewDb :=
  match openTask db input.spec with
  | some (taskId, _) => (taskId, db)
  | none =>
    (db.tasks.next,
      { db with
        tasks := db.tasks.insert
          { spec := { input.spec with createdAt := now }, status := .open
            resultArtifactKey := none, updatedAt := now, completedAt := none } })

/-- A task has room for one more submission, the runs at it counted as submissions. -/
def hasRoom (taskId : ℕ) (task : ReviewTask) : Bool :=
  decide (db.completedSubmissions taskId < task.policy.maxSubmissions) &&
    decide (db.completedSubmissions taskId + db.runningRuns taskId < task.policy.maxSubmissions)

/-- An agent that has been at a task already, where the policy asks for distinct ones. -/
def isRepeated (taskId : ℕ) (task : ReviewTask) (agentId : Option String) : Bool :=
  isAgent agentId && task.policy.requireDistinctAgents &&
    (decide (0 < db.priorSubmission taskId agentId) || decide (0 < db.priorRuns taskId agentId))

/-- A run begins. -/
def claimed (input : ClaimReviewTaskById) : ReviewDb :=
  { db with
    runs := db.runs.insert
      { taskId := input.taskId, workerId := input.workerId, agentId := input.agentId
        status := .running, failureReason := none, lastHeartbeatAt := some now
        startedAt := now, finishedAt := none }
    tasks := db.tasks.update input.taskId (ReviewTask.touch now) }

/-- The run that begins, or none if the task is not to be had. -/
def claimReviewTaskById (input : ClaimReviewTaskById) : Except String (Option (ℕ × ReviewDb)) :=
  match db.tasks input.taskId with
  | none => .ok none
  | some task =>
    if task.status ≠ .open then .ok none
    else if !hasRoom db input.taskId task then .ok none
    else if isRepeated db input.taskId task input.agentId then .ok none
    else if db.runningIdentity input.taskId input.agentId input.workerId then .error "23505"
    else .ok (some (db.runs.next, claimed now db input))

/-- Failing a run. Neither its status nor its task is looked at first. -/
def failReviewTaskRun (input : FailReviewTaskRun) : ReviewDb :=
  { db with
    runs := db.runs.update input.runId fun run => run.fail now input.failureReason
    tasks := db.tasks.update input.taskId (ReviewTask.touch now) }

/-- A heartbeat, from the agent and the worker of the run where these are named. -/
def heartbeatReviewTaskRun (input : HeartbeatReviewTaskRun) : Option ReviewDb :=
  if (db.runs input.runId).any (fun run => decide (run.taskId = input.taskId ∧
      run.status = .running) && (input.agentId.isNone || decide (run.agentId = input.agentId)) &&
        (input.workerId.isNone || decide (some run.workerId = input.workerId))) &&
      db.hasStatus input.taskId .open then
    some
      { db with
        runs := db.runs.update input.runId fun run => run.beat now
        tasks := db.tasks.update input.taskId (ReviewTask.touch now) }
  else none

/-- The runs a call expires: running, at an open task, not heard of for too long and not
locked, the oldest first. -/
def staleRuns (input : ExpireStaleReviewTaskRuns) : List (ℕ × ReviewTaskRun) :=
  ((db.runs.select fun runId run => decide (run.status = .running) &&
    db.hasStatus run.taskId .open &&
      decide (run.seenAt < input.dateNow - input.staleAfterMs) && !input.locked runId).mergeSort
        fun a b => decide (a.2.seenAt ≤ b.2.seenAt)).take (max 1 (min (input.limit.getD 50) 200))

def expireRun (stale : ℕ × ReviewTaskRun) : ReviewDb :=
  { db with
    runs := db.runs.update stale.1 fun run => run.fail now "heartbeat_timeout"
    tasks := db.tasks.update stale.2.taskId (ReviewTask.touch now) }

def expireStaleReviewTaskRuns (input : ExpireStaleReviewTaskRuns) : ReviewDb :=
  (staleRuns db input).foldl (expireRun now) db

/-- The run a submission names, if it names one, is running at the task, for the agent that
submits. -/
def submittedRun (input : RecordReviewSubmission) : Except String Unit :=
  match input.runId with
  | none => .ok ()
  | some runId =>
    match db.runs runId with
    | none => .error "review_task_run_not_found"
    | some run =>
      if run.taskId ≠ input.taskId then .error "review_task_run_not_found"
      else if run.status ≠ .running then .error "review_task_run_not_running"
      else if isAgent input.reviewerAgentId && isAgent run.agentId &&
          decide (input.reviewerAgentId ≠ run.agentId) then
        .error "review_task_run_agent_mismatch"
      else .ok ()

/-- The checks of a submission. That the task is open is none of them. -/
def checkSubmission (task : ReviewTask) (input : RecordReviewSubmission) : Except String Unit := do
  submittedRun db input
  if isAgent input.reviewerAgentId && task.policy.requireDistinctAgents &&
      decide (0 < db.priorSubmission input.taskId input.reviewerAgentId) then
    .error "review_task_agent_already_submitted"
  -- `review_submissions_run_id_idx`
  if input.runId.isSome &&
      decide (db.submissions.count (fun _ row => decide (row.runId = input.runId)) ≠ 0) then
    .error "23505"

/-- What a submission writes once it has passed the checks. -/
def writeSubmission (task : ReviewTask) (input : RecordReviewSubmission) : ReviewDb :=
  let submissions := db.submissions.insert
    { taskId := input.taskId, runId := input.runId
      claimId := input.claimId.or task.spec.claimId
      sourceId := input.sourceId.or task.spec.sourceId
      reviewerActor := Js.toLowerCase input.reviewerActor
      reviewerAgentId := input.reviewerAgentId, verdict := input.verdict
      confidenceBps := min 10000 input.confidenceBps
      evidenceArtifactKey := input.evidenceArtifactKey
      resultArtifactKey := input.resultArtifactKey, createdAt := now }
  let enough := task.policy.minSubmissions ≤ ReviewDb.completedSubmissions
    { db with submissions } input.taskId
  { submissions
    runs := match input.runId with
      | some runId => db.runs.update runId (ReviewTaskRun.complete now)
      | none => db.runs
    tasks := db.tasks.update input.taskId fun task =>
      if enough then task.complete now input.resultArtifactKey
      else task.keepResult now input.resultArtifactKey }

def recordReviewSubmission (input : RecordReviewSubmission) : Except String (ℕ × ReviewDb) :=
  match db.tasks input.taskId with
  | none => .error "review_task_not_found"
  | some task => do
    checkSubmission db task input
    .ok (db.submissions.next, writeSubmission now db task input)

/-- `readReviewTaskRuns`: the latest first. -/
def readReviewTaskRuns (taskId : ℕ) : List (ℕ × ReviewTaskRun) :=
  (db.runs.select fun _ run => decide (run.taskId = taskId)).reverse.mergeSort
    fun a b => decide (b.2.startedAt ≤ a.2.startedAt)

end ScientificProtocol.Review
