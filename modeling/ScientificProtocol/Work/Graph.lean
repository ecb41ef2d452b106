import ScientificProtocol.Review.Step

/-!
# The work graph

How `src/work/graph.ts` and `src/work/orchestration.ts` show a review task to the agents:
as a work item with a status, the runs at it, a policy, and an orchestration that says
whether the item can be claimed, and what to do about it otherwise.

The status is made up from the runs and the task (`toReviewStatus`): **a task with a run is
leased**, whatever its own status is. Since an item can be claimed only where its status is
open, a task that takes several submissions at a time is offered to one agent after the
other. What the store makes of the same rows is
`ScientificProtocol.Review.claimReviewTaskById`, and the two are compared in
`ScientificProtocol.Work.advertised_iff`.
-/

namespace ScientificProtocol.Work

open RewardPolicy (ReviewTaskType ReviewTaskStatus)
open Review (ReviewDb ReviewTask ReviewTaskRun RunStatus Time)

/-! ### Views -/

inductive ClaimWorkItemKind where
  | artifactMaintenance
  | replicationJob
  | reviewTask
  deriving DecidableEq, Repr

inductive ClaimWorkLane where
  | evaluation
  | execution
  | maintenance
  | synthesis
  deriving DecidableEq, Repr

inductive ClaimWorkStatus where
  | canceled
  | completed
  | escalated
  | failed
  | leased
  | open
  deriving DecidableEq, Repr

/-- The actions of `AgentRequestActionType` that work items name. -/
inductive AgentRequestActionType where
  | reviewTaskClaim
  | reviewTaskHeartbeat
  | reviewTaskSubmission
  | artifactTaskClaim
  | artifactTaskHeartbeat
  | artifactTaskAuditSubmission
  | artifactTaskRepairSubmission
  | replicationJobClaim
  | replicationJobHeartbeat
  | replicationJobSubmission
  deriving DecidableEq, Repr

inductive ClaimWorkOrchestrationAction where
  | claim
  | closed
  | complete
  | escalate
  | reassign
  | wait
  deriving DecidableEq, Repr

structure ClaimWorkPolicyView where
  maxContributors : Option ℕ
  minContributors : Option ℕ
  requireDistinctAgents : Bool
  requiredCapabilities : List String
  deriving DecidableEq

structure ClaimWorkRunView where
  agentId : Option String
  failureReason : Option String
  finishedAt : Option Time
  lastHeartbeatAt : Option Time
  runId : ℕ
  startedAt : Time
  status : RunStatus
  workerId : String
  deriving DecidableEq

structure ClaimWorkAgentActionsView where
  claim : Option AgentRequestActionType
  heartbeat : Option AgentRequestActionType
  submit : List AgentRequestActionType
  deriving DecidableEq

structure ClaimWorkOrchestrationView where
  activeRunCount : ℕ
  attemptCount : ℕ
  canClaim : Bool
  canReassign : Bool
  completedRunCount : ℕ
  contributorsNeeded : ℕ
  distinctContributorCount : ℕ
  distinctContributorShortfall : ℕ
  failedRunCount : ℕ
  minimumContributorsNeeded : ℕ
  minimumSatisfied : Bool
  recommendedAction : ClaimWorkOrchestrationAction
  remainingContributorSlots : Option ℕ
  requiresDistinctContributors : Bool
  shouldEscalate : Bool
  statusReason : String
  successfulContributionCount : ℕ
  targetContributorsNeeded : ℕ
  targetSatisfied : Bool
  timedOutRunCount : ℕ
  deriving DecidableEq

structure DeriveClaimWorkOrchestrationInput where
  agentActions : ClaimWorkAgentActionsView
  kind : ClaimWorkItemKind
  lane : ClaimWorkLane
  policy : Option ClaimWorkPolicyView
  runs : List ClaimWorkRunView
  status : ClaimWorkStatus
  successfulContributorAgentIds : List String
  successfulContributionCount : ℕ
  deriving DecidableEq

/-! ### Orchestration -/

def escalationThresholdForWorkItem (kind : ClaimWorkItemKind) (lane : ClaimWorkLane) : ℕ :=
  if kind = .artifactMaintenance then 2 else if lane = .synthesis then 1 else 2

def distinctContributorCount (agentIds : List String) : ℕ :=
  ((agentIds.map Js.trim).filter fun agentId => decide (agentId ≠ "")).eraseDups.length

def closedRecommendationForStatus : ClaimWorkStatus → Option ClaimWorkOrchestrationAction
  | .completed => some .complete
  | .failed | .canceled => some .closed
  | .escalated => some .escalate
  | .leased | .open => none

def statusReasonFromClosedState : ClaimWorkStatus → Option String
  | .completed => some "work item reached a terminal completed state"
  | .failed => some "work item reached a terminal failed state"
  | .canceled => some "work item was canceled and is no longer claimable"
  | .escalated => some "work item has been escalated for manual or higher-trust handling"
  | .leased | .open => none

/-- How many runs have a status. -/
def runCount (runs : List ClaimWorkRunView) (status : RunStatus) : ℕ :=
  runs.countP fun run => decide (run.status = status)

/-- The slots a policy leaves, if it limits them. -/
def remainingContributorSlots (input : DeriveClaimWorkOrchestrationInput) : Option ℕ :=
  (input.policy.bind ClaimWorkPolicyView.maxContributors).map fun maxContributors =>
    maxContributors - input.successfulContributionCount - runCount input.runs .running

/-- Whether an item is offered to agents. -/
def canClaimWorkItem (input : DeriveClaimWorkOrchestrationInput) : Bool :=
  decide (input.status = .open) && input.agentActions.claim.isSome &&
    (remainingContributorSlots input).all fun slots => decide (0 < slots)

section

variable (input : DeriveClaimWorkOrchestrationInput)

/-! The numbers of an orchestration. What is not positive is zero, so that the differences are
those of natural numbers. -/

def minContributors : ℕ := (input.policy.bind ClaimWorkPolicyView.minContributors).getD 0

def targetContributors : ℕ :=
  (input.policy.bind ClaimWorkPolicyView.maxContributors).getD (minContributors input)

def requiresDistinctContributors : Bool :=
  input.policy.any ClaimWorkPolicyView.requireDistinctAgents

def distinctContributorShortfall : ℕ :=
  if requiresDistinctContributors input then
    minContributors input - distinctContributorCount input.successfulContributorAgentIds
  else 0

def minimumContributorsNeeded : ℕ :=
  if requiresDistinctContributors input then distinctContributorShortfall input
  else minContributors input - input.successfulContributionCount

def targetContributorsNeeded : ℕ :=
  if requiresDistinctContributors input then
    targetContributors input - distinctContributorCount input.successfulContributorAgentIds
  else targetContributors input - input.successfulContributionCount

def timedOutRunCount : ℕ :=
  input.runs.countP fun run =>
    decide (run.status = .failed ∧ run.failureReason = some "heartbeat_timeout")

def canReassignWorkItem : Bool :=
  decide (input.status = .open ∧ runCount input.runs .running = 0 ∧
    0 < runCount input.runs .failed) && canClaimWorkItem input &&
      decide (0 < targetContributorsNeeded input)

def shouldEscalate : Bool :=
  let failureThreshold := escalationThresholdForWorkItem input.kind input.lane
  decide (input.status = .escalated ∨
    input.status = .open ∧ runCount input.runs .running = 0 ∧
      0 < minimumContributorsNeeded input ∧
        (failureThreshold ≤ timedOutRunCount input ∨
          failureThreshold + 1 ≤ runCount input.runs .failed))

/-- An orchestration, up to what is recommended. -/
def orchestrationView (canClaim canReassign : Bool)
    (recommendedAction : ClaimWorkOrchestrationAction) (statusReason : String) :
    ClaimWorkOrchestrationView where
  activeRunCount := runCount input.runs .running
  attemptCount := input.runs.length
  canClaim := canClaim
  canReassign := canReassign
  completedRunCount := runCount input.runs .completed
  contributorsNeeded := minimumContributorsNeeded input
  distinctContributorCount := distinctContributorCount input.successfulContributorAgentIds
  distinctContributorShortfall := distinctContributorShortfall input
  failedRunCount := runCount input.runs .failed
  minimumContributorsNeeded := minimumContributorsNeeded input
  minimumSatisfied := decide (minimumContributorsNeeded input = 0)
  recommendedAction := recommendedAction
  remainingContributorSlots := remainingContributorSlots input
  requiresDistinctContributors := requiresDistinctContributors input
  shouldEscalate := shouldEscalate input
  statusReason := statusReason
  successfulContributionCount := input.successfulContributionCount
  targetContributorsNeeded := targetContributorsNeeded input
  targetSatisfied := decide (targetContributorsNeeded input = 0)
  timedOutRunCount := timedOutRunCount input

/-- Why an item should be reassigned. -/
def reassignReason : String :=
  if minimumContributorsNeeded input ≠ 0 ∧ requiresDistinctContributors input ∧
      0 < distinctContributorShortfall input then
    "previous runs ended without enough distinct contributors and the item can be reassigned"
  else if minimumContributorsNeeded input ≠ 0 then
    "previous runs ended without enough successful contributions and the item can be reassigned"
  else if requiresDistinctContributors input ∧ 0 < targetContributorsNeeded input then
    "minimum corroboration is satisfied, but a fresh distinct contributor is still useful " ++
      "before this work item is considered well-covered"
  else
    "minimum corroboration is satisfied, but another corroborating contribution is still useful " ++
      "before this work item is considered well-covered"

/-- Why an item should be claimed. -/
def claimReason : String :=
  if minimumContributorsNeeded input ≠ 0 ∧ requiresDistinctContributors input ∧
      0 < distinctContributorShortfall input then
    "item is open and still needs additional distinct contributors"
  else if minimumContributorsNeeded input ≠ 0 then
    "item is open and still needs additional contributions"
  else if requiresDistinctContributors input ∧ 0 < targetContributorsNeeded input then
    "item reached its minimum threshold but can still accept another distinct corroborating " ++
      "contribution"
  else if 0 < targetContributorsNeeded input then
    "item reached its minimum threshold but can still accept another corroborating contribution"
  else "item is open and can accept more contributions"

def deriveClaimWorkOrchestration : ClaimWorkOrchestrationView :=
  match closedRecommendationForStatus input.status with
  | some action =>
    orchestrationView input false false action
      ((statusReasonFromClosedState input.status).getD "work item is not claimable")
  | none =>
    if shouldEscalate input then
      orchestrationView input (canClaimWorkItem input) (canReassignWorkItem input) .escalate
        "item exhausted its current retry path without enough successful contributions"
    else if 0 < runCount input.runs .running ∨ input.status = .leased then
      orchestrationView input (canClaimWorkItem input) false .wait
        "work is currently leased to an active agent run"
    else if canReassignWorkItem input then
      orchestrationView input (canClaimWorkItem input) (canReassignWorkItem input) .reassign
        (reassignReason input)
    else if canClaimWorkItem input then
      orchestrationView input (canClaimWorkItem input) (canReassignWorkItem input) .claim
        (claimReason input)
    else
      orchestrationView input (canClaimWorkItem input) (canReassignWorkItem input) .wait
        "item is open but currently has no available contributor slots"

end

/-- **An item is offered** exactly where its status is open, there is an action to claim it,
and a slot is left: the recommendation does not matter. -/
theorem canClaim_eq (input : DeriveClaimWorkOrchestrationInput) :
    (deriveClaimWorkOrchestration input).canClaim = canClaimWorkItem input := by
  unfold deriveClaimWorkOrchestration
  split
  next action hclosed =>
    -- A closed item is not open.
    have hne : input.status ≠ .open := fun hopen => by
      rw [hopen] at hclosed
      exact absurd hclosed (by simp [closedRecommendationForStatus])
    simp [orchestrationView, canClaimWorkItem, hne]
  next =>
    split
    · rfl
    · split
      · rfl
      · split
        · rfl
        · split <;> rfl

/-! ### The work item of a review task -/

/-- `toReviewStatus`. -/
def toReviewStatus (task : ReviewTask) (runs : List ClaimWorkRunView) : ClaimWorkStatus :=
  if runs.any fun run => decide (run.status = .running) then .leased
  else
    match task.status with
    | .open => .open
    | .completed => .completed
    | .escalated => .escalated
    | .canceled => .canceled

def toClaimWorkRunView (runId : ℕ) (run : ReviewTaskRun) : ClaimWorkRunView where
  agentId := run.agentId
  failureReason := run.failureReason
  finishedAt := run.finishedAt
  lastHeartbeatAt := run.lastHeartbeatAt
  runId := runId
  startedAt := run.startedAt
  status := run.status
  workerId := run.workerId

def buildReviewWorkPolicy (task : ReviewTask) : ClaimWorkPolicyView where
  maxContributors := some task.policy.maxSubmissions
  minContributors := some task.policy.minSubmissions
  requireDistinctAgents := task.policy.requireDistinctAgents
  requiredCapabilities := task.spec.requiredCapabilities

/-- `agentActionsForWorkItem`; a maintenance task is told apart by whether it repairs. -/
def agentActionsForWorkItem (kind : ClaimWorkItemKind) (repair : Bool) :
    ClaimWorkAgentActionsView :=
  match kind with
  | .reviewTask => ⟨some .reviewTaskClaim, some .reviewTaskHeartbeat, [.reviewTaskSubmission]⟩
  | .artifactMaintenance =>
    ⟨some .artifactTaskClaim, some .artifactTaskHeartbeat,
      [if repair then .artifactTaskRepairSubmission else .artifactTaskAuditSubmission]⟩
  | .replicationJob =>
    ⟨some .replicationJobClaim, some .replicationJobHeartbeat, [.replicationJobSubmission]⟩

def laneForReviewTask : ReviewTaskType → ClaimWorkLane
  | .certificationSynthesisCheck | .claimExtractionSynthesisCheck => .synthesis
  | .benchmarkRerunCheck => .execution
  | _ => .evaluation

/-- What a graph is about: a claim, or a source. -/
inductive GraphScope where
  | claim (claimId : String)
  | source (sourceId : ℕ)
  deriving DecidableEq

/-- A row belongs to what a graph is about. -/
def GraphScope.lists (scope : GraphScope) (claimId : Option String) (sourceId : Option ℕ) :
    Bool :=
  match scope with
  | .claim claimId' => decide (claimId = some claimId')
  | .source sourceId' => decide (sourceId = some sourceId')

/-- A work item, as far as it says who is at it and who may be. -/
structure ClaimWorkItemView where
  agentActions : ClaimWorkAgentActionsView
  kind : ClaimWorkItemKind
  lane : ClaimWorkLane
  orchestration : ClaimWorkOrchestrationView
  policy : ClaimWorkPolicyView
  runs : List ClaimWorkRunView
  status : ClaimWorkStatus
  deriving DecidableEq

variable (db : ReviewDb) (scope : GraphScope) (taskId : ℕ) (task : ReviewTask)

/-- The runs at a task, as the graph is given them. -/
def workRuns : List ClaimWorkRunView :=
  (Review.readReviewTaskRuns db taskId).map fun run => toClaimWorkRunView run.1 run.2

/-- The submissions of a task that the graph is given: those of its claim, or its source. -/
def workSubmissions : List (ℕ × Review.ReviewSubmission) :=
  db.submissions.select fun _ submission =>
    decide (submission.taskId = taskId) && scope.lists submission.claimId submission.sourceId

/-- The item `buildClaimWorkGraph` and `buildSourceWorkGraph` build for a review task. -/
def reviewWorkItem : ClaimWorkItemView :=
  let runs := workRuns db taskId
  let submissions := workSubmissions db scope taskId
  let agentActions := agentActionsForWorkItem .reviewTask false
  let lane := laneForReviewTask task.spec.taskType
  let policy := buildReviewWorkPolicy task
  let status := toReviewStatus task runs
  { agentActions, kind := .reviewTask, lane, policy, runs, status
    orchestration := deriveClaimWorkOrchestration
      { agentActions, kind := .reviewTask, lane, policy := some policy, runs, status
        successfulContributorAgentIds :=
          (submissions.map fun submission => submission.2.reviewerAgentId.getD "").filter
            fun agentId => decide (agentId ≠ "")
        successfulContributionCount := submissions.length } }

variable {db} {scope} {taskId} {task}

/-- The graph counts the runs that are running as the store does. -/
theorem runCount_workRuns : runCount (workRuns db taskId) .running = db.runningRuns taskId := by
  have hperm := (List.mergeSort_perm
    (db.runs.select fun _ run => decide (run.taskId = taskId)).reverse
      fun a b => decide (b.2.startedAt ≤ a.2.startedAt)).trans (List.reverse_perm _)
  have hcount := Sql.Serial.countP_select (t := db.runs)
    (fun _ run => decide (run.taskId = taskId)) fun _ run => decide (run.status = RunStatus.running)
  rw [runCount, workRuns, List.countP_map, Review.readReviewTaskRuns, hperm.countP_eq]
  simp only [ReviewDb.runningRuns, Bool.decide_and]
  exact hcount

/-- The status the graph makes up: leased while a run is running, and else that of the task. -/
theorem toReviewStatus_eq : toReviewStatus task (workRuns db taskId) =
    if db.runningRuns taskId ≠ 0 then .leased
    else match task.status with
      | .open => .open
      | .completed => .completed
      | .escalated => .escalated
      | .canceled => .canceled := by
  have hrunning : ((workRuns db taskId).any fun run => decide (run.status = .running)) = true ↔
      db.runningRuns taskId ≠ 0 := by
    rw [← runCount_workRuns, runCount, ← Nat.pos_iff_ne_zero, List.countP_pos_iff,
      List.any_eq_true]
  simp only [toReviewStatus, hrunning]

/-- **An item is leased** exactly while a run is running at its task. -/
theorem leased_iff :
    (reviewWorkItem db scope taskId task).status = .leased ↔ db.runningRuns taskId ≠ 0 := by
  change toReviewStatus task (workRuns db taskId) = .leased ↔ _
  rw [toReviewStatus_eq]
  by_cases hidle : db.runningRuns taskId = 0
  · rw [if_neg (not_not.mpr hidle)]
    cases task.status <;> simp [hidle]
  · rw [if_pos hidle]
    simp [hidle]

/-- **What the graph offers**: an open task without a run that has a slot left. -/
theorem canClaim_reviewWorkItem :
    (reviewWorkItem db scope taskId task).orchestration.canClaim = true ↔
      task.status = .open ∧ db.runningRuns taskId = 0 ∧
        (workSubmissions db scope taskId).length < task.policy.maxSubmissions := by
  have hstatus : toReviewStatus task (workRuns db taskId) = .open ↔
      task.status = .open ∧ db.runningRuns taskId = 0 := by
    rw [toReviewStatus_eq]
    by_cases hidle : db.runningRuns taskId = 0
    · rw [if_neg (not_not.mpr hidle)]
      cases task.status <;> simp [hidle]
    · rw [if_pos hidle]
      simp [hidle]
  change (deriveClaimWorkOrchestration _).canClaim = true ↔ _
  rw [canClaim_eq]
  simp only [canClaimWorkItem, remainingContributorSlots, runCount_workRuns, Option.bind_some,
    buildReviewWorkPolicy, Option.map_some, Option.all_some, Bool.and_eq_true, decide_eq_true_eq,
    hstatus, agentActionsForWorkItem, Option.isSome_some, and_true]
  constructor
  · rintro ⟨⟨hopen, hidle⟩, hslots⟩
    exact ⟨hopen, hidle, by omega⟩
  · rintro ⟨hopen, hidle, hslots⟩
    exact ⟨⟨hopen, hidle⟩, by omega⟩

end ScientificProtocol.Work
