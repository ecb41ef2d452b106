import ScientificProtocol.Coordinator.Store
import ScientificProtocol.Js.Map
import ScientificProtocol.Work.Graph

/-!
# The graphs of a claim and of a source

`buildClaimWorkGraph` and `buildSourceWorkGraph` of `src/work/graph.ts` list the work there is for a
claim, or for a source, as items: review tasks and, for a claim, replication jobs and artifact
maintenance tasks. Each item is orchestrated by itself, then routed and scheduled by looking at all
of them. The graph says besides what the items are about (its subjects), and how they hang together
(its edges).

Time stamps are times here, which the script compares as texts. What is only shown is left out:
titles, labels, links.
-/

namespace ScientificProtocol.WorkGraph

open Coordinator (ArtifactMaintenanceTaskType)
open RewardPolicy (ReviewTaskType ReviewTaskStatus JobStatus)
open Review (Time)
open Work

/-! ### Records -/

structure ConsensusPolicy where
  maxSubmissions : ℕ
  minSubmissions : ℕ
  requireDistinctAgents : Bool
  deriving DecidableEq

structure ReviewTaskView where
  completedAt : Option Time
  consensusPolicy : ConsensusPolicy
  createdAt : Time
  inputArtifactKeys : List String
  requiredCapabilities : List String
  resultArtifactKey : Option String
  scopeKey : String
  status : ReviewTaskStatus
  taskId : String
  taskType : ReviewTaskType
  updatedAt : Time
  deriving DecidableEq

structure ReviewSubmissionView where
  createdAt : Time
  evidenceArtifactKey : Option String
  resultArtifactKey : Option String
  reviewerAgentId : Option String
  deriving DecidableEq

structure ReplicationJobView where
  completedAt : Option Time
  createdAt : Time
  jobId : String
  resultArtifactKey : Option String
  status : JobStatus
  updatedAt : Time
  deriving DecidableEq

structure ArtifactMaintenanceTaskView where
  artifactKey : String
  completedAt : Option Time
  createdAt : Time
  resultArtifactKey : Option String
  status : JobStatus
  targetReplicaKey : Option String
  taskId : String
  taskType : ArtifactMaintenanceTaskType
  updatedAt : Time
  deriving DecidableEq

structure SourceRecordView where
  extractionArtifactKey : Option String
  snapshotArtifactKey : Option String
  sourceId : String
  deriving DecidableEq

/-! ### Views -/

inductive ClaimWorkResultType where
  | artifactReport
  | replicationResult
  | reviewSubmission
  deriving DecidableEq, Repr

structure ClaimWorkResultView where
  artifactKey : Option String
  createdAt : Option Time
  type : ClaimWorkResultType
  deriving DecidableEq

inductive ClaimWorkSubjectType where
  | claim
  | claimArtifact
  | persistedArtifact
  | sourceRecord
  deriving DecidableEq, Repr

structure ClaimWorkSubjectView where
  subjectId : String
  subjectType : ClaimWorkSubjectType
  deriving DecidableEq

inductive ClaimWorkEdgeRelation where
  | attaches
  | evaluates
  | input
  | maintains
  | produces
  | reruns
  deriving DecidableEq, Repr

structure ClaimWorkEdgeView where
  fromId : String
  relation : ClaimWorkEdgeRelation
  toId : String
  deriving DecidableEq

/-- The `sourceType` of an item. -/
inductive ClaimWorkSourceType where
  | artifactMaintenance (taskType : ArtifactMaintenanceTaskType)
  | replicationJob
  | review (taskType : ReviewTaskType)
  deriving DecidableEq

/-- An item that has been orchestrated. -/
structure OrchestratedItem where
  activeRun : Option ClaimWorkRunView
  agentActions : ClaimWorkAgentActionsView
  claimId : Option String
  completedAt : Option Time
  createdAt : Time
  itemId : String
  kind : ClaimWorkItemKind
  lane : ClaimWorkLane
  orchestration : ClaimWorkOrchestrationView
  policy : Option ClaimWorkPolicyView
  relatedArtifactKeys : List String
  result : Option ClaimWorkResultView
  runs : List ClaimWorkRunView
  scopeKey : Option String
  sourceType : ClaimWorkSourceType
  status : ClaimWorkStatus
  subjectId : String
  updatedAt : Option Time
  deriving DecidableEq

inductive ClaimWorkRoutingTier where
  | critical
  | high
  | hold
  | low
  | normal
  deriving DecidableEq, Repr

structure ClaimWorkRoutingView where
  blockedByOpenWork : Bool
  priorityBps : ℕ
  rationale : List String
  tier : ClaimWorkRoutingTier
  deriving DecidableEq

/-- `WorkItemWithoutScheduling` -/
structure RoutedItem extends OrchestratedItem where
  routing : ClaimWorkRoutingView
  deriving DecidableEq

inductive ClaimWorkSchedulingStrategy where
  | distinct
  | parallel
  | single
  | synthesis
  deriving DecidableEq, Repr

structure ClaimWorkSchedulingView where
  autoClaimable : Bool
  blocker : Option String
  blockingItemIds : List String
  desiredAdditionalClaims : ℕ
  needsMinimumCoverage : Bool
  needsRedundantCoverage : Bool
  prefersFreshContributor : Bool
  reassignmentPreferred : Bool
  reason : String
  strategy : ClaimWorkSchedulingStrategy
  unresolvedDependencyCount : ℕ
  deriving DecidableEq

/-- `ClaimWorkItemView` -/
structure WorkItemView extends RoutedItem where
  scheduling : ClaimWorkSchedulingView
  deriving DecidableEq

/-! ### Routing -/

def clampPriority (value : ℕ) : ℕ := min 10000 value

def tierForPriority (priorityBps : ℕ) : ClaimWorkRoutingTier :=
  if 8500 ≤ priorityBps then .critical
  else if 6500 ≤ priorityBps then .high
  else if 4000 ≤ priorityBps then .normal
  else if 0 < priorityBps then .low
  else .hold

def lanePriorityBoost (item : OrchestratedItem) : ℕ :=
  if item.kind = .artifactMaintenance ∧ item.sourceType = .artifactMaintenance .repair then 900
  else if item.kind = .replicationJob then 800
  else
    match item.lane with
    | .maintenance => 700
    | .execution => 650
    | .evaluation => 500
    | .synthesis => 200

/-- What there is to do at all. -/
def actionBoost (orchestration : ClaimWorkOrchestrationView) : ℕ × List String :=
  match orchestration.recommendedAction with
  | .reassign => (7200, ["reopened after earlier runs failed"])
  | .claim => (6000, ["currently claimable through the generic runtime"])
  | _ => (0, [])

/-- What is missing of the contributions. -/
def coverageBoost (orchestration : ClaimWorkOrchestrationView) : ℕ × List String :=
  if 0 < orchestration.minimumContributorsNeeded then
    if orchestration.requiresDistinctContributors ∧
        0 < orchestration.distinctContributorShortfall then
      (min 1600 (orchestration.distinctContributorShortfall * 800),
        ["scheduler still needs additional distinct contributors to reach minimum corroboration"])
    else
      (min 1400 (orchestration.minimumContributorsNeeded * 700),
        ["claim state still needs additional contributions to reach minimum corroboration"])
  else if 0 < orchestration.targetContributorsNeeded then
    if orchestration.requiresDistinctContributors then
      (min 900 (orchestration.targetContributorsNeeded * 350),
        ["scheduler still wants an additional distinct corroborating contribution"])
    else
      (min 800 (orchestration.targetContributorsNeeded * 300),
        ["scheduler still wants additional corroborating redundancy"])
  else (0, [])

/-- What went wrong with the runs. -/
def failureBoosts (orchestration : ClaimWorkOrchestrationView) : List (ℕ × List String) :=
  [if 0 < orchestration.timedOutRunCount then
      (min 1000 (orchestration.timedOutRunCount * 400), ["previous lease timed out"])
    else (0, []),
    if orchestration.timedOutRunCount < orchestration.failedRunCount then
      (min 800 ((orchestration.failedRunCount - orchestration.timedOutRunCount) * 250),
        ["previous attempts ended without a successful contribution"])
    else (0, [])]

def isBlockingClaimWork (item : OrchestratedItem) : Bool :=
  decide (item.itemId ≠ "" ∧ (item.status = .open ∨ item.status = .leased) ∧
    item.lane ≠ .synthesis ∧
      (item.orchestration.canClaim = true ∨ 0 < item.orchestration.activeRunCount))

def hasBlockingNonSynthesisWork (items : List OrchestratedItem) (current : OrchestratedItem) :
    Bool :=
  decide (current.lane = .synthesis) && items.any fun item =>
    decide (item.itemId ≠ current.itemId ∧ item.claimId = current.claimId) &&
      isBlockingClaimWork item

def deriveClaimWorkRouting (item : OrchestratedItem) (items : List OrchestratedItem) :
    ClaimWorkRoutingView :=
  let blockedByOpenWork := hasBlockingNonSynthesisWork items item
  if item.orchestration.canClaim then
    let boosts := actionBoost item.orchestration :: (lanePriorityBoost item, []) ::
      coverageBoost item.orchestration :: failureBoosts item.orchestration
    let priority := (boosts.map Prod.fst).sum
    let rationale := boosts.flatMap Prod.snd
    let priorityBps := clampPriority (if blockedByOpenWork then min priority 1500 else priority)
    { blockedByOpenWork, priorityBps
      rationale :=
        if blockedByOpenWork then
          "waiting on lower-level open work before synthesis is useful" :: rationale
        else rationale
      tier := tierForPriority priorityBps }
  else
    { blockedByOpenWork, priorityBps := 0, rationale := [item.orchestration.statusReason]
      tier := .hold }

/-! ### Scheduling -/

def strategyForItem (item : RoutedItem) : ClaimWorkSchedulingStrategy :=
  if item.lane = .synthesis then .synthesis
  else if item.orchestration.requiresDistinctContributors then .distinct
  else if 1 < item.orchestration.remainingContributorSlots.getD 0 ∨
      1 < item.orchestration.contributorsNeeded then .parallel
  else .single

def unresolvedUpstreamDependency (item : RoutedItem) : Bool :=
  decide (item.lane ≠ .synthesis ∧ item.status ≠ .completed ∧ item.status ≠ .canceled)

def unresolvedUpstreamItems (current : RoutedItem) (items : List RoutedItem) : List RoutedItem :=
  if current.lane ≠ .synthesis then []
  else
    items.filter fun item =>
      decide (item.itemId ≠ current.itemId ∧ item.claimId = current.claimId) &&
        unresolvedUpstreamDependency item

/-- `minimumNeededAfterActiveRuns` -/
def minimumNeededAfterActiveRuns (orchestration : ClaimWorkOrchestrationView) : ℕ :=
  orchestration.minimumContributorsNeeded - orchestration.activeRunCount

/-- `targetNeededAfterActiveRuns` -/
def targetNeededAfterActiveRuns (orchestration : ClaimWorkOrchestrationView) : ℕ :=
  orchestration.targetContributorsNeeded - orchestration.activeRunCount

/-- `desiredAdditionalClaims`, of an item that nothing blocks. -/
def desiredAdditionalClaims (orchestration : ClaimWorkOrchestrationView) : ℕ :=
  match orchestration.remainingContributorSlots with
  | none => targetNeededAfterActiveRuns orchestration
  | some slots => min slots (targetNeededAfterActiveRuns orchestration)

section

variable (item : RoutedItem)

def needsMinimumCoverage : Bool := decide (0 < minimumNeededAfterActiveRuns item.orchestration)

def needsRedundantCoverage : Bool :=
  !needsMinimumCoverage item && decide (0 < targetNeededAfterActiveRuns item.orchestration)

def preferredFreshContributor : Bool :=
  item.orchestration.requiresDistinctContributors &&
    decide (0 < targetNeededAfterActiveRuns item.orchestration)

def blockedScheduling (blocker : String) (blockingItemIds : List String) (reason : String) :
    ClaimWorkSchedulingView where
  autoClaimable := false
  blocker := some blocker
  blockingItemIds := blockingItemIds
  desiredAdditionalClaims := 0
  needsMinimumCoverage := needsMinimumCoverage item
  needsRedundantCoverage := needsRedundantCoverage item
  prefersFreshContributor := preferredFreshContributor item
  reassignmentPreferred := false
  reason := reason
  strategy := strategyForItem item
  unresolvedDependencyCount := blockingItemIds.length

/-- Why an item waits for others. -/
def upstreamReason (upstreamItems : List RoutedItem) : String :=
  if upstreamItems.any fun entry =>
      decide (entry.status = .escalated) || entry.orchestration.shouldEscalate then
    "upstream claim work still needs manual escalation handling before synthesis is useful"
  else if upstreamItems.any fun entry => decide (entry.status = .failed) then
    "upstream claim work still needs reassignment or repair before synthesis is useful"
  else "upstream evaluation, execution, or maintenance work is still unresolved"

/-- Why an item can be claimed. -/
def readyReason : String :=
  if item.orchestration.recommendedAction = .reassign then
    "item is scheduler-ready for reassignment after earlier runs ended without a useful result"
  else if preferredFreshContributor item && needsMinimumCoverage item then
    "item is scheduler-ready and still needs a fresh distinct contributor to reach minimum " ++
      "corroboration"
  else if preferredFreshContributor item && needsRedundantCoverage item then
    "minimum corroboration is already satisfied, but scheduler still wants a fresh distinct " ++
      "contributor for stronger redundancy"
  else if needsMinimumCoverage item then
    if 1 < desiredAdditionalClaims item.orchestration then
      "item is scheduler-ready and still sits below its minimum corroboration target"
    else "item is scheduler-ready for another contribution to reach minimum corroboration"
  else if 1 < desiredAdditionalClaims item.orchestration then
    "minimum corroboration is satisfied, but the scheduler still sees uncovered parallel " ++
      "corroboration demand"
  else
    "minimum corroboration is satisfied, but the scheduler still wants one more corroborating " ++
      "contribution"

def deriveClaimWorkScheduling (items : List RoutedItem) : ClaimWorkSchedulingView :=
  let upstreamItems := unresolvedUpstreamItems item items
  if upstreamItems ≠ [] then
    blockedScheduling item "dependency_blocked" (upstreamItems.map (·.itemId))
      (upstreamReason upstreamItems)
  else if item.orchestration.shouldEscalate then
    blockedScheduling item "escalation_required" []
      "manual escalation should happen before more automatic claims"
  else if !item.orchestration.canClaim then
    blockedScheduling item "not_claimable" [] item.orchestration.statusReason
  else if item.routing.blockedByOpenWork then
    blockedScheduling item "dependency_blocked" [] "prerequisite lower-lane work is still open"
  else if desiredAdditionalClaims item.orchestration = 0 then
    blockedScheduling item "policy_satisfied" []
      (if 0 < item.orchestration.targetContributorsNeeded then
        "existing active runs already cover the current corroboration target"
      else "current policy already has enough successful contributions")
  else
    { autoClaimable := true
      blocker := none
      blockingItemIds := []
      desiredAdditionalClaims := desiredAdditionalClaims item.orchestration
      needsMinimumCoverage := needsMinimumCoverage item
      needsRedundantCoverage := needsRedundantCoverage item
      prefersFreshContributor := preferredFreshContributor item
      reassignmentPreferred := decide (item.orchestration.recommendedAction = .reassign)
      reason := readyReason item
      strategy := strategyForItem item
      unresolvedDependencyCount := 0 }

end

/-! ### Keys -/

/-- `value.trim().length > 0` -/
def isPresent (value : String) : Bool := decide (Js.trim value ≠ "")

def uniqueStrings (values : List (Option String)) : List String :=
  ((values.filterMap id).filter isPresent).eraseDups

/-- What an object answers for a key, with an empty list for one that it does not have. -/
def entriesAt {α : Type} (entries : List (String × List α)) (key : String) : List α :=
  (Js.mapGet entries key).getD []

/-- `collectClaimWorkArtifactKeys`; no graph hands in results of its own. -/
def collectClaimWorkArtifactKeys (reviewTasks : List ReviewTaskView)
    (reviewSubmissions : List ReviewSubmissionView) (replicationJobs : List ReplicationJobView)
    (artifactMaintenanceTasks : List ArtifactMaintenanceTaskView) : List String :=
  uniqueStrings
    (reviewTasks.flatMap (fun task => task.resultArtifactKey :: task.inputArtifactKeys.map some) ++
      reviewSubmissions.flatMap (fun submission =>
        [submission.resultArtifactKey, submission.evidenceArtifactKey]) ++
      replicationJobs.map (·.resultArtifactKey) ++
      artifactMaintenanceTasks.flatMap fun task =>
        [some task.artifactKey, task.resultArtifactKey])

/-! ### Results -/

def toReviewSubmissionResult (submission : ReviewSubmissionView) : ClaimWorkResultView where
  artifactKey := submission.resultArtifactKey.or submission.evidenceArtifactKey
  createdAt := some submission.createdAt
  type := .reviewSubmission

/-- The latest of some values, the first of them if there are several. -/
def latestBy {α : Type} (time : α → Time) (values : List α) : Option α :=
  (values.mergeSort fun left right => decide (time right ≤ time left)).head?

def activeRun (runs : List ClaimWorkRunView) : Option ClaimWorkRunView :=
  latestBy (fun run => run.lastHeartbeatAt.getD run.startedAt)
    (runs.filter fun run => decide (run.status = .running))

def reviewResult (task : ReviewTaskView) (results : List ClaimWorkResultView)
    (submissions : List ReviewSubmissionView) : Option ClaimWorkResultView :=
  (latestBy (fun result => result.createdAt.getD 0) results).or
    (if task.status = .completed then
      some
        { artifactKey := task.resultArtifactKey
          createdAt := some (task.completedAt.getD task.updatedAt)
          type := .reviewSubmission }
    else (latestBy (·.createdAt) submissions).map toReviewSubmissionResult)

/-- The result of a job, or of a maintenance task. -/
def jobResult (status : JobStatus) (artifactKey : Option String) (completedAt : Option Time)
    (updatedAt : Time) (type : ClaimWorkResultType) : Option ClaimWorkResultView :=
  if status = .completed then
    some { artifactKey, createdAt := some (completedAt.getD updatedAt), type }
  else none

def replicationResult (job : ReplicationJobView) : Option ClaimWorkResultView :=
  jobResult job.status job.resultArtifactKey job.completedAt job.updatedAt .replicationResult

def maintenanceResult (task : ArtifactMaintenanceTaskView) : Option ClaimWorkResultView :=
  jobResult task.status task.resultArtifactKey task.completedAt task.updatedAt .artifactReport

/-- The artifact that a result shows, if it names one. -/
def shownKey (result : Option ClaimWorkResultView) : Option String :=
  (result.bind (·.artifactKey)).filter fun artifactKey => decide (artifactKey ≠ "")

/-! ### Items -/

/-- `toReviewStatus`, `toReplicationStatus` and `toMaintenanceStatus`: what is running is leased. -/
def statusOf (runs : List ClaimWorkRunView) (status : ClaimWorkStatus) : ClaimWorkStatus :=
  if runs.any fun run => decide (run.status = .running) then .leased else status

def toReviewStatus (task : ReviewTaskView) (runs : List ClaimWorkRunView) : ClaimWorkStatus :=
  statusOf runs
    (match task.status with
    | .open => .open
    | .completed => .completed
    | .escalated => .escalated
    | .canceled => .canceled)

/-- `toReplicationStatus` and `toMaintenanceStatus` -/
def toJobStatus (status : JobStatus) (runs : List ClaimWorkRunView) : ClaimWorkStatus :=
  statusOf runs
    (match status with
    | .open => .open
    | .assigned => .leased
    | .completed => .completed
    | .failed => .failed)

def buildReviewWorkPolicy (task : ReviewTaskView) : ClaimWorkPolicyView where
  maxContributors := some task.consensusPolicy.maxSubmissions
  minContributors := some task.consensusPolicy.minSubmissions
  requireDistinctAgents := task.consensusPolicy.requireDistinctAgents
  requiredCapabilities := task.requiredCapabilities

def buildArtifactMaintenanceWorkPolicy (task : ArtifactMaintenanceTaskView) :
    ClaimWorkPolicyView where
  maxContributors := some 1
  minContributors := some 1
  requireDistinctAgents := false
  requiredCapabilities :=
    match task.taskType with
    | .repair => ["artifact-repair"]
    | .audit => ["artifact-audit"]

def buildReplicationWorkPolicy : ClaimWorkPolicyView where
  maxContributors := some 1
  minContributors := some 1
  requireDistinctAgents := false
  requiredCapabilities := ["execution"]

def reviewItemId (taskId : String) : String := "review-task:" ++ taskId

def replicationItemId (jobId : String) : String := "replication-job:" ++ jobId

def maintenanceItemId (taskId : String) : String := "artifact-maintenance:" ++ taskId

def claimSubjectId (claimId : String) : String := "claim:" ++ claimId

def artifactSubjectId (artifactId : String) : String := "claim-artifact:" ++ artifactId

def persistedSubjectId (artifactKey : String) : String := "persisted-artifact:" ++ artifactKey

def sourceSubjectId (sourceId : String) : String := "source:" ++ sourceId

section

variable {start start' : String}

/-- Texts that do not start alike are different. -/
theorem append_ne_append (h : ¬start.toList <+: start'.toList)
    (h' : ¬start'.toList <+: start.toList) (tail tail' : String) :
    start ++ tail ≠ start' ++ tail' := by
  intro heq
  have hchars : start.toList ++ tail.toList = start'.toList ++ tail'.toList := by
    rw [← String.toList_append, heq, String.toList_append]
  have hprefix : start.toList <+: start'.toList ++ tail'.toList :=
    hchars ▸ List.prefix_append start.toList tail.toList
  exact (List.prefix_or_prefix_of_prefix hprefix (List.prefix_append _ _)).elim h h'

end

/-- The agents that are named. -/
def namedAgents (agentIds : List (Option String)) : List String :=
  (agentIds.map (·.getD "")).filter fun agentId => decide (agentId ≠ "")

/-- The agents of the runs that have been completed. -/
def completedAgents (runs : List ClaimWorkRunView) : List String :=
  namedAgents ((runs.filter fun run => decide (run.status = .completed)).map (·.agentId))

/-- The latest result of a task among its submissions. -/
def reviewTaskResult (reviewSubmissionsByTaskId : List (String × List ReviewSubmissionView))
    (task : ReviewTaskView) : Option ClaimWorkResultView :=
  let taskSubmissions := entriesAt reviewSubmissionsByTaskId task.taskId
  reviewResult task (taskSubmissions.map toReviewSubmissionResult) taskSubmissions

/-- The item of a review task, for a claim or for a source with keys of its own. -/
def reviewItem (claimId : Option String) (subjectId : String) (sourceKeys : List (Option String))
    (reviewRunsByTaskId : List (String × List ClaimWorkRunView))
    (reviewSubmissionsByTaskId : List (String × List ReviewSubmissionView))
    (task : ReviewTaskView) : OrchestratedItem :=
  let runs := entriesAt reviewRunsByTaskId task.taskId
  let taskSubmissions := entriesAt reviewSubmissionsByTaskId task.taskId
  let latestResult := reviewTaskResult reviewSubmissionsByTaskId task
  let agentActions := agentActionsForWorkItem .reviewTask false
  let lane := laneForReviewTask task.taskType
  let policy := some (buildReviewWorkPolicy task)
  let status := toReviewStatus task runs
  { activeRun := activeRun runs
    agentActions, claimId
    completedAt := task.completedAt
    createdAt := task.createdAt
    itemId := reviewItemId task.taskId
    kind := .reviewTask
    lane, policy
    orchestration := deriveClaimWorkOrchestration
      { agentActions, kind := .reviewTask, lane, policy, runs, status
        successfulContributorAgentIds := namedAgents (taskSubmissions.map (·.reviewerAgentId))
        successfulContributionCount := taskSubmissions.length }
    relatedArtifactKeys := uniqueStrings (sourceKeys ++ task.inputArtifactKeys.map some ++
      [task.resultArtifactKey, latestResult.bind (·.artifactKey)])
    result := latestResult
    runs
    scopeKey := some task.scopeKey
    sourceType := .review task.taskType
    status, subjectId
    updatedAt := some task.updatedAt }

def replicationItem (claimId : String)
    (replicationRunsByJobId : List (String × List ClaimWorkRunView)) (job : ReplicationJobView) :
    OrchestratedItem :=
  let runs := entriesAt replicationRunsByJobId job.jobId
  let result := replicationResult job
  let agentActions := agentActionsForWorkItem .replicationJob false
  let policy := some buildReplicationWorkPolicy
  let status := toJobStatus job.status runs
  { activeRun := activeRun runs
    agentActions
    claimId := some claimId
    completedAt := job.completedAt
    createdAt := job.createdAt
    itemId := replicationItemId job.jobId
    kind := .replicationJob
    lane := .execution
    policy
    orchestration := deriveClaimWorkOrchestration
      { agentActions, kind := .replicationJob, lane := .execution, policy, runs, status
        successfulContributorAgentIds := completedAgents runs
        successfulContributionCount := if result.isSome then 1 else 0 }
    relatedArtifactKeys := uniqueStrings [job.resultArtifactKey]
    result, runs
    scopeKey := some (replicationItemId job.jobId)
    sourceType := .replicationJob
    status
    subjectId := claimSubjectId claimId
    updatedAt := some job.updatedAt }

def maintenanceItem (claimId : String)
    (artifactMaintenanceRunsByTaskId : List (String × List ClaimWorkRunView))
    (task : ArtifactMaintenanceTaskView) : OrchestratedItem :=
  let runs := entriesAt artifactMaintenanceRunsByTaskId task.taskId
  let result := maintenanceResult task
  let agentActions :=
    agentActionsForWorkItem .artifactMaintenance (decide (task.taskType = .repair))
  let policy := some (buildArtifactMaintenanceWorkPolicy task)
  let status := toJobStatus task.status runs
  { activeRun := activeRun runs
    agentActions
    claimId := some claimId
    completedAt := task.completedAt
    createdAt := task.createdAt
    itemId := maintenanceItemId task.taskId
    kind := .artifactMaintenance
    lane := .maintenance
    policy
    orchestration := deriveClaimWorkOrchestration
      { agentActions, kind := .artifactMaintenance, lane := .maintenance, policy, runs, status
        successfulContributorAgentIds := completedAgents runs
        successfulContributionCount := if result.isSome then 1 else 0 }
    relatedArtifactKeys := uniqueStrings [some task.artifactKey, task.resultArtifactKey]
    result, runs
    scopeKey := task.targetReplicaKey
    sourceType := .artifactMaintenance task.taskType
    status
    subjectId := persistedSubjectId task.artifactKey
    updatedAt := some task.updatedAt }

/-! ### Edges -/

/-- An item produces the artifact of its result. -/
def producesEdges (itemId : String) (result : Option ClaimWorkResultView) :
    List ClaimWorkEdgeView :=
  (shownKey result).toList.map fun artifactKey =>
    ⟨itemId, .produces, persistedSubjectId artifactKey⟩

def reviewEdges (subjectId : String)
    (reviewSubmissionsByTaskId : List (String × List ReviewSubmissionView))
    (task : ReviewTaskView) : List ClaimWorkEdgeView :=
  let itemId := reviewItemId task.taskId
  ⟨subjectId, .evaluates, itemId⟩ ::
    task.inputArtifactKeys.map (fun artifactKey =>
      ⟨persistedSubjectId artifactKey, .input, itemId⟩) ++
    producesEdges itemId (reviewTaskResult reviewSubmissionsByTaskId task)

def replicationEdges (claimId : String) (job : ReplicationJobView) : List ClaimWorkEdgeView :=
  ⟨claimSubjectId claimId, .reruns, replicationItemId job.jobId⟩ ::
    producesEdges (replicationItemId job.jobId) (replicationResult job)

def maintenanceEdges (task : ArtifactMaintenanceTaskView) : List ClaimWorkEdgeView :=
  ⟨persistedSubjectId task.artifactKey, .maintains, maintenanceItemId task.taskId⟩ ::
    producesEdges (maintenanceItemId task.taskId) (maintenanceResult task)

/-- A source is attached to an artifact that it names. -/
def attachedEdges (sourceId : String) (artifactKey : Option String) : List ClaimWorkEdgeView :=
  (artifactKey.filter fun artifactKey => decide (artifactKey ≠ "")).toList.map fun artifactKey =>
    ⟨sourceSubjectId sourceId, .attaches, persistedSubjectId artifactKey⟩

/-! ### Subjects -/

def subjectPriority : ClaimWorkSubjectType → ℕ
  | .claim | .sourceRecord => 0
  | .claimArtifact => 1
  | .persistedArtifact => 2

/-- `subjects.set(subject.subjectId, subject)` -/
def setSubject (subjects : List ClaimWorkSubjectView) (subject : ClaimWorkSubjectView) :
    List ClaimWorkSubjectView :=
  if subjects.any fun other => decide (other.subjectId = subject.subjectId) then
    subjects.map fun other => if other.subjectId = subject.subjectId then subject else other
  else subjects ++ [subject]

/-- A persisted artifact becomes a subject if it is none yet. -/
def addPersisted (subjects : List ClaimWorkSubjectView) (artifactKey : String) :
    List ClaimWorkSubjectView :=
  if subjects.any fun other => decide (other.subjectId = persistedSubjectId artifactKey) then
    subjects
  else setSubject subjects ⟨persistedSubjectId artifactKey, .persistedArtifact⟩

/-! ### Graphs -/

structure ClaimWorkGraphSummary where
  activeLeases : ℕ
  autoClaimableItems : ℕ
  completedItems : ℕ
  dependencyBlockedItems : ℕ
  failedItems : ℕ
  freshContributorItems : ℕ
  latestActivityAt : Option Time
  minimumCoverageItems : ℕ
  openItems : ℕ
  participatingAgents : ℕ
  reassignmentReadyItems : ℕ
  redundancyTargetItems : ℕ
  totalItems : ℕ
  uncoveredDemand : ℕ
  lanes : ClaimWorkLane → ℕ

/-- `ClaimWorkGraphView` and `SourceWorkGraphView` -/
structure WorkGraphView where
  edges : List ClaimWorkEdgeView
  items : List WorkItemView
  subjects : List ClaimWorkSubjectView
  summary : ClaimWorkGraphSummary

def summarize (items : List WorkItemView) : ClaimWorkGraphSummary where
  activeLeases := items.countP fun item => decide (item.status = .leased)
  autoClaimableItems := items.countP (·.scheduling.autoClaimable)
  completedItems := items.countP fun item => decide (item.status = .completed)
  dependencyBlockedItems :=
    items.countP fun item => decide (item.scheduling.blocker = some "dependency_blocked")
  failedItems := items.countP fun item => decide (item.status = .failed)
  freshContributorItems := items.countP (·.scheduling.prefersFreshContributor)
  latestActivityAt := ((items.flatMap fun item =>
    [item.updatedAt, item.completedAt, item.result.bind (·.createdAt)] ++
      item.runs.flatMap fun run => [run.lastHeartbeatAt, run.finishedAt,
        some run.startedAt]).filterMap id).max?
  minimumCoverageItems := items.countP (·.scheduling.needsMinimumCoverage)
  openItems := items.countP fun item => decide (item.status = .open)
  participatingAgents :=
    (namedAgents ((items.flatMap (·.runs)).map (·.agentId))).eraseDups.length
  reassignmentReadyItems := items.countP (·.scheduling.reassignmentPreferred)
  redundancyTargetItems := items.countP (·.scheduling.needsRedundantCoverage)
  totalItems := items.length
  uncoveredDemand := (items.map (·.scheduling.desiredAdditionalClaims)).sum
  lanes lane := items.countP fun item => decide (item.lane = lane)

section

-- The host compares two texts in a way of its own.
variable (localeCompare : String → String → ℤ)

def itemLE (left right : WorkItemView) : Bool :=
  let leftUpdated := left.updatedAt.getD left.createdAt
  let rightUpdated := right.updatedAt.getD right.createdAt
  if leftUpdated ≠ rightUpdated then decide (rightUpdated ≤ leftUpdated)
  else decide (localeCompare left.itemId right.itemId ≤ 0)

def subjectLE (left right : ClaimWorkSubjectView) : Bool :=
  let leftPriority := subjectPriority left.subjectType
  let rightPriority := subjectPriority right.subjectType
  if leftPriority ≠ rightPriority then decide (leftPriority ≤ rightPriority)
  else decide (localeCompare left.subjectId right.subjectId ≤ 0)

/-- Routing looks at the items as they are orchestrated. -/
def routeItems (items : List OrchestratedItem) : List RoutedItem :=
  items.map fun item => { item with routing := deriveClaimWorkRouting item items }

/-- Scheduling looks at the items as they are routed. -/
def scheduleItems (items : List RoutedItem) : List WorkItemView :=
  items.map fun item => { item with scheduling := deriveClaimWorkScheduling item items }

def finalizeWorkItems (edges : List ClaimWorkEdgeView) (subjects : List ClaimWorkSubjectView)
    (items : List OrchestratedItem) : WorkGraphView :=
  let items := (scheduleItems (routeItems items)).mergeSort (itemLE localeCompare)
  { edges, items
    subjects := subjects.mergeSort (subjectLE localeCompare)
    summary := summarize items }

structure BuildClaimWorkGraphInput where
  artifactMaintenanceRunsByTaskId : List (String × List ClaimWorkRunView)
  artifactMaintenanceTasks : List ArtifactMaintenanceTaskView
  artifactIds : List String
  claimId : String
  replicationJobs : List ReplicationJobView
  replicationRunsByJobId : List (String × List ClaimWorkRunView)
  reviewRunsByTaskId : List (String × List ClaimWorkRunView)
  reviewSubmissionsByTaskId : List (String × List ReviewSubmissionView)
  reviewTasks : List ReviewTaskView
  deriving DecidableEq

namespace BuildClaimWorkGraphInput

variable (input : BuildClaimWorkGraphInput)

/-- The keys of all persisted artifacts. -/
def artifactKeys : List String :=
  collectClaimWorkArtifactKeys input.reviewTasks (input.reviewSubmissionsByTaskId.flatMap Prod.snd)
    input.replicationJobs input.artifactMaintenanceTasks

def subjects : List ClaimWorkSubjectView :=
  let claim : List ClaimWorkSubjectView := setSubject [] ⟨claimSubjectId input.claimId, .claim⟩
  let attached := input.artifactIds.foldl (fun subjects artifactId =>
    setSubject subjects ⟨artifactSubjectId artifactId, .claimArtifact⟩) claim
  let persisted := input.artifactKeys.foldl addPersisted attached
  (input.artifactMaintenanceTasks.map (·.artifactKey)).foldl addPersisted persisted

def items : List OrchestratedItem :=
  input.reviewTasks.map (reviewItem (some input.claimId) (claimSubjectId input.claimId) []
      input.reviewRunsByTaskId input.reviewSubmissionsByTaskId) ++
    input.replicationJobs.map (replicationItem input.claimId input.replicationRunsByJobId) ++
    input.artifactMaintenanceTasks.map
      (maintenanceItem input.claimId input.artifactMaintenanceRunsByTaskId)

def edges : List ClaimWorkEdgeView :=
  input.artifactIds.map (fun artifactId =>
      ⟨claimSubjectId input.claimId, .attaches, artifactSubjectId artifactId⟩) ++
    input.reviewTasks.flatMap
      (reviewEdges (claimSubjectId input.claimId) input.reviewSubmissionsByTaskId) ++
    input.replicationJobs.flatMap (replicationEdges input.claimId) ++
    input.artifactMaintenanceTasks.flatMap maintenanceEdges

end BuildClaimWorkGraphInput

def buildClaimWorkGraph (input : BuildClaimWorkGraphInput) : WorkGraphView :=
  finalizeWorkItems localeCompare input.edges input.subjects input.items

structure BuildSourceWorkGraphInput where
  reviewRunsByTaskId : List (String × List ClaimWorkRunView)
  reviewSubmissionsByTaskId : List (String × List ReviewSubmissionView)
  reviewTasks : List ReviewTaskView
  source : SourceRecordView
  deriving DecidableEq

namespace BuildSourceWorkGraphInput

variable (input : BuildSourceWorkGraphInput)

/-- What the source has been kept as. -/
def sourceKeys : List (Option String) :=
  [input.source.snapshotArtifactKey, input.source.extractionArtifactKey]

def artifactKeys : List String :=
  uniqueStrings (input.sourceKeys ++ (collectClaimWorkArtifactKeys input.reviewTasks
    (input.reviewSubmissionsByTaskId.flatMap Prod.snd) [] []).map some)

def subjects : List ClaimWorkSubjectView :=
  input.artifactKeys.foldl addPersisted
    (setSubject [] ⟨sourceSubjectId input.source.sourceId, .sourceRecord⟩)

def items : List OrchestratedItem :=
  input.reviewTasks.map (reviewItem none (sourceSubjectId input.source.sourceId) input.sourceKeys
    input.reviewRunsByTaskId input.reviewSubmissionsByTaskId)

def edges : List ClaimWorkEdgeView :=
  attachedEdges input.source.sourceId input.source.snapshotArtifactKey ++
    attachedEdges input.source.sourceId input.source.extractionArtifactKey ++
    input.reviewTasks.flatMap
      (reviewEdges (sourceSubjectId input.source.sourceId) input.reviewSubmissionsByTaskId)

end BuildSourceWorkGraphInput

def buildSourceWorkGraph (input : BuildSourceWorkGraphInput) : WorkGraphView :=
  finalizeWorkItems localeCompare input.edges input.subjects input.items

end

end ScientificProtocol.WorkGraph
