import ScientificProtocol.RewardPolicy.Pricing

/-!
# The candidates of a run

What `applyAutomaticRewardPolicy` makes of a snapshot: it restricts every table to the
claims the run is about, finds a claim for each maintenance task through the artifacts
that claims mention, and builds one candidate for each finished piece of work
(`buildPolicyCandidates`). Claim and agent are thus found a second time, by other code
than the settlement's.

The snapshot is read first, and one of the reads is a listing of replications. Where that
fails there are no candidates at all
(`ScientificProtocol.RewardPolicy.policyCandidates_eq_ok_iff`).
-/

namespace ScientificProtocol.RewardPolicy

open Evm

/-- The claims a run is about: all of them, or those of one domain, or one claim. -/
structure PolicyScope where
  claimId : Option ℕ
  domainId : Option ℕ
  deriving DecidableEq

/-- A record the policy may pay for. A maintenance task comes with the claim the policy
found for it. -/
inductive WorkRecord where
  | reviewTask (task : ReviewTaskView)
  | replicationJob (job : ReplicationJobView)
  | maintenanceTask (task : ArtifactMaintenanceTaskView) (claimId : ℕ)
  | forecast (forecast : ForecastView)
  | challenge (challenge : ChallengeView)
  deriving DecidableEq

/-- The identifier of the work item. -/
def WorkRecord.itemId : WorkRecord → String
  | .reviewTask task => Js.join ':' "review-task" (toString task.taskId)
  | .replicationJob job => Js.join ':' "replication-job" (toString job.jobId)
  | .maintenanceTask task _ => Js.join ':' "artifact-maintenance" (toString task.taskId)
  | .forecast view => Js.join ':' "forecast" (toString view.forecastId)
  | .challenge view => Js.join ':' "challenge" (toString view.challengeId)

/-! ### What is in scope -/

section

variable (scope : PolicyScope) (db : ReadModel)

def claimIds : List ℕ :=
  ((db.claims.filter fun claim => scope.domainId.all (claim.domainId = ·)).filter
    fun claim => scope.claimId.all (claim.claimId = ·)).map (·.claimId)

/-- The query lists the record, and the filter behind it keeps it. -/
def covers (claimId : Option ℕ) : Bool :=
  scope.claimId.all (claimId = some ·) && claimId.any ((claimIds scope db).contains ·)

def filteredReviewTasks : List ReviewTaskView :=
  db.reviewTasks.filter fun task => covers scope db task.claimId

def filteredReviewSubmissions : List ReviewSubmissionView :=
  db.reviewSubmissions.filter fun submission => covers scope db submission.claimId

def filteredReplicationJobs : List ReplicationJobView :=
  db.replicationJobs.filter fun job => covers scope db (some job.claimId)

def filteredReplications : List ReplicationView :=
  db.replications.filter fun replication => (claimIds scope db).contains replication.claimId

def filteredForecasts : List ForecastView :=
  db.forecasts.filter fun forecast => (claimIds scope db).contains forecast.claimId

def filteredChallenges : List ChallengeView :=
  db.challenges.filter fun challenge => (claimIds scope db).contains challenge.claimId

/-- `if (artifactKey)`: there is a key, and it is not the empty text. -/
def keyOf : Option String → List String
  | some artifactKey => if artifactKey = "" then [] else [artifactKey]
  | none => []

/-- The artifacts a review task is mapped under, in the order they are set. -/
def ReviewTaskView.artifactKeys (task : ReviewTaskView) : List String :=
  task.inputArtifactKeys ++ keyOf task.resultArtifactKey

/-- The artifacts a submission is mapped under, in the order they are set. -/
def ReviewSubmissionView.artifactKeys (submission : ReviewSubmissionView) : List String :=
  keyOf submission.evidenceArtifactKey ++ keyOf submission.resultArtifactKey

/-- The artifact a job is mapped under. -/
def ReplicationJobView.artifactKeys (job : ReplicationJobView) : List String :=
  keyOf job.resultArtifactKey

/-- The entries of `artifactKeyToClaimId`, in the order they are set. -/
def artifactEntries : List (String × ℕ) :=
  ((filteredReviewTasks scope db).flatMap fun task =>
      Js.entriesOf task.artifactKeys task.claimId) ++
    ((filteredReviewSubmissions scope db).flatMap fun submission =>
      Js.entriesOf submission.artifactKeys submission.claimId) ++
    ((filteredReplicationJobs scope db).flatMap fun job =>
      Js.entriesOf job.artifactKeys (some job.claimId))

def artifactKeyToClaimId (artifactKey : String) : Option ℕ :=
  Js.mapGet (artifactEntries scope db) artifactKey

/-- The maintenance tasks whose artifact a claim in scope mentions, with the claim. -/
def filteredMaintenanceTasks : List (ArtifactMaintenanceTaskView × ℕ) :=
  db.artifactMaintenanceTasks.filterMap fun task =>
    match artifactKeyToClaimId scope db task.artifactKey with
    | some claimId => if (claimIds scope db).contains claimId then some (task, claimId) else none
    | none => none

/-- The records the policy goes through, in its order. -/
def workRecords : List WorkRecord :=
  (filteredReviewTasks scope db).map .reviewTask ++
    (filteredReplicationJobs scope db).map .replicationJob ++
    (filteredMaintenanceTasks scope db).map (fun task => .maintenanceTask task.1 task.2) ++
    (filteredForecasts scope db).map .forecast ++
    (filteredChallenges scope db).map .challenge

/-! ### One candidate -/

/-- The submission the policy takes for the newest one of a task. -/
def latestReviewSubmission (submissions : List ReviewSubmissionView) (taskId : ℕ) :
    Option ReviewSubmissionView :=
  (submissions.filter (·.taskId = taskId)).foldl
    (fun current submission => match current with
      | none => some submission
      | some current => if submission.createdAt > current.createdAt then some submission
        else some current)
    none

/-- The replication of a job, as the indexer saw it. -/
def replicationOf (job : ReplicationJobView) : Option ReplicationView :=
  job.onchainReplicationId.bind
    (Js.mapGet ((filteredReplications scope db).map fun replication =>
      (replication.replicationId, replication)))

/-- The agent a job is attributed to. -/
def attributedAgent (job : ReplicationJobView) : Option ℕ :=
  match replicationOf scope db job with
  | some replication =>
    if replication.agentId ≠ 0 then some replication.agentId else job.assignedAgentId
  | none => job.assignedAgentId

variable (w : World) (quality : String → ℕ)

/-- `getAgentRecord`. -/
def getAgentRecord (agentId : Option ℕ) : Script (Option AgentRecord) :=
  match agentId with
  | some (agentId + 1) => some <$> liftCall (w.agentRegistry.getAgent (agentId + 1))
  | _ => .ok none

/-- The candidate for a piece of work, unless nobody can be paid for it. -/
def candidateFor (itemId : String) (workKind : ClaimRewardWorkKind) (claimId : ℕ)
    (agentId : Option ℕ) (operator known : Option Address) : Script (Option PolicyCandidate) := do
  let recipient ← accountOrOperator w known agentId
  return recipient.map fun recipient => {
    agentId
    budgetTopUpBps := budgetTopUpBps agentId
    claimId
    itemId
    operator
    qualityBps := quality itemId
    recipient := some recipient
    workKind }

def reviewCandidate (task : ReviewTaskView) : Script (Option PolicyCandidate) :=
  match task.claimId,
    latestReviewSubmission (filteredReviewSubmissions scope db) task.taskId with
  | some claimId, some latestSubmission =>
    if task.status ≠ .completed then .ok none
    else do
      let agentId := latestSubmission.reviewerAgentId
      let operator := (← getAgentRecord w agentId).map (·.operator)
      candidateFor w quality (WorkRecord.reviewTask task).itemId
        (rewardWorkKindForReviewTaskType task.taskType) claimId agentId operator
        (latestSubmission.reviewerActor <|> operator)
  | _, _ => .ok none

def replicationCandidate (job : ReplicationJobView) : Script (Option PolicyCandidate) :=
  if job.status ≠ .completed then .ok none
  else do
    let agentId := attributedAgent scope db job
    let operator := (← getAgentRecord w agentId).map (·.operator)
    candidateFor w quality (WorkRecord.replicationJob job).itemId .replication job.claimId agentId
      operator
      ((replicationOf scope db job).map (·.replicator) <|> job.submissionActor <|> operator)

def maintenanceCandidate (task : ArtifactMaintenanceTaskView) (claimId : ℕ) :
    Script (Option PolicyCandidate) :=
  if task.status ≠ .completed then .ok none
  else do
    let agentId := task.assignedAgentId
    let operator := (← getAgentRecord w agentId).map (·.operator)
    candidateFor w quality (WorkRecord.maintenanceTask task claimId).itemId .maintenance claimId
      agentId operator operator

def forecastCandidate (forecast : ForecastView) : Script (Option PolicyCandidate) :=
  if ¬forecast.settled ∨ forecast.finalStatus = none then .ok none
  else do
    let agentId := agentOrNull forecast.agentId
    let operator ← accountOrOperator w none agentId
    candidateFor w quality (WorkRecord.forecast forecast).itemId .forecast forecast.claimId agentId
      operator forecast.forecaster

def challengeCandidate (challenge : ChallengeView) : Script (Option PolicyCandidate) :=
  if challenge.status ≠ 1 ∧ challenge.status ≠ 2 then .ok none
  else do
    let agentId := agentOrNull challenge.agentId
    let operator ← accountOrOperator w none agentId
    candidateFor w quality (WorkRecord.challenge challenge).itemId .challenge challenge.claimId
      agentId operator challenge.challenger

/-- The candidate a record gives, if it gives one. -/
def candidateOf : WorkRecord → Script (Option PolicyCandidate)
  | .reviewTask task => reviewCandidate scope db w quality task
  | .replicationJob job => replicationCandidate scope db w quality job
  | .maintenanceTask task claimId => maintenanceCandidate w quality task claimId
  | .forecast forecast => forecastCandidate w quality forecast
  | .challenge challenge => challengeCandidate w quality challenge

/-- A loop that pushes what it finds, and stops where it throws. -/
def collect {α β : Type} (f : α → Script (Option β)) : List α → Script (List β)
  | [] => .ok []
  | a :: rest => do
    let found ← f a
    let others ← collect f rest
    return found.toList ++ others

/-- **The candidates of a run**, in the order of the records. -/
def buildPolicyCandidates : Script (List PolicyCandidate) :=
  collect (candidateOf scope db w quality) (workRecords scope db)

/-- **What a run makes of a snapshot**: it lists the replications among the rest, and builds
the candidates of what it has read. -/
def policyCandidates : Script (List PolicyCandidate) := do
  let replications ← liftQuery (Indexer.queryReplications db.replicationsSchema db.replications)
  buildPolicyCandidates scope { db with replications } w quality

end

section

variable {scope : PolicyScope} {db : ReadModel} {w : World} {quality : String → ℕ}

/-- **A run has candidates** only where the listing of the replications is answered. -/
theorem policyCandidates_eq_ok_iff {candidates : List PolicyCandidate} :
    policyCandidates scope db w quality = .ok candidates ↔
      db.replicationsSchema.HasDecisionColumn ∧
        buildPolicyCandidates scope db w quality = .ok candidates := by
  by_cases h : db.replicationsSchema.HasDecisionColumn
  · rw [policyCandidates, Indexer.queryReplications_of_hasDecisionColumn h, and_iff_right h]
    rfl
  · rw [policyCandidates, Indexer.queryReplications_of_not_hasDecisionColumn h]
    exact ⟨fun hok => absurd hok (by simp [liftQuery]), fun hok => absurd hok.1 h⟩

/-- Otherwise it throws. -/
theorem policyCandidates_of_not_hasDecisionColumn
    (h : ¬db.replicationsSchema.HasDecisionColumn) :
    policyCandidates scope db w quality =
      .error (.undefinedColumn ⟨"resolution_decision_id"⟩) := by
  rw [policyCandidates, Indexer.queryReplications_of_not_hasDecisionColumn h]
  rfl

end

/-- The candidates of one claim and one kind of work, who share a pool. -/
def candidatesByGroup (candidates : List PolicyCandidate) :
    List ((ℕ × ClaimRewardWorkKind) × List PolicyCandidate) :=
  Js.groupBy (fun candidate => (candidate.claimId, candidate.workKind)) candidates

/-- What the policy asks the settlement to pay. -/
def PolicyCandidate.settleInput (candidate : PolicyCandidate) (deltaWei : ℕ)
    (settlementLabel : String) : SettleWorkRewardInput where
  amountWei := deltaWei
  budgetTopUpBps := some candidate.budgetTopUpBps
  itemId := candidate.itemId
  recipient := candidate.recipient
  settlementLabel := some settlementLabel

@[simp] theorem PolicyCandidate.settleInput_itemId (candidate : PolicyCandidate) (deltaWei : ℕ)
    (settlementLabel : String) :
    (candidate.settleInput deltaWei settlementLabel).itemId = candidate.itemId := rfl

@[simp] theorem PolicyCandidate.settleInput_settlementLabel (candidate : PolicyCandidate)
    (deltaWei : ℕ) (settlementLabel : String) :
    (candidate.settleInput deltaWei settlementLabel).settlementLabel = some settlementLabel := rfl

theorem mem_of_collect {α β : Type} {f : α → Script (Option β)} {as : List α} {bs : List β} {b : β}
    (h : collect f as = .ok bs) (hb : b ∈ bs) : ∃ a ∈ as, f a = .ok (some b) := by
  induction as generalizing bs with
  | nil =>
    obtain rfl := Except.ok.inj h
    exact absurd hb List.not_mem_nil
  | cons a rest ih =>
    simp only [collect, script_bind_eq_ok, script_pure_eq_ok, Except.ok.injEq] at h
    obtain ⟨found, hfound, others, hothers, rfl⟩ := h
    rcases List.mem_append.mp hb with hb | hb
    · rw [Option.mem_toList.mp hb] at hfound
      exact ⟨a, List.mem_cons_self, hfound⟩
    · obtain ⟨a', ha', hf⟩ := ih hothers hb
      exact ⟨a', List.mem_cons_of_mem a ha', hf⟩

end ScientificProtocol.RewardPolicy
