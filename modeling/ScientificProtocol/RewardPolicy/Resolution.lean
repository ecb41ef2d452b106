import ScientificProtocol.RewardPolicy.Settlement
import ScientificProtocol.Js.Map

/-!
# What a work item resolves to

`ScientificProtocol.RewardPolicy.Resolved` says, kind by kind, what the settlement read
when it did not throw, and what it made of it. It is the only thing the results about
settlements use: none of them looks into the five functions again.
-/

namespace ScientificProtocol.RewardPolicy

open Evm

/-- The first record that mentions an artifact, as the settlement looks for it: the newest
review task counts if it has a claim, then the newest submission, then the oldest job. -/
def firstMention (db : ReadModel) (artifactKey : String) : Option ℕ :=
  ((db.reviewTasks.find? (·.mentions artifactKey)).bind (·.claimId)).or
    (((db.reviewSubmissions.find? (·.mentions artifactKey)).bind (·.claimId)).or
      ((db.replicationJobs.find? (·.mentions artifactKey)).map (·.claimId)))

theorem findClaimIdForArtifactKey_eq_ok {db : ReadModel} {artifactKey : String} {claimId : ℕ} :
    findClaimIdForArtifactKey db artifactKey = .ok claimId ↔
      firstMention db artifactKey = some claimId := by
  unfold findClaimIdForArtifactKey firstMention
  split
  next htask => simp [htask]
  next htask =>
    rw [htask, Option.none_or]
    split
    next hsubmission => simp [hsubmission]
    next hsubmission =>
      rw [hsubmission, Option.none_or]
      split
      next hjob => simp [hjob]
      next hjob => simp [hjob]

/-- The newest submission of a task. -/
def newestSubmission (db : ReadModel) (taskId : ℕ) : Option ReviewSubmissionView :=
  (db.reviewSubmissions.filter (·.taskId = taskId)).head?

/-- The label of the submission a review is paid for. -/
def reviewLabel (submission : ReviewSubmissionView) : String :=
  Js.join ':' "review-submission" (toString submission.submissionId)

/-- The label of a job, or of its replication once there is one. -/
def replicationLabel (job : ReplicationJobView) : String :=
  match job.onchainReplicationId with
  | some onchainReplicationId => Js.join ':' "replication" (toString onchainReplicationId)
  | none => Js.join ':' "replication-job" (toString job.jobId)

/-- The agent the settlement names for a job: the one of the replication, once there is
one. -/
def settledAgent (w : World) (job : ReplicationJobView) : Option ℕ :=
  match job.onchainReplicationId with
  | some onchainReplicationId =>
    agentOrNull (w.replicationRegistry.replications onchainReplicationId).agentId
  | none => job.assignedAgentId

section

variable (bigint : Bigint) (db : ReadModel) (w : World)

/-- **What an item resolves to**, by its kind and the text behind it. -/
inductive Resolved : String → String → ResolvedWorkTarget → Prop
  | review {sourceId : String} {task : ReviewTaskView} {submission : ReviewSubmissionView}
      {claimId : ℕ} {recipient : Address} :
      bigint.read sourceId = some task.taskId → task ∈ db.reviewTasks →
      newestSubmission db task.taskId = some submission → task.claimId = some claimId →
      Resolved "review-task" sourceId {
        agentId := submission.reviewerAgentId, claimId,
        defaultSettlementLabel := reviewLabel submission, recipient,
        workKind := rewardWorkKindForReviewTaskType task.taskType }
  | replication {sourceId : String} {job : ReplicationJobView} {recipient : Address} :
      bigint.read sourceId = some job.jobId → job ∈ db.replicationJobs →
      Resolved "replication-job" sourceId {
        agentId := settledAgent w job, claimId := job.claimId,
        defaultSettlementLabel := replicationLabel job, recipient, workKind := .replication }
  | maintenance {sourceId : String} {task : ArtifactMaintenanceTaskView} {claimId : ℕ}
      {recipient : Address} :
      bigint.read sourceId = some task.taskId → task ∈ db.artifactMaintenanceTasks →
      firstMention db task.artifactKey = some claimId →
      Resolved "artifact-maintenance" sourceId {
        agentId := task.assignedAgentId, claimId,
        defaultSettlementLabel := Js.join ':' "artifact-maintenance" (toString task.taskId),
        recipient, workKind := .maintenance }
  | forecast {sourceId : String} {forecast : ForecastView} {recipient : Address} :
      toString forecast.forecastId = sourceId → forecast ∈ db.forecasts →
      Resolved "forecast" sourceId {
        agentId := agentOrNull forecast.agentId, claimId := forecast.claimId,
        defaultSettlementLabel := Js.join ':' "forecast" (toString forecast.forecastId),
        recipient, workKind := .forecast }
  | challenge {sourceId : String} {challenge : ChallengeView} {recipient : Address} :
      toString challenge.challengeId = sourceId → challenge ∈ db.challenges →
      Resolved "challenge" sourceId {
        agentId := agentOrNull challenge.agentId, claimId := challenge.claimId,
        defaultSettlementLabel := Js.join ':' "challenge" (toString challenge.challengeId),
        recipient, workKind := .challenge }

end

section

variable {bigint : Bigint} {db : ReadModel} {w : World} {recipientOverride : Option Address}
  {kind sourceId : String} {target : ResolvedWorkTarget}

theorem resolved_of_resolveReviewTarget
    (h : resolveReviewTarget bigint db w recipientOverride sourceId = .ok target) :
    Resolved bigint db w "review-task" sourceId target := by
  simp only [resolveReviewTarget, readReviewTask, readReviewSubmissions, script_bind_eq_ok,
    Bigint.param_eq_ok, orThrow_eq_ok, script_pure_eq_ok, Except.ok.injEq] at h
  obtain ⟨_, ⟨id, hid, rfl⟩, task, htask, _, ⟨id', hid', rfl⟩, submission, hsubmission, _, -,
    recipient, -, claimId, hclaim, rfl⟩ := h
  obtain rfl := Option.some.inj (hid.symm.trans hid')
  obtain rfl : task.taskId = id := by simpa using List.find?_some htask
  exact .review hid (List.mem_of_find?_eq_some htask) hsubmission hclaim

theorem resolved_of_resolveReplicationTarget
    (h : resolveReplicationTarget bigint db w recipientOverride sourceId = .ok target) :
    Resolved bigint db w "replication-job" sourceId target := by
  simp only [resolveReplicationTarget, readReplicationJob, script_bind_eq_ok, Bigint.param_eq_ok,
    orThrow_eq_ok, script_pure_eq_ok, Except.ok.injEq] at h
  obtain ⟨_, ⟨id, hid, rfl⟩, job, hjob, -, -, known, -, h⟩ := h
  obtain rfl : job.jobId = id := by simpa using List.find?_some hjob
  have hresolved : Resolved bigint db w "replication-job" sourceId {
      agentId := settledAgent w job, claimId := job.claimId,
      defaultSettlementLabel := replicationLabel job, recipient := target.recipient,
      workKind := .replication } :=
    .replication hid (List.mem_of_find?_eq_some hjob)
  unfold settledAgent replicationLabel at hresolved
  split at h
  next honchain =>
    obtain ⟨recipient, -, htarget⟩ := script_bind_eq_ok.mp h
    obtain rfl := Except.ok.inj htarget
    simpa [honchain] using hresolved
  next onchainReplicationId honchain =>
    obtain ⟨replication, hreplication, h⟩ := script_bind_eq_ok.mp h
    obtain rfl := Except.ok.inj h
    simp only [liftCall_eq_ok, ReplicationRegistry.getReplication, bind_eq_ok, pure_eq_ok,
      Except.ok.injEq] at hreplication
    obtain ⟨-, -, rfl⟩ := hreplication
    simpa [honchain] using hresolved

theorem resolved_of_resolveMaintenanceTarget
    (h : resolveMaintenanceTarget bigint db w recipientOverride sourceId = .ok target) :
    Resolved bigint db w "artifact-maintenance" sourceId target := by
  simp only [resolveMaintenanceTarget, readArtifactMaintenanceTask, script_bind_eq_ok,
    Bigint.param_eq_ok, orThrow_eq_ok, findClaimIdForArtifactKey_eq_ok, script_pure_eq_ok,
    Except.ok.injEq] at h
  obtain ⟨_, ⟨id, hid, rfl⟩, task, htask, -, -, _, -, recipient, -, claimId, hclaim, rfl⟩ := h
  obtain rfl : task.taskId = id := by simpa using List.find?_some htask
  exact .maintenance hid (List.mem_of_find?_eq_some htask) hclaim

theorem resolved_of_resolveForecastTarget
    (h : resolveForecastTarget db w recipientOverride sourceId = .ok target) :
    Resolved bigint db w "forecast" sourceId target := by
  simp only [resolveForecastTarget, readForecast, script_bind_eq_ok, orThrow_eq_ok,
    script_pure_eq_ok, Except.ok.injEq] at h
  obtain ⟨forecast, hforecast, -, -, _, -, recipient, -, rfl⟩ := h
  exact .forecast (by simpa using List.find?_some hforecast) (List.mem_of_find?_eq_some hforecast)

theorem resolved_of_resolveChallengeTarget
    (h : resolveChallengeTarget db w recipientOverride sourceId = .ok target) :
    Resolved bigint db w "challenge" sourceId target := by
  simp only [resolveChallengeTarget, readChallenge, script_bind_eq_ok, orThrow_eq_ok,
    script_pure_eq_ok, Except.ok.injEq] at h
  obtain ⟨challenge, hchallenge, -, -, _, -, recipient, -, rfl⟩ := h
  exact .challenge (by simpa using List.find?_some hchallenge)
    (List.mem_of_find?_eq_some hchallenge)

/-- **An item that resolves was one of the five kinds, and its record was there.** -/
theorem resolved_of_resolveWorkTarget
    (h : resolveWorkTarget bigint db w recipientOverride kind sourceId = .ok target) :
    Resolved bigint db w kind sourceId target := by
  unfold resolveWorkTarget at h
  split at h
  next hkind => exact hkind ▸ resolved_of_resolveReviewTarget h
  split at h
  next hkind => exact hkind ▸ resolved_of_resolveReplicationTarget h
  split at h
  next hkind => exact hkind ▸ resolved_of_resolveMaintenanceTarget h
  split at h
  next hkind => exact hkind ▸ resolved_of_resolveForecastTarget h
  split at h
  next hkind => exact hkind ▸ resolved_of_resolveChallengeTarget h
  exact absurd h (by simp)

/-- **What a settlement that does not throw has done.** -/
theorem resolved_of_settleWorkReward {D : Deployment} {input : SettleWorkRewardInput}
    {call : WorkRewardCall} (h : settleWorkReward bigint D db w input = .ok call) :
    ∃ kind sourceId, parseItemId input.itemId = .ok (kind, sourceId) ∧
      Resolved bigint db w kind sourceId call.target ∧
      call = workRewardCall D input call.target := by
  simp only [settleWorkReward, script_bind_eq_ok, script_pure_eq_ok, Except.ok.injEq] at h
  obtain ⟨⟨kind, sourceId⟩, hparse, target, htarget, rfl⟩ := h
  exact ⟨kind, sourceId, hparse, resolved_of_resolveWorkTarget htarget, rfl⟩

end

/-! ### Item identifiers -/

/-- **An identifier of two parts parses into them.** -/
theorem parseItemId_join {kind sourceId : String} (hkind : ':' ∉ kind.toList) (hkind' : kind ≠ "")
    (hsource : ':' ∉ sourceId.toList) (hsource' : sourceId ≠ "") :
    parseItemId (Js.join ':' kind sourceId) = .ok (kind, sourceId) := by
  rw [parseItemId, Js.split_join hkind, Js.split_of_not_mem hsource]
  simp [hkind', hsource']

/-- The identifiers the policy makes: a kind and a number. -/
theorem parseItemId_toString {kind : String} (hkind : ':' ∉ kind.toList) (hkind' : kind ≠ "")
    (n : ℕ) : parseItemId (Js.join ':' kind (toString n)) = .ok (kind, toString n) :=
  parseItemId_join hkind hkind' (Js.not_mem_toString (by decide) n) (Js.toString_ne_empty n)

/-- A numeral names the row with its number. -/
theorem Bigint.eq_of_read_toString {bigint : Bigint} {m n : ℕ} (hlt : m < 2 ^ 63)
    (h : bigint.read (toString m) = some n) : m = n :=
  Option.some.inj ((bigint.read_toString m hlt).symm.trans h)

end ScientificProtocol.RewardPolicy
