import ScientificProtocol.Review.Capacity
import ScientificProtocol.Work.Graph

/-!
# What is advertised, and what can be claimed

Whether an agent may begin at a review task is decided twice: by the store, which counts
submissions and running runs against the policy, and by the work graph, which has a status
for the item first. A task that is not open is neither offered nor to be had. At an open
one the two differ in two ways.

* While a run is running the item is leased, and so is not offered to anybody else, though
  the store gives out a second run as long as there is room.
* The graph counts the submissions it lists, which are those of its claim or its source.

That they agree is therefore a condition on the counts
(`ScientificProtocol.Work.advertised_iff`).
-/

namespace ScientificProtocol.Work

open RewardPolicy (ReviewTaskType ReviewTaskStatus)
open Review (ReviewDb ReviewTask)

variable {now : Review.Time} {db : ReviewDb} {scope : GraphScope} {taskId : ℕ} {task : ReviewTask}
  {agentId workerId : String}

/-- An agent that runs nothing at a task has no run of its worker there. -/
theorem runningIdentity_eq_false (hagent : agentId ≠ "")
    (hruns : db.priorRuns taskId (some agentId) = 0) :
    db.runningIdentity taskId (some agentId) workerId = false := by
  refine decide_eq_false (not_not.mpr (Sql.Serial.count_eq_zero.mpr fun runId run hrun => ?_))
  have hfree := of_decide_eq_false (Sql.Serial.count_eq_zero.mp hruns runId run hrun)
  refine decide_eq_false ?_
  rintro ⟨hat, hsame, -, hrunning⟩
  refine hfree ⟨hat, ?_, hrunning⟩
  cases hid : run.agentId with
  | none =>
    -- A run without an agent is that of the blank one.
    rw [hid] at hsame
    exact absurd hsame.symm hagent
  | some other =>
    rw [hid] at hsame
    exact congrArg some hsame

/-- **What the store admits** of an agent that is not at the task: an open task with room. -/
theorem claimReviewTaskById_iff (htask : db.tasks taskId = some task) (hagent : agentId ≠ "")
    (hsubmission : db.priorSubmission taskId (some agentId) = 0)
    (hruns : db.priorRuns taskId (some agentId) = 0) :
    (∃ runId db', Review.claimReviewTaskById now db ⟨some agentId, taskId, workerId⟩ =
        .ok (some (runId, db'))) ↔
      task.status = .open ∧
        db.completedSubmissions taskId + db.runningRuns taskId < task.policy.maxSubmissions := by
  have hfresh : Review.isRepeated db taskId task (some agentId) = false := by
    simp [Review.isRepeated, hsubmission, hruns]
  constructor
  · rintro ⟨runId, db', h⟩
    obtain ⟨task', htask', hopen, hroom, -⟩ := Review.claimReviewTaskById_eq_ok.mp h
    obtain rfl := Option.some.inj (htask.symm.trans htask')
    exact ⟨hopen, Review.hasRoom_iff.mp hroom⟩
  · rintro ⟨hopen, hroom⟩
    exact ⟨_, _, Review.claimReviewTaskById_eq_ok.mpr
      ⟨task, htask, hopen, Review.hasRoom_iff.mpr hroom, hfresh,
        runningIdentity_eq_false hagent hruns, rfl, rfl⟩⟩

/-- **What is advertised can be claimed, and the other way round**, for an agent that has not
been at the task, exactly if the task is not open, or no run is at it and the submissions the
graph lists fill the policy if all of them do, or a run is at it and nothing is left. -/
theorem advertised_iff (htask : db.tasks taskId = some task) (hagent : agentId ≠ "")
    (hsubmission : db.priorSubmission taskId (some agentId) = 0)
    (hruns : db.priorRuns taskId (some agentId) = 0) :
    ((reviewWorkItem db scope taskId task).orchestration.canClaim = true ↔
        ∃ runId db', Review.claimReviewTaskById now db ⟨some agentId, taskId, workerId⟩ =
          .ok (some (runId, db'))) ↔
      (task.status = .open →
        if db.runningRuns taskId = 0 then
          (workSubmissions db scope taskId).length < task.policy.maxSubmissions ↔
            db.completedSubmissions taskId < task.policy.maxSubmissions
        else
          task.policy.maxSubmissions ≤
            db.completedSubmissions taskId + db.runningRuns taskId) := by
  rw [canClaim_reviewWorkItem, claimReviewTaskById_iff htask hagent hsubmission hruns]
  by_cases hopen : task.status = .open
  · by_cases hidle : db.runningRuns taskId = 0
    · simp only [hopen, hidle, true_and, Nat.add_zero, forall_const, if_true]
    · simp only [hopen, hidle, true_and, false_and, false_iff, not_lt, forall_const, if_false]
  · simp only [hopen, false_and, false_implies]

/-- The task of `Review.extractionTask`, new. -/
def oneTask : ReviewDb := Review.play .empty [(1, .createReviewTask ⟨Review.extractionTask⟩)]

/-- The task with room for two submissions: one agent has submitted, and another is at work. -/
def fullTask : ReviewDb := Review.play .empty
  [(1, .createReviewTask
      ⟨{ Review.extractionTask with consensusPolicy := ⟨some 2, some 2, some true⟩ }⟩),
    (2, .claimReviewTaskById ⟨some "7", 1, "worker-7"⟩),
    (3, .recordReviewSubmission (Review.submissionOf 1 "7" "submission-7")),
    (4, .claimReviewTaskById ⟨some "9", 1, "worker-9"⟩)]

/-- It is not offered, and a third agent cannot claim it. -/
theorem advertised_fullTask :
    ∃ task, fullTask.tasks 1 = some task ∧
      ((reviewWorkItem fullTask (.source 1) 1 task).orchestration.canClaim = true ↔
        ∃ runId db', Review.claimReviewTaskById 5 fullTask ⟨some "8", 1, "worker-8"⟩ =
          .ok (some (runId, db'))) := by
  refine ⟨_, rfl, (advertised_iff rfl (by decide) (by decide) (by decide)).mpr fun _ => ?_⟩
  rw [if_neg (by decide)]
  decide

/-- An agent has claimed the task. -/
def oneRun : ReviewDb :=
  Review.play oneTask [(2, .claimReviewTaskById ⟨some "7", 1, "worker-7"⟩)]

/-- **A task with room is not offered**: one of four has been claimed, another agent may claim
it, and the graph says that nobody may. -/
theorem unadvertised_oneRun :
    ∃ task, oneRun.tasks 1 = some task ∧
      oneRun.priorSubmission 1 (some "8") = 0 ∧ oneRun.priorRuns 1 (some "8") = 0 ∧
      (reviewWorkItem oneRun (.source 1) 1 task).orchestration.canClaim = false ∧
      ∃ runId db', Review.claimReviewTaskById 3 oneRun ⟨some "8", 1, "worker-8"⟩ =
        .ok (some (runId, db')) := by
  refine ⟨_, rfl, by decide, by decide, Bool.eq_false_iff.mpr fun hoffered => ?_,
    (claimReviewTaskById_iff rfl (by decide) (by decide) (by decide)).mpr
      ⟨by decide, by decide⟩⟩
  exact absurd (canClaim_reviewWorkItem.mp hoffered).2.1 (by decide)

end ScientificProtocol.Work
