import ScientificProtocol.Review.Step
import Mathlib.Data.List.Dedup

/-!
# Review tasks take no more than they have room for

A worker may start a run only while the submissions and the runs of the task leave room,
and a submission turns a run into itself, so that **submissions and runs together never
exceed what the policy admits** (`ScientificProtocol.Review.Capacity.room`). A submission
that names no run is beside this count, which is why the bound is about those that do.

| what | why it is kept |
|---|---|
| the room | claiming counts both, submitting moves one over, the rest can only free some |
| a run submits once | it is no longer running afterwards |
| agents are distinct | a submission looks for one of the same agent |
| completed means enough | it is completed when they are counted, and they stay |

`ScientificProtocol.Review.review_capacity` is the result.
-/

namespace ScientificProtocol.Review

open RewardPolicy (ReviewTaskType ReviewTaskStatus)

/-- How many submissions of a task come from a run. -/
def ReviewDb.runSubmissions (db : ReviewDb) (taskId : ℕ) : ℕ :=
  db.submissions.count fun _ submission =>
    decide (submission.taskId = taskId ∧ submission.runId.isSome = true)

/-- The invariant of the review tables. -/
structure Capacity (db : ReviewDb) : Prop where
  run_task : ∀ {runId run}, db.runs runId = some run → (db.tasks run.taskId).isSome = true
  submission_task : ∀ {k submission}, db.submissions k = some submission →
    (db.tasks submission.taskId).isSome = true
  submission_run : ∀ {k submission runId}, db.submissions k = some submission →
    submission.runId = some runId → ∃ run, db.runs runId = some run ∧ run.status ≠ .running
  once : ∀ {k k' submission submission'}, db.submissions k = some submission →
    db.submissions k' = some submission' → submission.runId.isSome = true →
    submission.runId = submission'.runId → k = k'
  room : ∀ {taskId task}, db.tasks taskId = some task →
    db.runSubmissions taskId + db.runningRuns taskId ≤ task.policy.maxSubmissions
  distinct : ∀ {k k' submission submission' task}, db.submissions k = some submission →
    db.submissions k' = some submission' → submission.taskId = submission'.taskId →
    db.tasks submission.taskId = some task → task.policy.requireDistinctAgents = true →
    isAgent submission.reviewerAgentId = true →
    submission.reviewerAgentId = submission'.reviewerAgentId → k = k'
  enough : ∀ {taskId task}, db.tasks taskId = some task → task.status = .completed →
    task.policy.minSubmissions ≤ db.completedSubmissions taskId

section

variable {now : Time} {db db' : ReviewDb} {taskId runId k : ℕ}

/-- A task that has been touched is the task it was. -/
theorem touch_eq_some {taskId' : ℕ} {task' : ReviewTask}
    (h : db.tasks.update taskId (ReviewTask.touch now) taskId' = some task') :
    ∃ task, db.tasks taskId' = some task ∧ task'.policy = task.policy ∧
      task'.status = task.status := by
  obtain ⟨task, htask, rfl⟩ := Sql.Serial.update_eq_some.mp h
  refine ⟨task, htask, ?_⟩
  split <;> exact ⟨rfl, rfl⟩

theorem isSome_update {f : ReviewTask → ReviewTask} {taskId' : ℕ} :
    (db.tasks.update taskId f taskId').isSome = (db.tasks taskId').isSome := by
  rw [Sql.Serial.update_apply]
  split <;> simp

theorem runSubmissions_le : db.runSubmissions taskId ≤ db.completedSubmissions taskId :=
  Sql.Serial.count_mono fun _ _ _ h => decide_eq_true (of_decide_eq_true h).1

/-! ### One step -/

theorem capacity_empty : Capacity .empty where
  run_task h := absurd h (by simp [ReviewDb.empty])
  submission_task h := absurd h (by simp [ReviewDb.empty])
  submission_run h := absurd h (by simp [ReviewDb.empty])
  once h := absurd h (by simp [ReviewDb.empty])
  room h := absurd h (by simp [ReviewDb.empty])
  distinct h := absurd h (by simp [ReviewDb.empty])
  enough h := absurd h (by simp [ReviewDb.empty])

/-- There is nothing at a task that is not there. -/
theorem Capacity.counts_of_none (h : Capacity db) (hnone : db.tasks taskId = none) :
    db.runSubmissions taskId = 0 ∧ db.runningRuns taskId = 0 := by
  refine ⟨Sql.Serial.count_eq_zero.mpr fun k s hs => ?_,
    Sql.Serial.count_eq_zero.mpr fun k run hrun => ?_⟩
  · refine decide_eq_false fun hat => ?_
    have htask := h.submission_task hs
    rw [hat.1, hnone] at htask
    exact absurd htask (by simp)
  · refine decide_eq_false fun hat => ?_
    have htask := h.run_task hrun
    rw [hat.1, hnone] at htask
    exact absurd htask (by simp)

theorem Capacity.create (h : Capacity db) {task : ReviewTask} (hopen : task.status = .open) :
    Capacity { db with tasks := db.tasks.insert task } := by
  have hkept : ∀ {taskId}, (db.tasks taskId).isSome = true →
      (db.tasks.insert task taskId).isSome = true := fun hsome => by
    obtain ⟨task', htask'⟩ := Option.isSome_iff_exists.mp hsome
    rw [Sql.Serial.insert_of_some htask']
    rfl
  refine ⟨fun hrun => hkept (h.run_task hrun), fun hs => hkept (h.submission_task hs),
    h.submission_run, h.once, fun {taskId task'} htask => ?_,
    fun {k k' s s' task'} hs hs' hsame htask => ?_, fun {taskId task'} htask hdone => ?_⟩
  · rcases Sql.Serial.insert_eq_some.mp htask with ⟨rfl, rfl⟩ | hold
    · obtain ⟨hsubmissions, hruns⟩ := h.counts_of_none (db.tasks.fresh _ (Nat.le_refl _))
      change db.runSubmissions _ + db.runningRuns _ ≤ _
      rw [hsubmissions, hruns]
      exact Nat.zero_le _
    · exact h.room hold
  · rcases Sql.Serial.insert_eq_some.mp htask with ⟨hnext, -⟩ | hold
    · have hsome := h.submission_task hs
      rw [hnext, db.tasks.fresh _ (Nat.le_refl _)] at hsome
      exact absurd hsome (by simp)
    · exact h.distinct hs hs' hsame hold
  · rcases Sql.Serial.insert_eq_some.mp htask with ⟨rfl, rfl⟩ | hold
    · rw [hopen] at hdone
      exact absurd hdone (by simp)
    · exact h.enough hold hdone

/-- A run starts where there is room for it. -/
theorem Capacity.claim (h : Capacity db) {run : ReviewTaskRun} {task : ReviewTask}
    (hat : run.taskId = taskId) (htask : db.tasks taskId = some task)
    (hroom : db.completedSubmissions taskId + db.runningRuns taskId <
      task.policy.maxSubmissions) :
    Capacity
      { db with
        runs := db.runs.insert run
        tasks := db.tasks.update taskId (ReviewTask.touch now) } := by
  subst hat
  refine ⟨fun {runId run'} hrun => ?_, fun hs => ?_, fun hs hrunId => ?_, h.once,
    fun {taskId task'} htask' => ?_, fun {k k' s s' task'} hs hs' hsame htask' => ?_,
    fun {taskId task'} htask' hdone => ?_⟩
  · rw [isSome_update]
    rcases Sql.Serial.insert_eq_some.mp hrun with ⟨-, rfl⟩ | hold
    · rw [htask]
      rfl
    · exact h.run_task hold
  · rw [isSome_update]
    exact h.submission_task hs
  · obtain ⟨run', hrun', hstopped⟩ := h.submission_run hs hrunId
    exact ⟨run', Sql.Serial.insert_of_some hrun', hstopped⟩
  · obtain ⟨task₀, htask₀, hpolicy, -⟩ := touch_eq_some htask'
    have hcount := Sql.Serial.count_insert (t := db.runs)
      (fun _ r => decide (r.taskId = taskId ∧ r.status = .running)) run
    have hold := h.room htask₀
    change db.runSubmissions taskId + (db.runs.insert run).count _ ≤ _
    rw [hpolicy, hcount]
    by_cases hat : run.taskId = taskId
    · subst hat
      obtain rfl := Option.some.inj (htask.symm.trans htask₀)
      have hle : db.runSubmissions run.taskId ≤ db.completedSubmissions run.taskId :=
        runSubmissions_le
      change _ + (db.runningRuns run.taskId + _) ≤ _
      split <;> omega
    · rw [if_neg (by simp [hat])]
      exact hold
  · obtain ⟨task₀, htask₀, hpolicy, -⟩ := touch_eq_some htask'
    rw [hpolicy]
    exact h.distinct hs hs' hsame htask₀
  · obtain ⟨task₀, htask₀, hpolicy, hstatus⟩ := touch_eq_some htask'
    rw [hpolicy]
    exact h.enough htask₀ (hstatus ▸ hdone)

/-- A run that is changed stays at its task, and does not start running again. -/
theorem Capacity.updateRun (h : Capacity db) {f : ReviewTaskRun → ReviewTaskRun}
    (hf : ∀ run, (f run).taskId = run.taskId ∧
      ((f run).status = .running → run.status = .running)) :
    Capacity
      { db with
        runs := db.runs.update runId f
        tasks := db.tasks.update taskId (ReviewTask.touch now) } := by
  refine ⟨fun {runId' run'} hrun => ?_, fun hs => ?_, fun {k s runId'} hs hrunId => ?_, h.once,
    fun {taskId' task'} htask' => ?_, fun {k k' s s' task'} hs hs' hsame htask' => ?_,
    fun {taskId' task'} htask' hdone => ?_⟩
  · obtain ⟨run, hrow, rfl⟩ := Sql.Serial.update_eq_some.mp hrun
    rw [isSome_update]
    split
    · rw [(hf run).1]
      exact h.run_task hrow
    · exact h.run_task hrow
  · rw [isSome_update]
    exact h.submission_task hs
  · obtain ⟨run, hrun, hstopped⟩ := h.submission_run hs hrunId
    refine ⟨_, Sql.Serial.update_eq_some.mpr ⟨run, hrun, rfl⟩, ?_⟩
    split
    · exact fun hrunning => hstopped ((hf run).2 hrunning)
    · exact hstopped
  · obtain ⟨task₀, htask₀, hpolicy, -⟩ := touch_eq_some htask'
    have hle : (db.runs.update runId f).count (fun _ r => decide (r.taskId = taskId' ∧
        r.status = .running)) ≤ db.runningRuns taskId' :=
      Sql.Serial.count_update_le fun run _ hat => by
        obtain ⟨hat, hrunning⟩ := of_decide_eq_true hat
        exact decide_eq_true ⟨(hf run).1 ▸ hat, (hf run).2 hrunning⟩
    rw [hpolicy]
    exact Nat.le_trans (Nat.add_le_add_left hle _) (h.room htask₀)
  · obtain ⟨task₀, htask₀, hpolicy, -⟩ := touch_eq_some htask'
    rw [hpolicy]
    exact h.distinct hs hs' hsame htask₀
  · obtain ⟨task₀, htask₀, hpolicy, hstatus⟩ := touch_eq_some htask'
    rw [hpolicy]
    exact h.enough htask₀ (hstatus ▸ hdone)

section

variable {task : ReviewTask} {input : RecordReviewSubmission}

/-- A submission only stops runs. -/
theorem exists_run_of_writeSubmission {run' : ReviewTaskRun}
    (hrun : (writeSubmission now db task input).runs runId = some run') :
    ∃ run, db.runs runId = some run ∧ run'.taskId = run.taskId ∧
      (run'.status = .running → run.status = .running) := by
  simp only [writeSubmission] at hrun
  split at hrun
  · obtain ⟨run, hrow, rfl⟩ := Sql.Serial.update_eq_some.mp hrun
    refine ⟨run, hrow, ?_⟩
    split
    · exact ⟨rfl, fun hrunning => absurd hrunning (by simp [ReviewTaskRun.complete])⟩
    · exact ⟨rfl, id⟩
  · exact ⟨run', hrun, rfl, id⟩

/-- A submission completes at most its task, once there are enough. -/
theorem exists_task_of_writeSubmission {task' : ReviewTask}
    (hrow : (writeSubmission now db task input).tasks taskId = some task') :
    ∃ task₀, db.tasks taskId = some task₀ ∧ task'.policy = task₀.policy ∧
      (task'.status = .completed → task₀.status = .completed ∨
        taskId = input.taskId ∧ task.policy.minSubmissions ≤
          (writeSubmission now db task input).completedSubmissions taskId) := by
  obtain ⟨task₀, htask₀, rfl⟩ := Sql.Serial.update_eq_some.mp hrow
  refine ⟨task₀, htask₀, ?_⟩
  split
  next hat =>
    subst hat
    split
    next henough => exact ⟨rfl, fun _ => .inr ⟨rfl, henough⟩⟩
    next => exact ⟨rfl, fun hdone => .inl hdone⟩
  next => exact ⟨rfl, .inl⟩

theorem isSome_tasks_writeSubmission (h : (db.tasks taskId).isSome = true) :
    ((writeSubmission now db task input).tasks taskId).isSome = true := by
  rw [show (writeSubmission now db task input).tasks _ = db.tasks.update _ _ _ from rfl,
    isSome_update, h]

/-- The run of the new submission is completed, and the others have stopped before. -/
theorem Capacity.submission_run_submit (h : Capacity db) (haccepts : Accepts db task input)
    {s : ReviewSubmission} (hs : (writeSubmission now db task input).submissions k = some s)
    (hrunId : s.runId = some runId) :
    ∃ run, (writeSubmission now db task input).runs runId = some run ∧
      run.status ≠ .running := by
  have hstopped : ∃ run, db.runs runId = some run ∧
      (run.status ≠ .running ∨ input.runId = some runId) := by
    rcases Sql.Serial.insert_eq_some.mp hs with ⟨-, rfl⟩ | hold
    · obtain ⟨run, hrun, -, -⟩ := haccepts.running hrunId
      exact ⟨run, hrun, .inr hrunId⟩
    · obtain ⟨run, hrun, hstopped⟩ := h.submission_run hold hrunId
      exact ⟨run, hrun, .inl hstopped⟩
  obtain ⟨run, hrun, hstopped⟩ := hstopped
  simp only [writeSubmission]
  split
  next runId' hrunId' =>
    refine ⟨_, Sql.Serial.update_eq_some.mpr ⟨run, hrun, rfl⟩, ?_⟩
    split
    next => simp [ReviewTaskRun.complete]
    next hne =>
      refine hstopped.resolve_right fun heq => hne ?_
      exact (Option.some.inj (hrunId'.symm.trans heq)).symm
  next hnone =>
    exact ⟨run, hrun, hstopped.resolve_right fun heq => by simp [hnone] at heq⟩

/-- The run of the new submission is that of no other one. -/
theorem Capacity.once_submit (h : Capacity db) (haccepts : Accepts db task input) {k' : ℕ}
    {s s' : ReviewSubmission} (hs : (writeSubmission now db task input).submissions k = some s)
    (hs' : (writeSubmission now db task input).submissions k' = some s')
    (hsubmitted : s.runId.isSome = true) (hsame : s.runId = s'.runId) : k = k' := by
  have hfresh : ∀ {k s}, db.submissions k = some s → input.runId.isSome = true →
      s.runId ≠ input.runId := fun hold hsome =>
    of_decide_eq_false (Sql.Serial.count_eq_zero.mp (haccepts.unsubmitted hsome) _ _ hold)
  rcases Sql.Serial.insert_eq_some.mp hs with ⟨rfl, rfl⟩ | hold <;>
    rcases Sql.Serial.insert_eq_some.mp hs' with ⟨rfl, rfl⟩ | hold'
  · rfl
  · exact absurd hsame.symm (hfresh hold' hsubmitted)
  · have hsubmitted' : input.runId.isSome = true := by
      rw [← show s.runId = input.runId from hsame, hsubmitted]
    exact absurd hsame (hfresh hold hsubmitted')
  · exact h.once hold hold' hsubmitted hsame

/-- A submission moves one over from the runs to the submissions. -/
theorem Capacity.room_submit (h : Capacity db) (haccepts : Accepts db task input)
    {task' : ReviewTask} (hrow : (writeSubmission now db task input).tasks taskId = some task') :
    (writeSubmission now db task input).runSubmissions taskId +
      (writeSubmission now db task input).runningRuns taskId ≤ task'.policy.maxSubmissions := by
  obtain ⟨task₀, htask₀, hpolicy, -⟩ := exists_task_of_writeSubmission hrow
  have hroom := h.room htask₀
  have hsubmissions := Sql.Serial.count_insert (t := db.submissions)
    (fun _ s => decide (s.taskId = taskId ∧ s.runId.isSome = true))
  rw [hpolicy]
  change (db.submissions.insert _).count _ + _ ≤ _
  rw [hsubmissions]
  change db.runSubmissions taskId + _ + _ ≤ _
  simp only [ReviewDb.runningRuns, writeSubmission] at hroom ⊢
  cases hrunId : input.runId with
  | none => simpa using hroom
  | some runId =>
    obtain ⟨run, hrun, hat, hrunning⟩ := haccepts.running hrunId
    have hcount := Sql.Serial.count_update (f := ReviewTaskRun.complete now)
      (fun (_ : ℕ) (r : ReviewTaskRun) => decide (r.taskId = taskId ∧ r.status = .running)) hrun
    have hbefore : decide (run.taskId = taskId ∧ run.status = .running) =
        decide (input.taskId = taskId) := by rw [hat, hrunning]; simp
    have hafter : decide ((run.complete now).taskId = taskId ∧
        (run.complete now).status = .running) = false := by simp [ReviewTaskRun.complete]
    rw [hbefore, hafter] at hcount
    by_cases htaskId : input.taskId = taskId
    · simp only [htaskId, Option.isSome_some, and_self, decide_true, if_true,
        Bool.false_eq_true, if_false] at hcount ⊢
      omega
    · simp only [htaskId, false_and, decide_false, Bool.false_eq_true, if_false] at hcount ⊢
      omega

/-- The agent of the new submission is that of no other one of the task, where it matters. -/
theorem Capacity.distinct_submit (h : Capacity db) (htask : db.tasks input.taskId = some task)
    (haccepts : Accepts db task input) {k' : ℕ} {s s' : ReviewSubmission} {task' : ReviewTask}
    (hs : (writeSubmission now db task input).submissions k = some s)
    (hs' : (writeSubmission now db task input).submissions k' = some s')
    (hsame : s.taskId = s'.taskId)
    (hrow : (writeSubmission now db task input).tasks s.taskId = some task') :
    task'.policy.requireDistinctAgents = true → isAgent s.reviewerAgentId = true →
      s.reviewerAgentId = s'.reviewerAgentId → k = k' := by
  obtain ⟨task₀, htask₀, hpolicy, -⟩ := exists_task_of_writeSubmission hrow
  rw [hpolicy]
  intro hdistinct hagent hsameAgent
  have hfresh : ∀ {k s}, db.submissions k = some s → s.taskId = input.taskId →
      task₀ = task → isAgent input.reviewerAgentId = true →
      s.reviewerAgentId ≠ input.reviewerAgentId := by
    rintro k s hold hat rfl hagent heq
    have hzero := haccepts.unrepeated hagent hdistinct
    exact absurd ⟨hat, heq⟩ (of_decide_eq_false (Sql.Serial.count_eq_zero.mp hzero _ _ hold))
  rcases Sql.Serial.insert_eq_some.mp hs with ⟨rfl, rfl⟩ | hold <;>
    rcases Sql.Serial.insert_eq_some.mp hs' with ⟨rfl, rfl⟩ | hold'
  · rfl
  · exact absurd hsameAgent.symm (hfresh hold' hsame.symm
      (Option.some.inj (htask₀.symm.trans htask)) hagent)
  · have hagent' : isAgent input.reviewerAgentId = true := by
      rw [← show s.reviewerAgentId = input.reviewerAgentId from hsameAgent, hagent]
    refine absurd hsameAgent (hfresh hold hsame ?_ hagent')
    rw [hsame] at htask₀
    exact Option.some.inj (htask₀.symm.trans htask)
  · exact h.distinct hold hold' hsame htask₀ hdistinct hagent hsameAgent

/-- **A submission takes the place of its run.** -/
theorem Capacity.submit (h : Capacity db) (htask : db.tasks input.taskId = some task)
    (haccepts : Accepts db task input) : Capacity (writeSubmission now db task input) := by
  refine ⟨fun hrun => ?_, fun hs => ?_, h.submission_run_submit haccepts,
    h.once_submit haccepts, h.room_submit haccepts, h.distinct_submit htask haccepts,
    fun {taskId task'} hrow hdone => ?_⟩
  · obtain ⟨run, hrow, hat, -⟩ := exists_run_of_writeSubmission hrun
    rw [hat]
    exact isSome_tasks_writeSubmission (h.run_task hrow)
  · rcases Sql.Serial.insert_eq_some.mp hs with ⟨-, rfl⟩ | hold
    · exact isSome_tasks_writeSubmission (by rw [htask]; rfl)
    · exact isSome_tasks_writeSubmission (h.submission_task hold)
  · obtain ⟨task₀, htask₀, hpolicy, henough⟩ := exists_task_of_writeSubmission hrow
    rw [hpolicy]
    rcases henough hdone with hbefore | ⟨rfl, henough⟩
    · refine Nat.le_trans (h.enough htask₀ hbefore) ?_
      have hcount := Sql.Serial.count_insert (t := db.submissions)
        (fun _ s => decide (s.taskId = taskId))
      change _ ≤ (db.submissions.insert _).count _
      rw [hcount]
      exact Nat.le_add_right _ _
    · obtain rfl := Option.some.inj (htask₀.symm.trans htask)
      exact henough

end

/-- **Every step keeps the invariant.** -/
theorem Capacity.step (h : Capacity db) (hstep : Step now db db') : Capacity db' := by
  cases hstep with
  | create spec => exact h.create rfl
  | claim htask _ hroom => exact h.claim rfl htask hroom
  | fail input => exact h.updateRun fun run => ⟨rfl, fun hrunning => absurd hrunning nofun⟩
  | beat _ _ _ => exact h.updateRun fun run => ⟨rfl, id⟩
  | expire hexpires =>
    cases hexpires with
    | run _ _ _ => exact h.updateRun fun run => ⟨rfl, fun hrunning => absurd hrunning nofun⟩
  | submit htask hcheck => exact h.submit htask (accepts_of_checkSubmission hcheck)

end

/-! ### Every history -/

theorem capacity_of_reachable {p : ReviewDb → ReviewCall → Prop} {db : ReviewDb}
    (h : Reachable p db) : Capacity db :=
  h.invariant (fun hkept hstep => hkept.step hstep) capacity_empty

/-- A submission names the run it comes from. -/
def ReviewCall.NamesRun : ReviewCall → Prop
  | .recordReviewSubmission input => input.runId.isSome = true
  | _ => True

/-- Every submission of the tables comes from a run. -/
def ReviewDb.RunsNamed (db : ReviewDb) : Prop :=
  ∀ k submission, db.submissions k = some submission → submission.runId.isSome = true

theorem runsNamed_of_reachable {db : ReviewDb} (h : Reachable (fun _ call => call.NamesRun) db) :
    db.RunsNamed := by
  induction h with
  | refl => exact fun _ _ h => absurd h (by simp [ReviewDb.empty])
  | @call db now call _ hnames ih =>
    -- Only a submission adds one.
    have hsame : ∀ {db' : ReviewDb}, db'.submissions = db.submissions → db'.RunsNamed :=
      fun heq k s hs => ih k s (heq ▸ hs)
    cases call with
    | createReviewTask input =>
      refine hsame ?_
      simp only [ReviewCall.exec, createReviewTask]
      split <;> rfl
    | claimReviewTaskById input =>
      refine hsame ?_
      simp only [ReviewCall.exec]
      split
      next h =>
        obtain ⟨-, -, -, -, -, -, -, rfl⟩ := claimReviewTaskById_eq_ok.mp h
        rfl
      next => rfl
    | failReviewTaskRun input => exact hsame rfl
    | heartbeatReviewTaskRun input =>
      refine hsame ?_
      simp only [ReviewCall.exec, heartbeatReviewTaskRun]
      split <;> rfl
    | expireStaleReviewTaskRuns input => exact hsame (submissions_expireRuns _ _)
    | recordReviewSubmission input =>
      simp only [ReviewCall.exec]
      split
      next h =>
        obtain ⟨task, -, -, rfl⟩ := recordReviewSubmission_eq_ok h
        intro k s hs
        rcases Sql.Serial.insert_eq_some.mp hs with ⟨-, rfl⟩ | hold
        · exact hnames
        · exact ih k s hold
      next => exact ih

/-- Every run and every submission of a task carries an agent. -/
def ReviewDb.AgentsNamed (db : ReviewDb) (taskId : ℕ) : Prop :=
  (∀ {k run}, db.runs k = some run → run.taskId = taskId → isAgent run.agentId = true) ∧
    ∀ {k submission}, db.submissions k = some submission → submission.taskId = taskId →
      isAgent submission.reviewerAgentId = true

/-- The agents that have submitted to a task, each once. -/
def ReviewDb.submittedAgents (db : ReviewDb) (taskId : ℕ) : List (Option String) :=
  ((db.submissions.select fun _ submission => decide (submission.taskId = taskId)).map
    fun submission => submission.2.reviewerAgentId).dedup

/-- Where agents are distinct, there are as many of them as submissions. -/
theorem Capacity.length_submittedAgents {db : ReviewDb} (h : Capacity db) {taskId : ℕ}
    {task : ReviewTask} (htask : db.tasks taskId = some task)
    (hdistinct : task.policy.requireDistinctAgents = true) (hnamed : db.AgentsNamed taskId) :
    (db.submittedAgents taskId).length = db.completedSubmissions taskId := by
  have hnodup : ((db.submissions.select fun _ submission =>
      decide (submission.taskId = taskId)).map fun submission =>
        submission.2.reviewerAgentId).Nodup := by
    refine List.Nodup.map_on (fun s hs s' hs' hagent => ?_)
      (List.Nodup.of_map _ (Sql.Serial.nodup_select _))
    obtain ⟨hrow, hat⟩ := Sql.Serial.mem_select.mp hs
    obtain ⟨hrow', hat'⟩ := Sql.Serial.mem_select.mp hs'
    have hat := of_decide_eq_true hat
    have hkey : s.1 = s'.1 :=
      h.distinct hrow hrow' (hat.trans (of_decide_eq_true hat').symm) (hat ▸ htask) hdistinct
        (hnamed.2 hrow hat) hagent
    have hrow'' := hkey ▸ hrow'
    exact Prod.ext hkey (Option.some.inj (hrow.symm.trans hrow''))
  rw [ReviewDb.submittedAgents, hnodup.dedup, List.length_map]
  rfl

/-- **Review capacity and distinctness**: submissions and running runs together never exceed
what the policy admits, and a run yields one submission at most; where the policy asks for
distinct agents, none submits twice, and a completed task has enough of them. -/
theorem review_capacity {db : ReviewDb} (h : Reachable (fun _ call => call.NamesRun) db) :
    (∀ {taskId task}, db.tasks taskId = some task →
      db.completedSubmissions taskId + db.runningRuns taskId ≤ task.policy.maxSubmissions) ∧
    (∀ runId, db.submissions.count (fun _ submission =>
      decide (submission.runId = some runId)) ≤ 1) ∧
    ∀ {taskId task}, db.tasks taskId = some task →
      task.policy.requireDistinctAgents = true → db.AgentsNamed taskId →
      (∀ agentId, db.priorSubmission taskId agentId ≤ 1) ∧
      (task.status = .completed →
        task.policy.minSubmissions ≤ (db.submittedAgents taskId).length) := by
  have hcapacity := capacity_of_reachable h
  refine ⟨fun {taskId task} htask => ?_, fun runId => ?_,
    fun {taskId task} htask hdistinct hnamed => ⟨fun agentId => ?_, fun hdone => ?_⟩⟩
  · have hle : db.completedSubmissions taskId ≤ db.runSubmissions taskId :=
      Sql.Serial.count_mono fun _ _ hs hat =>
        decide_eq_true ⟨of_decide_eq_true hat, runsNamed_of_reachable h _ _ hs⟩
    exact Nat.le_trans (Nat.add_le_add_right hle _) (hcapacity.room htask)
  · refine Sql.Serial.count_le_one fun hs hs' hrun hrun' => ?_
    have hrun := of_decide_eq_true hrun
    exact hcapacity.once hs hs' (by rw [hrun]; rfl) (hrun.trans (of_decide_eq_true hrun').symm)
  · refine Sql.Serial.count_le_one fun hs hs' hat hat' => ?_
    obtain ⟨hat, hagent⟩ := of_decide_eq_true hat
    obtain ⟨hat', hagent'⟩ := of_decide_eq_true hat'
    exact hcapacity.distinct hs hs' (hat.trans hat'.symm) (hat ▸ htask) hdistinct
      (hnamed.2 hs hat) (hagent.trans hagent'.symm)
  · rw [hcapacity.length_submittedAgents htask hdistinct hnamed]
    exact hcapacity.enough htask hdone

/-! ### Two agents at one task -/

/-- A task that wants two submissions of distinct agents, and takes four. -/
def extractionTask : TaskSpec where
  claimId := none
  sourceId := some 1
  subjectType := "source_record"
  subjectId := "1"
  taskType := .claimExtractionCheck
  scopeKey := "source:1:extract"
  schemaVersion := "review-task.v1"
  requestedBy := "source-ingress"
  requiredCapabilities := ["claim-extraction", "literature-scan"]
  inputArtifactKeys := []
  consensusPolicy := ⟨some 2, some 4, some true⟩
  createdAt := 0

/-- Agent `agentId` submits for a run. -/
def submissionOf (runId : ℕ) (agentId result : String) : RecordReviewSubmission where
  claimId := none
  confidenceBps := 9000
  evidenceArtifactKey := none
  resultArtifactKey := some result
  reviewerActor := "0xab"
  reviewerAgentId := some agentId
  runId := some runId
  sourceId := none
  taskId := 1
  verdict := "pass"

/-- Two agents claim the task and submit. -/
def twoSubmissions : List (Time × ReviewCall) :=
  [(1, .createReviewTask ⟨extractionTask⟩),
   (2, .claimReviewTaskById ⟨some "7", 1, "worker-7"⟩),
   (3, .claimReviewTaskById ⟨some "8", 1, "worker-8"⟩),
   (4, .recordReviewSubmission (submissionOf 1 "7" "a")),
   (5, .recordReviewSubmission (submissionOf 2 "8" "b"))]

theorem review_capacity_twoSubmissions :
    (play .empty twoSubmissions).completedSubmissions 1 = 2 ∧
      (play .empty twoSubmissions).completedSubmissions 1 +
        (play .empty twoSubmissions).runningRuns 1 ≤ 4 := by
  have hallowed : Allowed (fun _ call => call.NamesRun) .empty twoSubmissions :=
    ⟨trivial, trivial, trivial, rfl, rfl, trivial⟩
  refine ⟨by decide, ?_⟩
  have htask : ∃ task, (play .empty twoSubmissions).tasks 1 = some task ∧
      task.policy.maxSubmissions = 4 := ⟨_, rfl, by decide⟩
  obtain ⟨task, htask, hmax⟩ := htask
  exact hmax ▸ (review_capacity (Runs.play hallowed)).1 htask

end ScientificProtocol.Review
