import ScientificProtocol.Review.Store

/-!
# What a transaction of the review store does

The functions of the store, as the things that may happen to one task, one run or one
submission (`ScientificProtocol.Review.Step`), with what has been checked before each. A
call that expires several runs is several of them in a row, and every other call is one
(`ScientificProtocol.Review.exec_steps`), so that what every step keeps, every call keeps,
and every history of calls (`ScientificProtocol.Review.Runs`).
-/

namespace ScientificProtocol.Review

open RewardPolicy (ReviewTaskType ReviewTaskStatus)

/-! ### Calls, and histories of calls -/

inductive ReviewCall where
  | createReviewTask (input : CreateReviewTask)
  | claimReviewTaskById (input : ClaimReviewTaskById)
  | failReviewTaskRun (input : FailReviewTaskRun)
  | heartbeatReviewTaskRun (input : HeartbeatReviewTaskRun)
  | expireStaleReviewTaskRuns (input : ExpireStaleReviewTaskRuns)
  | recordReviewSubmission (input : RecordReviewSubmission)

/-- The tables after a call. A call that throws, or comes to nothing, leaves them alone. -/
def ReviewCall.exec (now : Time) (db : ReviewDb) : ReviewCall → ReviewDb
  | .createReviewTask input => (Review.createReviewTask now db input).2
  | .claimReviewTaskById input =>
    match Review.claimReviewTaskById now db input with
    | .ok (some (_, db')) => db'
    | _ => db
  | .failReviewTaskRun input => Review.failReviewTaskRun now db input
  | .heartbeatReviewTaskRun input => (Review.heartbeatReviewTaskRun now db input).getD db
  | .expireStaleReviewTaskRuns input => Review.expireStaleReviewTaskRuns now db input
  | .recordReviewSubmission input =>
    match Review.recordReviewSubmission now db input with
    | .ok (_, db') => db'
    | .error _ => db

/-- **Histories**: any calls in any order, at any times, of the kind that is allowed in the
state they find. -/
inductive Runs (p : ReviewDb → ReviewCall → Prop) : ReviewDb → ReviewDb → Prop
  | refl (db : ReviewDb) : Runs p db db
  | call {db db' : ReviewDb} (now : Time) (call : ReviewCall) :
      Runs p db db' → p db' call → Runs p db (call.exec now db')

/-- What the tables can become from nothing. -/
def Reachable (p : ReviewDb → ReviewCall → Prop) (db : ReviewDb) : Prop := Runs p .empty db

/-! ### Steps -/

/-- A run expires. -/
inductive Expires (now : Time) (db : ReviewDb) : ReviewDb → Prop
  | run {runId : ℕ} {run : ReviewTaskRun} :
      db.runs runId = some run → run.status = .running →
      db.hasStatus run.taskId .open = true → Expires now db (expireRun now db (runId, run))

/-- **What may happen to the rows.** -/
inductive Step (now : Time) (db : ReviewDb) : ReviewDb → Prop
  | create (spec : TaskSpec) :
      Step now db
        { db with
          tasks := db.tasks.insert
            { spec, status := .open, resultArtifactKey := none, updatedAt := now
              completedAt := none } }
  | claim {input : ClaimReviewTaskById} {task : ReviewTask} :
      db.tasks input.taskId = some task → task.status = .open →
      db.completedSubmissions input.taskId + db.runningRuns input.taskId <
        task.policy.maxSubmissions →
      Step now db (claimed now db input)
  | fail (input : FailReviewTaskRun) : Step now db (failReviewTaskRun now db input)
  | beat {runId : ℕ} {run : ReviewTaskRun} :
      db.runs runId = some run → run.status = .running →
      db.hasStatus run.taskId .open = true →
      Step now db
        { db with
          runs := db.runs.update runId fun run => run.beat now
          tasks := db.tasks.update run.taskId (ReviewTask.touch now) }
  | expire {db' : ReviewDb} : Expires now db db' → Step now db db'
  | submit {task : ReviewTask} {input : RecordReviewSubmission} :
      db.tasks input.taskId = some task → checkSubmission db task input = .ok () →
      Step now db (writeSubmission now db task input)

section

variable {now : Time} {db db' : ReviewDb}

theorem hasStatus_iff {taskId : ℕ} {status : ReviewTaskStatus} :
    db.hasStatus taskId status = true ↔
      ∃ task, db.tasks taskId = some task ∧ task.status = status := by
  simp only [ReviewDb.hasStatus, Option.any_eq_true, decide_eq_true_eq]

theorem hasRoom_iff {taskId : ℕ} {task : ReviewTask} : hasRoom db taskId task = true ↔
    db.completedSubmissions taskId + db.runningRuns taskId < task.policy.maxSubmissions := by
  simp only [hasRoom, Bool.and_eq_true, decide_eq_true_eq]
  omega

/-- **What claiming a task takes.** -/
theorem claimReviewTaskById_eq_ok {input : ClaimReviewTaskById} {runId : ℕ} :
    claimReviewTaskById now db input = .ok (some (runId, db')) ↔
      ∃ task, db.tasks input.taskId = some task ∧ task.status = .open ∧
        hasRoom db input.taskId task = true ∧
        isRepeated db input.taskId task input.agentId = false ∧
        db.runningIdentity input.taskId input.agentId input.workerId = false ∧
        db.runs.next = runId ∧ claimed now db input = db' := by
  unfold claimReviewTaskById
  cases htask : db.tasks input.taskId with
  | none => simp
  | some task =>
    simp only [Option.some.injEq, exists_eq_left']
    by_cases hopen : task.status = .open
    · cases hroom : hasRoom db input.taskId task <;>
        cases hrepeated : isRepeated db input.taskId task input.agentId <;>
          cases hidentity : db.runningIdentity input.taskId input.agentId input.workerId <;>
            simp [hopen]
    · simp [hopen]

theorem heartbeatReviewTaskRun_eq_some {input : HeartbeatReviewTaskRun}
    (h : heartbeatReviewTaskRun now db input = some db') : Step now db db' := by
  unfold heartbeatReviewTaskRun at h
  split at h
  next hheld =>
    obtain rfl := Option.some.inj h
    obtain ⟨hrun, hopen⟩ := Bool.and_eq_true_iff.mp hheld
    obtain ⟨run, hrow, hholder⟩ := (Option.any_eq_true _ _).mp hrun
    simp only [Bool.and_eq_true, decide_eq_true_eq] at hholder
    obtain ⟨⟨⟨htask, hrunning⟩, -⟩, -⟩ := hholder
    rw [← htask] at hopen ⊢
    exact .beat hrow hrunning hopen
  next => exact absurd h (by simp)

theorem recordReviewSubmission_eq_ok {input : RecordReviewSubmission} {submissionId : ℕ}
    (h : recordReviewSubmission now db input = .ok (submissionId, db')) :
    ∃ task, db.tasks input.taskId = some task ∧ checkSubmission db task input = .ok () ∧
      db' = writeSubmission now db task input := by
  unfold recordReviewSubmission at h
  split at h
  next => exact absurd h (by simp)
  next task htask =>
    cases hcheck : checkSubmission db task input with
    | error e =>
      rw [hcheck] at h
      exact absurd h (by simp [Bind.bind, Except.bind])
    | ok u =>
      rw [hcheck] at h
      exact ⟨task, htask, hcheck, (Prod.mk.inj (Except.ok.inj h)).2.symm⟩

/-- **What the checks of a submission say.** -/
structure Accepts (db : ReviewDb) (task : ReviewTask) (input : RecordReviewSubmission) : Prop where
  running : ∀ {runId}, input.runId = some runId → ∃ run, db.runs runId = some run ∧
    run.taskId = input.taskId ∧ run.status = .running
  unrepeated : isAgent input.reviewerAgentId = true →
    task.policy.requireDistinctAgents = true →
    db.priorSubmission input.taskId input.reviewerAgentId = 0
  unsubmitted : input.runId.isSome = true →
    db.submissions.count (fun _ row => decide (row.runId = input.runId)) = 0

theorem accepts_of_checkSubmission {task : ReviewTask} {input : RecordReviewSubmission}
    (h : checkSubmission db task input = .ok ()) : Accepts db task input := by
  unfold checkSubmission at h
  cases hrun : submittedRun db input with
  | error e =>
    rw [hrun] at h
    exact absurd h (by simp [Bind.bind, Except.bind])
  | ok u =>
    rw [hrun] at h
    simp only [Bind.bind, Except.bind, pure, Except.pure] at h
    split at h
    next => exact absurd h (by simp)
    next hfresh =>
      split at h
      next => exact absurd h (by simp)
      next hunsubmitted =>
        refine ⟨fun {runId} hrunId => ?_, fun hagent hdistinct => ?_, fun hsome => ?_⟩
        · simp only [submittedRun, hrunId] at hrun
          split at hrun
          next => exact absurd hrun (by simp)
          next run hrow =>
            split at hrun
            next => exact absurd hrun (by simp)
            next hat =>
              split at hrun
              next => exact absurd hrun (by simp)
              next hrunning => exact ⟨run, hrow, not_ne_iff.mp hat, not_ne_iff.mp hrunning⟩
        · simpa [hagent, hdistinct] using hfresh
        · simpa [hsome] using hunsubmitted

/-! ### Expiring -/

theorem mem_staleRuns {input : ExpireStaleReviewTaskRuns} {stale : ℕ × ReviewTaskRun}
    (h : stale ∈ staleRuns db input) :
    db.runs stale.1 = some stale.2 ∧ stale.2.status = .running ∧
      db.hasStatus stale.2.taskId .open = true := by
  obtain ⟨hrow, hstale⟩ :=
    Sql.Serial.mem_select.mp ((List.mergeSort_perm _ _).mem_iff.mp (List.mem_of_mem_take h))
  simp only [Bool.and_eq_true, decide_eq_true_eq] at hstale
  exact ⟨hrow, hstale.1.1.1, hstale.1.1.2⟩

theorem nodup_staleRuns (input : ExpireStaleReviewTaskRuns) :
    ((staleRuns db input).map Prod.fst).Nodup := by
  refine List.Nodup.sublist ((List.take_sublist _ _).map _) ?_
  exact ((List.mergeSort_perm _ _).map Prod.fst).nodup_iff.mpr (Sql.Serial.nodup_select _)

/-- Touching a task leaves every status alone. -/
theorem hasStatus_touch {taskId taskId' : ℕ} {status : ReviewTaskStatus} {runs submissions} :
    ReviewDb.hasStatus ⟨db.tasks.update taskId (ReviewTask.touch now), runs, submissions⟩ taskId'
      status = db.hasStatus taskId' status := by
  simp only [ReviewDb.hasStatus, Sql.Serial.update_apply]
  split
  · cases db.tasks taskId' <;> rfl
  · rfl

/-- Expiring runs one by one. -/
theorem expireRuns_steps (stale : List (ℕ × ReviewTaskRun)) :
    ∀ {db : ReviewDb}, (stale.map Prod.fst).Nodup →
      (∀ run ∈ stale, db.runs run.1 = some run.2 ∧ run.2.status = .running ∧
        db.hasStatus run.2.taskId .open = true) →
      Relation.ReflTransGen (Expires now) db (stale.foldl (expireRun now) db) := by
  induction stale with
  | nil => exact fun _ _ => .refl
  | cons run stale ih =>
    intro db hnodup hstale
    obtain ⟨hnotin, hnodup'⟩ := List.nodup_cons.mp hnodup
    obtain ⟨hrow, hrunning, hopen⟩ := hstale run List.mem_cons_self
    refine .head (.run hrow hrunning hopen) (ih hnodup' fun run' hrun' => ?_)
    obtain ⟨hrow', hrunning', hopen'⟩ := hstale run' (List.mem_cons_of_mem _ hrun')
    have hne : run'.1 ≠ run.1 := fun heq => hnotin (heq ▸ List.mem_map_of_mem hrun')
    refine ⟨?_, hrunning', ?_⟩
    · rw [expireRun, Sql.Serial.update_of_ne _ hne, hrow']
    · rw [expireRun, hasStatus_touch, hopen']

theorem expires_expireStaleReviewTaskRuns (now : Time) (db : ReviewDb)
    (input : ExpireStaleReviewTaskRuns) :
    Relation.ReflTransGen (Expires now) db (expireStaleReviewTaskRuns now db input) :=
  expireRuns_steps _ (nodup_staleRuns input) fun _ h => mem_staleRuns h

/-- Expiring runs adds no submission. -/
theorem submissions_expireRuns (stale : List (ℕ × ReviewTaskRun)) :
    ∀ db : ReviewDb, (stale.foldl (expireRun now) db).submissions = db.submissions := by
  induction stale with
  | nil => exact fun _ => rfl
  | cons run stale ih => exact fun db => (ih _).trans rfl

/-- **A call is a sequence of steps**, of one step or none where it does not expire runs. -/
theorem exec_steps (now : Time) (db : ReviewDb) (call : ReviewCall) :
    Relation.ReflTransGen (Step now) db (call.exec now db) := by
  cases call with
  | createReviewTask input =>
    simp only [ReviewCall.exec, createReviewTask]
    split
    · exact .refl
    · exact .single (.create _)
  | claimReviewTaskById input =>
    simp only [ReviewCall.exec]
    split
    next h =>
      obtain ⟨task, htask, hopen, hroom, -, -, -, rfl⟩ := claimReviewTaskById_eq_ok.mp h
      exact .single (.claim htask hopen (hasRoom_iff.mp hroom))
    next => exact .refl
  | failReviewTaskRun input => exact .single (.fail input)
  | heartbeatReviewTaskRun input =>
    simp only [ReviewCall.exec]
    cases h : heartbeatReviewTaskRun now db input with
    | none => exact .refl
    | some db' => exact .single (heartbeatReviewTaskRun_eq_some h)
  | expireStaleReviewTaskRuns input =>
    exact Relation.ReflTransGen.mono (fun _ _ => Step.expire) _ _
      (expires_expireStaleReviewTaskRuns now db input)
  | recordReviewSubmission input =>
    simp only [ReviewCall.exec]
    split
    next h =>
      obtain ⟨task, htask, hcheck, rfl⟩ := recordReviewSubmission_eq_ok h
      exact .single (.submit htask hcheck)
    next => exact .refl

end

/-! ### Rules -/

variable {p : ReviewDb → ReviewCall → Prop}

/-- **The history rule**: what every step keeps holds at the end of a history. -/
theorem Runs.invariant {Q : ReviewDb → Prop}
    (hstep : ∀ {now db db'}, Q db → Step now db db' → Q db')
    {db db' : ReviewDb} (h : Runs p db db') (hQ : Q db) : Q db' := by
  induction h with
  | refl => exact hQ
  | @call db₁ now call _ _ ih =>
    have hkept : ∀ {db₂}, Relation.ReflTransGen (Step now) db₁ db₂ → Q db₂ := fun hsteps => by
      induction hsteps with
      | refl => exact ih
      | tail _ hlast ih => exact hstep ih hlast
    exact hkept (exec_steps now db₁ call)

/-- A history goes on. -/
theorem Runs.trans {db db' db'' : ReviewDb} (h : Runs p db db') (h' : Runs p db' db'') :
    Runs p db db'' := by
  induction h' with
  | refl => exact h
  | call now call _ hp ih => exact .call now call ih hp

/-- What is allowed may be less. -/
theorem Runs.mono {q : ReviewDb → ReviewCall → Prop} (hpq : ∀ db call, p db call → q db call)
    {db db' : ReviewDb} (h : Runs p db db') : Runs q db db' := by
  induction h with
  | refl => exact .refl _
  | call now call _ hp ih => exact .call now call ih (hpq _ _ hp)

/-! ### Runs on given calls -/

/-- The tables after some calls, each with its time. -/
def play (db : ReviewDb) : List (Time × ReviewCall) → ReviewDb
  | [] => db
  | (now, call) :: calls => play (call.exec now db) calls

/-- Each of some calls is allowed in the state it finds. -/
def Allowed (p : ReviewDb → ReviewCall → Prop) (db : ReviewDb) : List (Time × ReviewCall) → Prop
  | [] => True
  | (now, call) :: calls => p db call ∧ Allowed p (call.exec now db) calls

theorem Runs.play {db : ReviewDb} {calls : List (Time × ReviewCall)} (h : Allowed p db calls) :
    Runs p db (play db calls) := by
  induction calls generalizing db with
  | nil => exact .refl db
  | cons c calls ih => exact (Runs.call c.1 c.2 (.refl db) h.1).trans (ih h.2)

end ScientificProtocol.Review
