import ScientificProtocol.Review.Capacity

/-!
# What has ended in the review store

A task that is completed, canceled or escalated, and a run that is completed or failed,
are meant to stay what they are. Whether they do is a matter of what each function looks
at before it writes.

| function | may it write to what has ended? |
|---|---|
| `claimReviewTaskById`, `heartbeatReviewTaskRun`, `expireStaleReviewTaskRuns` | no |
| `failReviewTaskRun` | yes: it fails a run that is completed |
| `recordReviewSubmission` | yes: it takes a submission for a task that has ended |

So what has ended is left alone exactly while neither of the two happens
(`ScientificProtocol.Review.terminal_iff`).
-/

namespace ScientificProtocol.Review

open RewardPolicy (ReviewTaskType ReviewTaskStatus)

/-- **What has ended is left alone**: the status, the result and the completion time of a
task, how many submissions it has, and the status of a run. -/
structure TerminalKept (db db' : ReviewDb) : Prop where
  task : ∀ {taskId task}, db.tasks taskId = some task → task.status ≠ .open →
    ∃ task', db'.tasks taskId = some task' ∧ task'.status = task.status ∧
      task'.resultArtifactKey = task.resultArtifactKey ∧ task'.completedAt = task.completedAt ∧
      db'.completedSubmissions taskId = db.completedSubmissions taskId
  run : ∀ {runId run}, db.runs runId = some run → run.status ≠ .running →
    ∃ run', db'.runs runId = some run' ∧ run'.status = run.status

/-- A call that writes to what has ended. -/
def ReviewCall.Disturbs (db : ReviewDb) : ReviewCall → Prop
  | .failReviewTaskRun input =>
    ∃ run, db.runs input.runId = some run ∧ run.status = .completed
  | .recordReviewSubmission input =>
    ∃ task, db.tasks input.taskId = some task ∧ task.status ≠ .open ∧
      checkSubmission db task input = .ok ()
  | _ => False

section

variable {now : Time} {db db' db'' : ReviewDb} {taskId runId : ℕ}

theorem TerminalKept.refl (db : ReviewDb) : TerminalKept db db :=
  ⟨fun htask _ => ⟨_, htask, rfl, rfl, rfl, rfl⟩, fun hrun _ => ⟨_, hrun, rfl⟩⟩

theorem TerminalKept.trans (h : TerminalKept db db') (h' : TerminalKept db' db'') :
    TerminalKept db db'' := by
  refine ⟨fun htask hended => ?_, fun hrun hended => ?_⟩
  · obtain ⟨task', htask', hstatus, hresult, hcompleted, hcount⟩ := h.task htask hended
    obtain ⟨task'', htask'', hstatus', hresult', hcompleted', hcount'⟩ :=
      h'.task htask' (hstatus ▸ hended)
    exact ⟨task'', htask'', hstatus'.trans hstatus, hresult'.trans hresult,
      hcompleted'.trans hcompleted, hcount'.trans hcount⟩
  · obtain ⟨run', hrun', hstatus⟩ := h.run hrun hended
    obtain ⟨run'', hrun'', hstatus'⟩ := h'.run hrun' (hstatus ▸ hended)
    exact ⟨run'', hrun'', hstatus'.trans hstatus⟩

/-- Touching a task, and changing a run that has not ended, or not in its status. -/
theorem terminalKept_update {f : ReviewTaskRun → ReviewTaskRun}
    (hf : ∀ run, db.runs runId = some run → run.status = .running ∨
      (f run).status = run.status) :
    TerminalKept db
      { db with
        runs := db.runs.update runId f
        tasks := db.tasks.update taskId (ReviewTask.touch now) } := by
  refine ⟨fun {taskId' task} htask _ => ?_, fun {runId' run} hrun hended => ?_⟩
  · refine ⟨_, Sql.Serial.update_eq_some.mpr ⟨task, htask, rfl⟩, ?_⟩
    split <;> exact ⟨rfl, rfl, rfl, rfl⟩
  · refine ⟨_, Sql.Serial.update_eq_some.mpr ⟨run, hrun, rfl⟩, ?_⟩
    split
    next heq =>
      subst heq
      exact (hf run hrun).resolve_left hended
    next => rfl

theorem Expires.terminalKept (h : Expires now db db') : TerminalKept db db' := by
  cases h with
  | run hrun hrunning _ =>
    exact terminalKept_update fun run hrow =>
      .inl (Option.some.inj (hrun.symm.trans hrow) ▸ hrunning)

theorem terminalKept_claimed {input : ClaimReviewTaskById} :
    TerminalKept db (claimed now db input) := by
  refine ⟨fun {taskId task} htask _ => ?_, fun hrun _ => ⟨_, Sql.Serial.insert_of_some hrun, rfl⟩⟩
  refine ⟨_, Sql.Serial.update_eq_some.mpr ⟨task, htask, rfl⟩, ?_⟩
  split <;> exact ⟨rfl, rfl, rfl, rfl⟩

/-- A submission for a task that is open. -/
theorem terminalKept_writeSubmission {task : ReviewTask} {input : RecordReviewSubmission}
    (htask : db.tasks input.taskId = some task) (hopen : task.status = .open)
    (haccepts : Accepts db task input) : TerminalKept db (writeSubmission now db task input) := by
  refine ⟨fun {taskId task₀} htask₀ hended => ?_, fun {runId run} hrun hended => ?_⟩
  · have hne : taskId ≠ input.taskId := by
      rintro rfl
      exact hended (Option.some.inj (htask.symm.trans htask₀) ▸ hopen)
    refine ⟨task₀, ?_, rfl, rfl, rfl, ?_⟩
    · exact (Sql.Serial.update_of_ne _ hne _).trans htask₀
    · refine (Sql.Serial.count_insert _ _).trans ?_
      rw [if_neg (by simp [Ne.symm hne])]
      rfl
  · simp only [writeSubmission]
    split
    next runId' hrunId =>
      obtain ⟨run₀, hrun₀, -, hrunning⟩ := haccepts.running hrunId
      have hne : runId ≠ runId' := by
        rintro rfl
        exact hended (Option.some.inj (hrun₀.symm.trans hrun) ▸ hrunning)
      exact ⟨run, (Sql.Serial.update_of_ne _ hne _).trans hrun, rfl⟩
    next => exact ⟨run, hrun, rfl⟩

/-! ### One call -/

/-- **A call that does not disturb leaves alone what has ended.** -/
theorem terminalKept_exec {call : ReviewCall} (h : ¬call.Disturbs db) :
    TerminalKept db (call.exec now db) := by
  cases call with
  | createReviewTask input =>
    simp only [ReviewCall.exec, createReviewTask]
    split
    · exact .refl db
    · exact ⟨fun htask _ => ⟨_, Sql.Serial.insert_of_some htask, rfl, rfl, rfl, rfl⟩,
        fun hrun _ => ⟨_, hrun, rfl⟩⟩
  | claimReviewTaskById input =>
    simp only [ReviewCall.exec]
    split
    next hclaimed =>
      obtain ⟨-, -, -, -, -, -, -, rfl⟩ := claimReviewTaskById_eq_ok.mp hclaimed
      exact terminalKept_claimed
    next => exact .refl db
  | failReviewTaskRun input =>
    refine terminalKept_update fun run hrun => ?_
    cases hstatus : run.status with
    | running => exact .inl rfl
    | failed => exact .inr rfl
    | completed => exact absurd ⟨run, hrun, hstatus⟩ h
  | heartbeatReviewTaskRun input =>
    simp only [ReviewCall.exec, heartbeatReviewTaskRun]
    split
    · exact terminalKept_update fun run _ => .inr rfl
    · exact .refl db
  | expireStaleReviewTaskRuns input =>
    have hkept : ∀ {db₁}, Relation.ReflTransGen (Expires now) db db₁ → TerminalKept db db₁ :=
      fun hsteps => by
        induction hsteps with
        | refl => exact .refl db
        | tail _ hlast ih => exact ih.trans hlast.terminalKept
    exact hkept (expires_expireStaleReviewTaskRuns now db input)
  | recordReviewSubmission input =>
    simp only [ReviewCall.exec]
    split
    next hrecorded =>
      obtain ⟨task, htask, hcheck, rfl⟩ := recordReviewSubmission_eq_ok hrecorded
      refine terminalKept_writeSubmission htask ?_ (accepts_of_checkSubmission hcheck)
      by_contra hended
      exact h ⟨task, htask, hended, hcheck⟩
    next => exact .refl db

/-- **A call that disturbs does not.** -/
theorem not_terminalKept_exec {call : ReviewCall} (h : call.Disturbs db) :
    ¬TerminalKept db (call.exec now db) := by
  intro hkept
  cases call with
  | failReviewTaskRun input =>
    obtain ⟨run, hrun, hdone⟩ := h
    obtain ⟨run', hrun', hstatus⟩ := hkept.run hrun (by simp [hdone])
    have hfailed : (failReviewTaskRun now db input).runs input.runId =
        some (run.fail now input.failureReason) := by
      rw [failReviewTaskRun, Sql.Serial.update_self, hrun, Option.map_some]
    obtain rfl := Option.some.inj (hfailed.symm.trans hrun')
    rw [hdone] at hstatus
    exact absurd hstatus (by simp [ReviewTaskRun.fail])
  | recordReviewSubmission input =>
    obtain ⟨task, htask, hended, hcheck⟩ := h
    obtain ⟨-, -, -, -, -, hcount⟩ := hkept.task htask hended
    have hrecorded : ReviewCall.exec now db (.recordReviewSubmission input) =
        writeSubmission now db task input := by
      simp only [ReviewCall.exec, recordReviewSubmission, htask, hcheck]
      rfl
    rw [hrecorded] at hcount
    have hmore := Sql.Serial.count_insert (t := db.submissions)
      (fun _ s => decide (s.taskId = input.taskId))
    change (db.submissions.insert _).count _ = db.submissions.count _ at hcount
    rw [hmore, if_pos (decide_eq_true rfl)] at hcount
    omega
  | createReviewTask | claimReviewTaskById | heartbeatReviewTaskRun
  | expireStaleReviewTaskRuns => exact h

end

/-- **Terminal review states are absorbing exactly while no call disturbs them**: in every
history without such a call, whatever has ended at some moment is the same ever after, and a
call keeps what has ended exactly if it is no such call. -/
theorem terminal_iff (db : ReviewDb) :
    (∀ {db'}, Reachable (fun db call => ¬call.Disturbs db) db →
      Runs (fun db call => ¬call.Disturbs db) db db' → TerminalKept db db') ∧
    ∀ now (call : ReviewCall), TerminalKept db (call.exec now db) ↔ ¬call.Disturbs db := by
  refine ⟨fun _ hruns => ?_, fun now call => ⟨fun hkept h => not_terminalKept_exec h hkept,
    terminalKept_exec⟩⟩
  induction hruns with
  | refl => exact .refl _
  | call now call _ hquiet ih => exact ih.trans (terminalKept_exec hquiet)

/-! ### A third agent, too late -/

/-- Three agents claim the task, and two of them submit. -/
def threeRuns : List (Time × ReviewCall) :=
  [(1, .createReviewTask ⟨extractionTask⟩),
   (2, .claimReviewTaskById ⟨some "7", 1, "worker-7"⟩),
   (2, .claimReviewTaskById ⟨some "8", 1, "worker-8"⟩),
   (3, .claimReviewTaskById ⟨some "9", 1, "worker-9"⟩),
   (4, .recordReviewSubmission (submissionOf 1 "7" "a")),
   (5, .recordReviewSubmission (submissionOf 2 "8" "b"))]

/-- The third one submits after them, and the run of the first one fails after its
submission. -/
def lateCalls : List (Time × ReviewCall) :=
  [(6, .recordReviewSubmission (submissionOf 3 "9" "c")),
   (7, .failReviewTaskRun ⟨"fetch failed", 1, 1⟩)]

/-- A submission for an open task disturbs nothing. -/
theorem not_disturbs_of_open {db : ReviewDb} {input : RecordReviewSubmission}
    (h : db.hasStatus input.taskId .open = true) :
    ¬(ReviewCall.recordReviewSubmission input).Disturbs db := by
  rintro ⟨task, htask, hended, -⟩
  obtain ⟨task', htask', hopen⟩ := hasStatus_iff.mp h
  exact hended (Option.some.inj (htask.symm.trans htask') ▸ hopen)

/-- Up to there, nothing disturbs; and the task that is completed then stays what it is. -/
theorem terminal_iff_threeRuns :
    (play .empty threeRuns).hasStatus 1 .completed = true ∧
      TerminalKept (play .empty threeRuns)
        (play (play .empty threeRuns) [(6, .createReviewTask ⟨extractionTask⟩)]) := by
  refine ⟨by decide, (terminal_iff _).1 (Runs.play ?_) (Runs.play ⟨id, trivial⟩)⟩
  exact ⟨id, id, id, id, not_disturbs_of_open (by decide), not_disturbs_of_open (by decide),
    trivial⟩

/-- **What has ended is written to**: a task that is completed takes one more submission and
gets another result, and a run that is completed becomes one that failed. -/
theorem terminal_disturbed :
    ∃ db db', Reachable (fun _ _ => True) db ∧ Runs (fun _ _ => True) db db' ∧
      (db.tasks 1).map ReviewTask.status = some .completed ∧
      (db.tasks 1).map ReviewTask.resultArtifactKey = some (some "b") ∧
      (db'.tasks 1).map ReviewTask.resultArtifactKey = some (some "c") ∧
      db.completedSubmissions 1 = 2 ∧ db'.completedSubmissions 1 = 3 ∧
      (db.runs 1).map ReviewTaskRun.status = some .completed ∧
      (db'.runs 1).map ReviewTaskRun.status = some .failed ∧ ¬TerminalKept db db' := by
  have hany : ∀ {db : ReviewDb} {calls}, Allowed (fun _ _ => True) db calls := by
    intro db calls
    induction calls generalizing db with
    | nil => trivial
    | cons c calls ih => exact ⟨trivial, ih⟩
  refine ⟨play .empty threeRuns, play (play .empty threeRuns) lateCalls, Runs.play hany,
    Runs.play hany, by decide, by decide, by decide, by decide, by decide, by decide, by decide,
    fun hkept => ?_⟩
  obtain ⟨run', hrun', hstatus⟩ := hkept.run (show (play .empty threeRuns).runs 1 = some _ from rfl)
    (by decide)
  obtain rfl := Option.some.inj hrun'
  exact absurd hstatus (by decide)

end ScientificProtocol.Review
