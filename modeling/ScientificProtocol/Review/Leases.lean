import ScientificProtocol.Review.Terminal
import ScientificProtocol.Work.Graph

/-!
# Runs that can end

A run is given up by its worker, or taken from it: heartbeats keep it, and once they stop
for too long the reaper fails it, so that its place is free again. Both look at the task
first, and act only where it is open. So a run can end this way exactly if its task is
open (`ScientificProtocol.Review.endable_iff`), and a run that is still running when its
task is completed is out of reach: its worker is turned away, the reaper passes it over,
and the work graph shows the item as leased.

A task is completed by the last submission it needs, whatever else is running. This is
therefore the one call that leaks leases (`ScientificProtocol.Review.leases_iff`).

Expiring takes several calls where many runs are stale, since a call takes a limited
number of them, the oldest first. Every call that finds one expires one, so that as many
calls as there are running runs are enough.
-/

namespace ScientificProtocol.Review

open RewardPolicy (ReviewTaskType ReviewTaskStatus)

/-! ### What it is to end -/

/-- A call finds a run overdue, and not locked. -/
def Overdue (runId : ℕ) (run : ReviewTaskRun) (input : ExpireStaleReviewTaskRuns) : Prop :=
  run.seenAt < input.dateNow - input.staleAfterMs ∧ input.locked runId = false

/-- The reaper at work: one call after another. -/
def expireAll (db : ReviewDb) : List (Time × ExpireStaleReviewTaskRuns) → ReviewDb
  | [] => db
  | (now, input) :: calls => expireAll (expireStaleReviewTaskRuns now db input) calls

/-- **A run can be ended**: its worker is heard, and once it is overdue enough calls of the
reaper fail it. -/
structure Endable (db : ReviewDb) (runId : ℕ) (run : ReviewTaskRun) : Prop where
  heard : ∀ now, (heartbeatReviewTaskRun now db
    ⟨run.agentId, runId, run.taskId, some run.workerId⟩).isSome = true
  expires : ∃ n, ∀ calls : List (Time × ExpireStaleReviewTaskRuns), n ≤ calls.length →
    (∀ call ∈ calls, Overdue runId run call.2) →
    ∃ run', (expireAll db calls).runs runId = some run' ∧ run'.status = .failed

/-- The item of a task does not stay leased: once its runs are overdue, enough calls of the
reaper leave none. -/
def Releasable (db : ReviewDb) (taskId : ℕ) : Prop :=
  ∃ n, ∀ calls : List (Time × ExpireStaleReviewTaskRuns), n ≤ calls.length →
    (∀ runId run, db.runs runId = some run → run.taskId = taskId → run.status = .running →
      ∀ call ∈ calls, Overdue runId run call.2) →
    ∀ (scope : Work.GraphScope) (task : ReviewTask),
      (Work.reviewWorkItem (expireAll db calls) scope taskId task).status ≠ .leased

/-- **No lease leaks**: every run that is running can be ended, and no item stays leased. -/
def NoLeak (db : ReviewDb) : Prop :=
  ∀ runId run, db.runs runId = some run → run.status = .running →
    Endable db runId run ∧ Releasable db run.taskId

/-- Every run that is running is at an open task. -/
def Live (db : ReviewDb) : Prop :=
  ∀ runId run, db.runs runId = some run → run.status = .running →
    db.hasStatus run.taskId .open = true

/-- A submission that completes its task while another run is running at it. -/
def ReviewCall.Strands (db : ReviewDb) : ReviewCall → Prop
  | .recordReviewSubmission input =>
    ∃ task, db.tasks input.taskId = some task ∧ checkSubmission db task input = .ok () ∧
      task.policy.minSubmissions ≤ db.completedSubmissions input.taskId + 1 ∧
      ∃ runId run, db.runs runId = some run ∧ run.taskId = input.taskId ∧
        run.status = .running ∧ input.runId ≠ some runId
  | _ => False

/-- How many runs are running, at whatever tasks. -/
def ReviewDb.running (db : ReviewDb) : ℕ :=
  db.runs.count fun _ run => decide (run.status = .running)

section

variable {now : Time} {db : ReviewDb} {runId : ℕ} {run : ReviewTaskRun}

/-! ### One call of the reaper -/

/-- A run that does not expire is left alone. -/
theorem runs_expireRuns_of_notMem (stale : List (ℕ × ReviewTaskRun)) :
    ∀ {db : ReviewDb}, runId ∉ stale.map Prod.fst →
      (stale.foldl (expireRun now) db).runs runId = db.runs runId := by
  induction stale with
  | nil => exact fun _ => rfl
  | cons run' stale ih =>
    intro db hnotin
    have hne : runId ≠ run'.1 := fun heq => hnotin (heq ▸ List.mem_cons_self)
    exact (ih fun hmem => hnotin (List.mem_cons_of_mem _ hmem)).trans
      (Sql.Serial.update_of_ne _ hne _)

/-- A run that expires fails. -/
theorem runs_expireRuns_of_mem (stale : List (ℕ × ReviewTaskRun)) :
    ∀ {db : ReviewDb}, (stale.map Prod.fst).Nodup → runId ∈ stale.map Prod.fst →
      db.runs runId = some run →
      (stale.foldl (expireRun now) db).runs runId = some (run.fail now "heartbeat_timeout") := by
  induction stale with
  | nil => exact fun _ hmem => absurd hmem (by simp)
  | cons run' stale ih =>
    intro db hnodup hmem hrun
    obtain ⟨hnotin, hnodup'⟩ := List.nodup_cons.mp hnodup
    by_cases heq : runId = run'.1
    · subst heq
      refine (runs_expireRuns_of_notMem stale hnotin).trans ?_
      rw [expireRun, Sql.Serial.update_self, hrun, Option.map_some]
    · refine ih hnodup' ((List.mem_cons.mp hmem).resolve_left heq) ?_
      rw [expireRun, Sql.Serial.update_of_ne _ heq, hrun]

/-- Expiring runs leaves the tasks what they are. -/
theorem hasStatus_expireRuns {taskId : ℕ} {status : ReviewTaskStatus}
    (stale : List (ℕ × ReviewTaskRun)) :
    ∀ {db : ReviewDb},
      (stale.foldl (expireRun now) db).hasStatus taskId status = db.hasStatus taskId status := by
  induction stale with
  | nil => exact rfl
  | cons run' stale ih => exact ih.trans hasStatus_touch

theorem hasStatus_expire {taskId : ℕ} {status : ReviewTaskStatus}
    (input : ExpireStaleReviewTaskRuns) :
    (expireStaleReviewTaskRuns now db input).hasStatus taskId status = db.hasStatus taskId status :=
  hasStatus_expireRuns _

/-- A run after a call is the run there was, or has failed by it. -/
theorem runs_expire (input : ExpireStaleReviewTaskRuns) (hrun : db.runs runId = some run) :
    (expireStaleReviewTaskRuns now db input).runs runId = some run ∨
      run.status = .running ∧ db.hasStatus run.taskId .open = true ∧
        (expireStaleReviewTaskRuns now db input).runs runId =
          some (run.fail now "heartbeat_timeout") := by
  by_cases hmem : runId ∈ (staleRuns db input).map Prod.fst
  · obtain ⟨stale, hstale, rfl⟩ := List.mem_map.mp hmem
    obtain ⟨hrow, hrunning, hopen⟩ := mem_staleRuns hstale
    obtain rfl := Option.some.inj (hrun.symm.trans hrow)
    exact .inr ⟨hrunning, hopen, runs_expireRuns_of_mem _ (nodup_staleRuns input) hmem hrun⟩
  · exact .inl ((runs_expireRuns_of_notMem _ hmem).trans hrun)

theorem running_expireRun (stale : ℕ × ReviewTaskRun) :
    (expireRun now db stale).running ≤ db.running :=
  Sql.Serial.count_update_le fun _ _ hrunning => absurd hrunning (by simp [ReviewTaskRun.fail])

theorem running_expireRuns (stale : List (ℕ × ReviewTaskRun)) :
    ∀ {db : ReviewDb}, (stale.foldl (expireRun now) db).running ≤ db.running := by
  induction stale with
  | nil => exact Nat.le_refl _
  | cons run' stale ih => exact Nat.le_trans ih (running_expireRun run')

/-- **A call that finds a run overdue expires one**, if not this one. -/
theorem running_expire_lt {input : ExpireStaleReviewTaskRuns} (hrun : db.runs runId = some run)
    (hrunning : run.status = .running) (hopen : db.hasStatus run.taskId .open = true)
    (hoverdue : Overdue runId run input) :
    (expireStaleReviewTaskRuns now db input).running < db.running := by
  have hne : staleRuns db input ≠ [] := by
    intro hnil
    have hmem : (runId, run) ∈ ((db.runs.select fun runId run =>
        decide (run.status = .running) && db.hasStatus run.taskId .open &&
          decide (run.seenAt < input.dateNow - input.staleAfterMs) &&
            !input.locked runId).mergeSort fun a b => decide (a.2.seenAt ≤ b.2.seenAt)) := by
      refine (List.mergeSort_perm _ _).mem_iff.mpr (Sql.Serial.mem_select.mpr ⟨hrun, ?_⟩)
      simp [hrunning, hopen, hoverdue.1, hoverdue.2]
    rcases List.take_eq_nil_iff.mp hnil with hzero | hempty
    · omega
    · exact absurd hmem (by rw [hempty]; simp)
  have hstale : ∀ stale ∈ staleRuns db input, db.runs stale.1 = some stale.2 ∧
      stale.2.status = .running := fun stale h => ⟨(mem_staleRuns h).1, (mem_staleRuns h).2.1⟩
  rw [expireStaleReviewTaskRuns]
  revert hne hstale
  rcases staleRuns db input with _ | ⟨stale, rest⟩
  · exact fun hne => absurd rfl hne
  · intro _ hstale
    obtain ⟨hrow, hrunning'⟩ := hstale stale List.mem_cons_self
    have hcount := Sql.Serial.count_update
      (f := fun run => ReviewTaskRun.fail now run "heartbeat_timeout")
      (fun (_ : ℕ) (run : ReviewTaskRun) => decide (run.status = .running)) hrow
    rw [if_pos (decide_eq_true hrunning'), if_neg (by simp [ReviewTaskRun.fail])] at hcount
    exact Nat.lt_of_le_of_lt (running_expireRuns rest) (Nat.lt_of_succ_le (Nat.le_of_eq hcount))

/-! ### Call after call -/

/-- A run that has ended stays what it is. -/
theorem runs_expireAll_of_ended (calls : List (Time × ExpireStaleReviewTaskRuns)) :
    ∀ {db : ReviewDb}, db.runs runId = some run → run.status ≠ .running →
      (expireAll db calls).runs runId = some run := by
  induction calls with
  | nil => exact fun hrun _ => hrun
  | cons call calls ih =>
    intro db hrun hended
    rcases runs_expire call.2 hrun with hsame | ⟨hrunning, -, -⟩
    · exact ih hsame hended
    · exact absurd hrunning hended

/-- **A run at a task that is not open is never expired.** -/
theorem runs_expireAll_of_not_open (calls : List (Time × ExpireStaleReviewTaskRuns)) :
    ∀ {db : ReviewDb}, db.runs runId = some run → db.hasStatus run.taskId .open ≠ true →
      (expireAll db calls).runs runId = some run := by
  induction calls with
  | nil => exact fun hrun _ => hrun
  | cons call calls ih =>
    intro db hrun hclosed
    rcases runs_expire call.2 hrun with hsame | ⟨-, hopen, -⟩
    · exact ih hsame (by rwa [hasStatus_expire])
    · exact absurd hopen hclosed

/-- A run that is running after the calls was running before them. -/
theorem runs_of_running_expireAll (calls : List (Time × ExpireStaleReviewTaskRuns)) :
    ∀ {db : ReviewDb}, (expireAll db calls).runs runId = some run → run.status = .running →
      db.runs runId = some run := by
  induction calls with
  | nil => exact fun hrun _ => hrun
  | cons call calls ih =>
    intro db hrun hrunning
    have hafter := ih hrun hrunning
    cases hbefore : db.runs runId with
    | none =>
      have hnone : (expireStaleReviewTaskRuns call.1 db call.2).runs runId = none := by
        refine (runs_expireRuns_of_notMem _ fun hmem => ?_).trans hbefore
        obtain ⟨stale, hstale, rfl⟩ := List.mem_map.mp hmem
        exact absurd ((mem_staleRuns hstale).1.symm.trans hbefore) (by simp)
      exact absurd (hafter.symm.trans hnone) (by simp)
    | some run₀ =>
      rcases runs_expire call.2 hbefore with hsame | ⟨-, -, hfailed⟩
      · exact hsame.symm.trans hafter
      · obtain rfl := Option.some.inj (hafter.symm.trans hfailed)
        exact absurd hrunning (by simp [ReviewTaskRun.fail])

/-- **As many calls as there are running runs** expire a run that is overdue for all of them:
the induction is on the calls, and each one that passes the run over expires another. -/
theorem failed_expireAll (calls : List (Time × ExpireStaleReviewTaskRuns)) :
    ∀ {db : ReviewDb}, db.runs runId = some run → run.status = .running →
      db.hasStatus run.taskId .open = true → db.running ≤ calls.length →
      (∀ call ∈ calls, Overdue runId run call.2) →
      ∃ run', (expireAll db calls).runs runId = some run' ∧ run'.status = .failed := by
  induction calls with
  | nil =>
    intro db hrun hrunning _ hlength _
    have hpos : 0 < db.running := Sql.Serial.count_pos hrun (decide_eq_true hrunning)
    exact absurd hlength (Nat.not_le.mpr hpos)
  | cons call calls ih =>
    intro db hrun hrunning hopen hlength hoverdue
    rcases runs_expire call.2 hrun with hsame | ⟨-, -, hfailed⟩
    · have hlt : (expireStaleReviewTaskRuns call.1 db call.2).running < db.running :=
        running_expire_lt hrun hrunning hopen (hoverdue call List.mem_cons_self)
      rw [List.length_cons] at hlength
      exact ih hsame hrunning (by rwa [hasStatus_expire]) (by omega)
        fun call' hmem => hoverdue call' (List.mem_cons_of_mem _ hmem)
    · exact ⟨_, runs_expireAll_of_ended calls hfailed (by simp [ReviewTaskRun.fail]), rfl⟩

/-! ### Which runs can be ended -/

theorem isSome_heartbeat_iff (hrun : db.runs runId = some run) (hrunning : run.status = .running) :
    (heartbeatReviewTaskRun now db
      ⟨run.agentId, runId, run.taskId, some run.workerId⟩).isSome = true ↔
        db.hasStatus run.taskId .open = true := by
  simp only [heartbeatReviewTaskRun, hrun, Option.any_some, hrunning, and_self, decide_true,
    Bool.or_true, Bool.and_self, Bool.true_and]
  split
  next hopen => simp [hopen]
  next hclosed => simp [hclosed]

/-- **A run can be ended** exactly if its task is open. -/
theorem endable_iff (hrun : db.runs runId = some run) (hrunning : run.status = .running) :
    Endable db runId run ↔ db.hasStatus run.taskId .open = true := by
  refine ⟨fun h => (isSome_heartbeat_iff hrun hrunning).mp (h.heard 0), fun hopen => ⟨fun now => ?_,
    db.running, fun calls hlength hoverdue => ?_⟩⟩
  · exact (isSome_heartbeat_iff hrun hrunning).mpr hopen
  · exact failed_expireAll calls hrun hrunning hopen hlength hoverdue

/-- Where the tasks of running runs are open, no item stays leased. -/
theorem Live.releasable (h : Live db) (taskId : ℕ) : Releasable db taskId := by
  refine ⟨db.running, fun calls hlength hoverdue scope task hleased => ?_⟩
  refine Work.leased_iff.mp hleased (Sql.Serial.count_eq_zero.mpr fun runId run hrun => ?_)
  refine decide_eq_false ?_
  rintro ⟨hat, hrunning⟩
  -- A run that is still running has been so all the time, and so has expired.
  have hbefore := runs_of_running_expireAll calls hrun hrunning
  obtain ⟨run', hrun', hfailed⟩ := failed_expireAll calls hbefore hrunning
    (h runId run hbefore hrunning) hlength (hoverdue runId run hbefore hat hrunning)
  obtain rfl := Option.some.inj (hrun.symm.trans hrun')
  exact absurd (hrunning.symm.trans hfailed) (by simp)

theorem noLeak_iff : NoLeak db ↔ Live db := by
  constructor
  · exact fun h runId run hrun hrunning =>
      (endable_iff hrun hrunning).mp (h runId run hrun hrunning).1
  · exact fun h runId run hrun hrunning =>
      ⟨(endable_iff hrun hrunning).mpr (h runId run hrun hrunning), h.releasable run.taskId⟩

/-! ### One call of anybody -/

/-- Touching a task, and changing a run without making it run. -/
theorem Live.update {taskId : ℕ} {f : ReviewTaskRun → ReviewTaskRun} (h : Live db)
    (hf : ∀ run, (f run).taskId = run.taskId ∧
      ((f run).status = .running → run.status = .running)) :
    Live
      { db with
        runs := db.runs.update runId f
        tasks := db.tasks.update taskId (ReviewTask.touch now) } := by
  intro runId' run' hrun' hrunning
  rw [hasStatus_touch]
  obtain ⟨run, hrun, hchanged⟩ := Sql.Serial.update_eq_some.mp hrun'
  split at hchanged
  · subst hchanged
    rw [(hf run).1]
    exact h runId' run hrun ((hf run).2 hrunning)
  · subst hchanged
    exact h runId' run hrun hrunning

theorem Live.claimed {input : ClaimReviewTaskById} {task : ReviewTask} (h : Live db)
    (htask : db.tasks input.taskId = some task) (hopen : task.status = .open) :
    Live (claimed now db input) := by
  intro runId run hrun hrunning
  rw [Review.claimed, hasStatus_touch]
  rcases Sql.Serial.insert_eq_some.mp hrun with ⟨-, rfl⟩ | hold
  · exact hasStatus_iff.mpr ⟨task, htask, hopen⟩
  · exact h runId run hold hrunning

/-- The runs that are running after a submission were so before it, and are not the one that
submits. -/
theorem runs_writeSubmission {task : ReviewTask} {input : RecordReviewSubmission}
    (hrun : (writeSubmission now db task input).runs runId = some run)
    (hrunning : run.status = .running) : db.runs runId = some run ∧ input.runId ≠ some runId := by
  simp only [writeSubmission] at hrun
  split at hrun
  next runId' hrunId =>
    obtain ⟨run₀, hrow, hchanged⟩ := Sql.Serial.update_eq_some.mp hrun
    split at hchanged
    next =>
      subst hchanged
      exact absurd hrunning (by simp [ReviewTaskRun.complete])
    next hne =>
      subst hchanged
      exact ⟨hrow, fun heq => hne (Option.some.inj (hrunId.symm.trans heq)).symm⟩
  next hnone => exact ⟨hrun, by simp [hnone]⟩

/-- How many submissions there are with the new one. -/
theorem completedSubmissions_writeSubmission {task : ReviewTask} {input : RecordReviewSubmission} :
    (writeSubmission now db task input).completedSubmissions input.taskId =
      db.completedSubmissions input.taskId + 1 := by
  refine (Sql.Serial.count_insert _ _).trans ?_
  rw [if_pos (decide_eq_true rfl)]
  rfl

/-- A submission that strands nobody: if it completes its task, nothing else runs there. -/
theorem Live.writeSubmission {task : ReviewTask} {input : RecordReviewSubmission} (h : Live db)
    (htask : db.tasks input.taskId = some task) (hcheck : checkSubmission db task input = .ok ())
    (hquiet : ¬(ReviewCall.recordReviewSubmission input).Strands db) :
    Live (writeSubmission now db task input) := by
  intro runId run hrun hrunning
  obtain ⟨hbefore, hother⟩ := runs_writeSubmission hrun hrunning
  obtain ⟨task', htask', hopen⟩ := hasStatus_iff.mp (h runId run hbefore hrunning)
  refine hasStatus_iff.mpr ⟨_, Sql.Serial.update_eq_some.mpr ⟨task', htask', rfl⟩, ?_⟩
  split
  next hat =>
    obtain rfl := Option.some.inj (htask.symm.trans (hat ▸ htask'))
    split
    next henough =>
      refine absurd ⟨_, htask, hcheck, ?_, runId, run, hbefore, hat, hrunning, hother⟩ hquiet
      exact Nat.le_trans henough
        (Nat.le_of_eq completedSubmissions_writeSubmission)
    next => exact hopen
  next => exact hopen

theorem live_exec {call : ReviewCall} (h : Live db) (hquiet : ¬call.Strands db) :
    Live (call.exec now db) := by
  cases call with
  | createReviewTask input =>
    simp only [ReviewCall.exec, createReviewTask]
    split
    · exact h
    · intro runId run hrun hrunning
      obtain ⟨task, htask, hopen⟩ := hasStatus_iff.mp (h runId run hrun hrunning)
      exact hasStatus_iff.mpr ⟨task, Sql.Serial.insert_of_some htask, hopen⟩
  | claimReviewTaskById input =>
    simp only [ReviewCall.exec]
    split
    next hclaimed =>
      obtain ⟨task, htask, hopen, -, -, -, -, rfl⟩ := claimReviewTaskById_eq_ok.mp hclaimed
      exact h.claimed htask hopen
    next => exact h
  | failReviewTaskRun input =>
    refine h.update fun run => ⟨rfl, ?_⟩
    intro hrunning
    cases hrunning
  | heartbeatReviewTaskRun input =>
    simp only [ReviewCall.exec, heartbeatReviewTaskRun]
    split
    · exact h.update fun run => ⟨rfl, id⟩
    · exact h
  | expireStaleReviewTaskRuns input =>
    intro runId run hrun hrunning
    have hbefore := runs_of_running_expireAll [(now, input)] hrun hrunning
    exact (hasStatus_expire input).trans (h runId run hbefore hrunning)
  | recordReviewSubmission input =>
    simp only [ReviewCall.exec]
    split
    next hrecorded =>
      obtain ⟨task, htask, hcheck, rfl⟩ := recordReviewSubmission_eq_ok hrecorded
      exact h.writeSubmission htask hcheck hquiet
    next => exact h

theorem not_live_exec {call : ReviewCall} (h : call.Strands db) : ¬Live (call.exec now db) := by
  cases call with
  | recordReviewSubmission input =>
    obtain ⟨task, htask, hcheck, henough, runId, run, hrun, hat, hrunning, hother⟩ := h
    have hrecorded : ReviewCall.exec now db (.recordReviewSubmission input) =
        writeSubmission now db task input := by
      simp only [ReviewCall.exec, recordReviewSubmission, htask, hcheck]
      rfl
    rw [hrecorded]
    intro hlive
    -- The other run goes on, at a task that is completed.
    have hkept : (writeSubmission now db task input).runs runId = some run := by
      simp only [writeSubmission]
      split
      next runId' hrunId =>
        have hne : runId ≠ runId' := fun heq => hother (hrunId.trans (congrArg some heq.symm))
        exact (Sql.Serial.update_of_ne _ hne _).trans hrun
      next => exact hrun
    obtain ⟨task', htask', hopen⟩ := hasStatus_iff.mp (hlive runId run hkept hrunning)
    obtain ⟨task₀, -, hchanged⟩ := Sql.Serial.update_eq_some.mp htask'
    rw [if_pos hat, if_pos ?_] at hchanged
    · subst hchanged
      exact absurd hopen (by simp [ReviewTask.complete])
    · exact Nat.le_trans henough
        (Nat.le_of_eq completedSubmissions_writeSubmission.symm)
  | createReviewTask | claimReviewTaskById | failReviewTaskRun | heartbeatReviewTaskRun
  | expireStaleReviewTaskRuns => exact h.elim

end

/-- **Leases do not leak exactly while no submission completes a task under a running run**:
in every history without such a submission, every running run can be ended by heartbeats
that stop and the reaper, and no item stays leased; and a call keeps it so exactly if it is
no such submission. -/
theorem leases_iff (db : ReviewDb) :
    (Reachable (fun db call => ¬call.Strands db) db → NoLeak db) ∧
    ∀ now (call : ReviewCall), NoLeak db → (NoLeak (call.exec now db) ↔ ¬call.Strands db) := by
  refine ⟨fun hreach => noLeak_iff.mpr ?_, fun now call hkept =>
    ⟨fun hafter h => not_live_exec h (noLeak_iff.mp hafter), fun hquiet =>
      noLeak_iff.mpr (live_exec (noLeak_iff.mp hkept) hquiet)⟩⟩
  induction hreach with
  | refl => exact fun _ _ hrun => absurd hrun (by simp [ReviewDb.empty])
  | call now call _ hquiet ih => exact live_exec ih hquiet

/-! ### A run that is left behind -/

/-- Two agents claim the task, and the first one submits, which does not complete it. -/
def twoRuns : List (Time × ReviewCall) :=
  [(1, .createReviewTask ⟨extractionTask⟩),
   (2, .claimReviewTaskById ⟨some "7", 1, "worker-7"⟩),
   (2, .claimReviewTaskById ⟨some "8", 1, "worker-8"⟩),
   (3, .recordReviewSubmission (submissionOf 1 "7" "submission-7"))]

/-- The agent that is still at work can be ended. -/
theorem leases_iff_twoRuns :
    (play .empty twoRuns).runningRuns 1 = 1 ∧ NoLeak (play .empty twoRuns) := by
  refine ⟨by decide, (leases_iff _).1 (Runs.play ⟨id, id, id, ?_, trivial⟩)⟩
  rintro ⟨task, htask, -, henough, -⟩
  obtain rfl := Option.some.inj htask
  exact absurd henough (by decide)

/-- **A run that cannot be ended**: two of three agents submit, which completes the task, and
the third is turned away and passed over by the reaper whatever the time, so that the item
stays leased. -/
theorem lease_leaked :
    ∃ db run, Reachable (fun _ _ => True) db ∧ db.runs 3 = some run ∧ run.status = .running ∧
      (∀ now, heartbeatReviewTaskRun now db ⟨run.agentId, 3, 1, some run.workerId⟩ = none) ∧
      (∀ calls, (expireAll db calls).runs 3 = some run ∧
        ∀ scope task, (Work.reviewWorkItem (expireAll db calls) scope 1 task).status = .leased) ∧
      ¬NoLeak db := by
  have hreach : Reachable (fun _ _ => True) (play .empty threeRuns) :=
    Runs.play ⟨trivial, trivial, trivial, trivial, trivial, trivial, trivial⟩
  have hclosed : (play .empty threeRuns).hasStatus 1 .open ≠ true := by decide
  refine ⟨play .empty threeRuns, _, hreach, rfl, rfl, fun now => ?_, fun calls => ?_,
    fun hkept => ?_⟩
  · simp [heartbeatReviewTaskRun, hclosed]
  · have hstuck := runs_expireAll_of_not_open calls
      (show (play .empty threeRuns).runs 3 = some _ from rfl) hclosed
    refine ⟨hstuck, fun scope task => Work.leased_iff.mpr ?_⟩
    exact Nat.pos_iff_ne_zero.mp (Sql.Serial.count_pos hstuck (by decide))
  · exact hclosed (noLeak_iff.mp hkept 3 _ rfl rfl)

end ScientificProtocol.Review
