import ScientificProtocol.Coordinator.Execution
import ScientificProtocol.Coordinator.Fencing

/-!
# One replication per job

The transaction that submits a replication and the completion of the job are two commits,
so the lease of the job is all that keeps two executions from submitting for one job. It
does so only while it lasts, and only against those who have to take it. A post does not:
it looks whether the run it names is running, and any number of posts may find that it is.
And a run expires under an execution that has just sent its transaction
(`ScientificProtocol.Coordinator.submitted_twice`).

In every history in which neither happens (`ScientificProtocol.Coordinator.Orderly`) a job
gets at most one replication (`ScientificProtocol.Coordinator.submitted_once`): whoever is
engaged in a job holds its lease, or is over and leaves it closed, so that nobody else
becomes engaged in it.
-/

namespace ScientificProtocol.Coordinator

open Evm Concurrency

section

variable {ι : Type}

/-- **An orderly step**: no post is admitted to a run that an execution is engaged in, and
no such run expires. -/
def Orderly (e : ExecutionEvent ι) : Prop :=
  match e.label with
  | .act i .readRun => ∀ jobId agentId runId claimId,
    e.before.process i = .asked jobId agentId runId claimId →
      ∀ j, ∀ lease ∈ (e.before.process j).engaged, lease.runId ≠ runId
  | .act _ (.call _ call) => ∀ j, ∀ lease ∈ (e.before.process j).engaged,
    lease.runId ∉ call.expiredIn e.before.shared.db .replication
  | _ => True

/-! ### What an execution is engaged in -/

/-- An execution holds a lease, or it is over and the job is closed. -/
def HeldOrClosed (q : ReplicationQueue) (e : Execution) (lease : Lease) : Prop :=
  q.holds lease = true ∨ e.isOver = true ∧
    ∃ item, q.items lease.itemId = some item ∧ item.isClosed = true

/-- Nobody is engaged in a job that is open. -/
theorem HeldOrClosed.not_open {q : ReplicationQueue} {e : Execution} {lease : Lease}
    (h : HeldOrClosed q e lease) {item : WorkItem ReplicationJobSpec ReplicationJobResult}
    (hitem : q.items lease.itemId = some item) : item.status ≠ .«open» := by
  intro hopen
  rcases h with hheld | ⟨-, item', hitem', hclosed⟩
  · obtain ⟨-, item', -, -, -, hitem', hassigned⟩ := WorkQueue.holds_iff.mp hheld
    rw [Option.some.inj (hitem'.symm.trans hitem), hopen] at hassigned
    exact absurd hassigned nofun
  · rw [Option.some.inj (hitem'.symm.trans hitem), WorkItem.isClosed_of_status (.inr hopen)]
      at hclosed
    exact absurd hclosed (by decide)

/-- A transaction that uses up the lease of another job, if any, and lets other runs
expire. -/
theorem HeldOrClosed.step {now : Time} {q q' : ReplicationQueue} {used : Option Lease}
    {expired : List ℕ} {e : Execution} {lease : Lease} (h : HeldOrClosed q e lease)
    (hstep : WorkQueue.Step now q used expired q') (hexclusive : q.Exclusive)
    (hused : ∀ lease' ∈ used, q.holds lease' = true ∧ lease'.itemId ≠ lease.itemId)
    (hexpired : lease.runId ∉ expired) : HeldOrClosed q' e lease := by
  rcases h with hheld | ⟨hover, item, hitem, hclosed⟩
  · refine .inl (hstep.holds_kept now hexclusive hheld (fun lease' hlease' => ?_) hexpired)
    obtain ⟨hheld', hne⟩ := hused lease' hlease'
    obtain ⟨run, -, hrun, hrunitem, -⟩ := WorkQueue.holds_iff.mp hheld'
    exact ⟨WorkQueue.isRunOf_iff.mpr ⟨run, hrun, hrunitem⟩, hne⟩
  · have hkept := hstep.closedKept fun lease' hlease' => .inl (hused lease' hlease').1
    exact .inr ⟨hover, item, hkept.item_kept hitem hclosed, hclosed⟩

/-- What completes or fails something lets nothing expire. -/
theorem StoreCall.expiredIn_of_used {call : StoreCall} {u : QueueKind × Lease}
    (h : call.used = some u) {db : CoordinatorDb} : call.expiredIn db .replication = [] := by
  cases call with
  | expireStaleReplicationJobRuns => exact absurd h (by simp [used])
  | _ => rfl

/-- What completes or fails a job leaves it closed. -/
theorem StoreCall.isClosed_of_used {now : Time} {db : CoordinatorDb} {call : StoreCall}
    {lease : Lease} (h : call.used = some (.replication, lease))
    (hheld : db.replication.holds lease = true) :
    ∃ item, (call.exec now db).1.replication.items lease.itemId = some item ∧
      item.isClosed = true := by
  obtain ⟨-, item, -, -, -, hitem, -⟩ := WorkQueue.holds_iff.mp hheld
  obtain ⟨-, hstep⟩ := call.exec_step now db
  rw [show call.usedIn .replication = some lease from StoreCall.mem_usedIn.mpr h] at hstep
  generalize (call.exec now db).1.replication = q at hstep ⊢
  generalize call.expiredIn db .replication = expired at hstep
  cases hstep with
  | complete => exact ⟨_, Sql.Serial.update_eq_some.mpr ⟨item, hitem, if_pos rfl⟩, rfl⟩
  | fail => exact ⟨_, Sql.Serial.update_eq_some.mpr ⟨item, hitem, if_pos rfl⟩, rfl⟩

/-! ### The invariant -/

/-- **Whoever is engaged in a job is alone with it**, and answers for what has been
submitted on its behalf. -/
structure Sound (c : Config ι SubmissionSite Execution) : Prop where
  exclusive : c.shared.db.replication.Exclusive
  runningHolds : c.shared.db.replication.RunningHolds
  held : ∀ {i lease}, (c.process i).engaged = some lease →
    HeldOrClosed c.shared.db.replication (c.process i) lease
  alone : ∀ {i j lease lease'}, (c.process i).engaged = some lease →
    (c.process j).engaged = some lease' → lease.itemId = lease'.itemId → i = j
  answered : ∀ entry ∈ c.shared.submitted, ∃ i, (c.process i).submission = some entry
  once : ∀ jobId, (c.shared.submittedFor jobId).length ≤ 1

variable [DecidableEq ι] {c : Config ι SubmissionSite Execution} {i : ι} {s : SubmissionSite}
  {e : Execution} {a : ExecutionAction}

/-- Who is engaged in a lease after a process has changed. -/
theorem engaged_update {j : ι} {lease : Lease}
    (h : (Function.update c.process i e j).engaged = some lease) :
    (j = i ∧ e.engaged = some lease) ∨ (j ≠ i ∧ (c.process j).engaged = some lease) := by
  by_cases hj : j = i
  · subst hj
    rw [Function.update_self] at h
    exact .inl ⟨rfl, h⟩
  · rw [Function.update_of_ne hj] at h
    exact .inr ⟨hj, h⟩

namespace Sound

/-- What has been submitted is answered for, if the process that changes still does. -/
theorem answered_update (h : Sound c) (hsubmission : ∀ entry,
      (c.process i).submission = some entry → e.submission = some entry) :
    ∀ entry ∈ c.shared.submitted, ∃ j, (Function.update c.process i e j).submission =
      some entry := by
  intro entry hentry
  obtain ⟨j, hj⟩ := h.answered entry hentry
  refine ⟨j, ?_⟩
  by_cases hji : j = i
  · subst hji
    rw [Function.update_self]
    exact hsubmission entry hj
  · rwa [Function.update_of_ne hji]

/-- A process becomes engaged in a job nobody else is engaged in. -/
theorem alone_update (h : Sound c) {lease : Lease} (he : ∀ lease', e.engaged = some lease' →
      lease' = lease)
    (hfree : ∀ j lease', j ≠ i → (c.process j).engaged = some lease' →
      lease'.itemId ≠ lease.itemId) {j k : ι} {lease₁ lease₂ : Lease}
    (hj : (Function.update c.process i e j).engaged = some lease₁)
    (hk : (Function.update c.process i e k).engaged = some lease₂)
    (hsame : lease₁.itemId = lease₂.itemId) : j = k := by
  rcases engaged_update hj with ⟨rfl, hnew⟩ | ⟨hji, hold⟩ <;>
    rcases engaged_update hk with ⟨rfl, hnew'⟩ | ⟨hki, hold'⟩
  · rfl
  · exact absurd (by rw [← hsame, he lease₁ hnew]) (hfree k lease₂ hki hold')
  · exact absurd (by rw [hsame, he lease₂ hnew']) (hfree j lease₁ hji hold)
  · exact h.alone hold hold' hsame

section

variable {now : Time} {call : StoreCall} {lease : Lease}

omit [DecidableEq ι] in
/-- A call that lets no run expire that somebody is engaged in. -/
theorem act_call (h : Sound c) (hused : call.used = none)
    (hexpired : ∀ j, ∀ lease ∈ (c.process j).engaged,
      lease.runId ∉ call.expiredIn c.shared.db .replication) :
    Sound ⟨{ c.shared with db := (call.exec now c.shared.db).1 }, c.process⟩ := by
  obtain ⟨-, hstep⟩ := call.exec_step now c.shared.db
  have hnone : ∀ {P : Lease → Prop}, ∀ lease ∈ call.usedIn .replication, P lease := by
    intro P lease hlease
    rw [StoreCall.mem_usedIn, hused] at hlease
    exact absurd hlease nofun
  exact {
    exclusive := h.exclusive.step hstep hnone
    runningHolds := h.runningHolds.step h.exclusive hstep hnone
    held := fun {j lease} hj => (h.held hj).step hstep h.exclusive hnone (hexpired j lease hj)
    alone := h.alone
    answered := h.answered
    once := h.once }

/-- A worker claims a job. -/
theorem act_claim (h : Sound c) (hused : call.used = none)
    (hexpired : call.expiredIn c.shared.db .replication = [])
    (hopen : ∃ item, c.shared.db.replication.items lease.itemId = some item ∧
      item.status = .«open»)
    (hheld : (call.exec now c.shared.db).1.replication.holds lease = true)
    (hsubmission : (c.process i).submission = none) (hengaged : e.engaged = some lease) :
    Sound ⟨{ c.shared with db := (call.exec now c.shared.db).1 },
      Function.update c.process i e⟩ := by
  obtain ⟨-, hstep⟩ := call.exec_step now c.shared.db
  obtain ⟨item, hitem, hopen⟩ := hopen
  have hnone : ∀ {P : Lease → Prop}, ∀ lease ∈ call.usedIn .replication, P lease := by
    intro P lease hlease
    rw [StoreCall.mem_usedIn, hused] at hlease
    exact absurd hlease nofun
  refine {
    exclusive := h.exclusive.step hstep hnone
    runningHolds := h.runningHolds.step h.exclusive hstep hnone
    held := fun {j lease'} hj => ?_
    alone := h.alone_update (fun lease' hlease' => Option.some.inj (hlease'.symm.trans hengaged))
      fun j lease' _ hj hsame => ?_
    answered := h.answered_update fun entry hentry => ?_
    once := h.once }
  · rcases engaged_update hj with ⟨rfl, hnew⟩ | ⟨hji, hold⟩
    · rw [hengaged] at hnew
      exact .inl (Option.some.inj hnew ▸ hheld)
    · simp only [Function.update_of_ne hji]
      exact (h.held hold).step hstep h.exclusive hnone (by simp [hexpired])
  -- The job was open, so nobody was engaged in it.
  · exact (h.held hj).not_open (hsame ▸ hitem) hopen
  · rw [hsubmission] at hentry
    exact absurd hentry nofun

/-- A post is admitted to a run that nobody is engaged in. -/
theorem act_admitted (h : Sound c) {jobId runId : ℕ} {run : WorkRun ReplicationJobRunResult}
    (hrun : c.shared.db.replication.runs runId = some run) (hitem : run.itemId = jobId)
    (hrunning : run.status = .running)
    (hfree : ∀ j, ∀ lease ∈ (c.process j).engaged, lease.runId ≠ runId)
    (hsubmission : (c.process i).submission = none)
    (hengaged : e.engaged = some ⟨jobId, runId⟩) :
    Sound ⟨c.shared, Function.update c.process i e⟩ := by
  have hheld : c.shared.db.replication.holds ⟨jobId, runId⟩ = true :=
    hitem ▸ h.runningHolds runId run hrun hrunning
  refine {
    exclusive := h.exclusive
    runningHolds := h.runningHolds
    held := fun {j lease'} hj => ?_
    alone := h.alone_update (fun lease' hlease' => Option.some.inj (hlease'.symm.trans hengaged))
      fun j lease' _ hj hsame => ?_
    answered := h.answered_update fun entry hentry => ?_
    once := h.once }
  · rcases engaged_update hj with ⟨rfl, hnew⟩ | ⟨hji, hold⟩
    · rw [hengaged] at hnew
      exact .inl (Option.some.inj hnew ▸ hheld)
    · simp only [Function.update_of_ne hji]
      exact h.held hold
  -- Whoever is engaged in the job holds its lease, which is that of the run.
  · rcases h.held hj with hheld' | ⟨-, item, hrow, hclosed⟩
    · exact hfree j lease' hj (congrArg Lease.runId (h.exclusive.eq_of_holds hheld' hheld hsame))
    · obtain ⟨-, item', -, -, -, hrow', hassigned⟩ := WorkQueue.holds_iff.mp hheld
      rw [hsame] at hrow
      rw [Option.some.inj (hrow.symm.trans hrow'),
        WorkItem.isClosed_of_status (.inl hassigned)] at hclosed
      exact absurd hclosed (by decide)
  · rw [hsubmission] at hentry
    exact absurd hentry nofun

/-- An execution goes on, or gives up. -/
theorem act_work (h : Sound c)
    (hengaged : ∀ lease, e.engaged = some lease →
      (c.process i).engaged = some lease ∧ ((c.process i).isOver → e.isOver))
    (hsubmission : ∀ entry, (c.process i).submission = some entry →
      e.submission = some entry) :
    Sound ⟨c.shared, Function.update c.process i e⟩ := by
  have hback : ∀ {j lease}, (Function.update c.process i e j).engaged = some lease →
      (c.process j).engaged = some lease := by
    intro j lease hj
    rcases engaged_update hj with ⟨rfl, hnew⟩ | ⟨-, hold⟩
    · exact (hengaged lease hnew).1
    · exact hold
  refine {
    exclusive := h.exclusive
    runningHolds := h.runningHolds
    held := fun {j lease} hj => ?_
    alone := fun hj hk => h.alone (hback hj) (hback hk)
    answered := h.answered_update fun entry hentry => hsubmission entry hentry
    once := h.once }
  rcases engaged_update hj with ⟨rfl, hnew⟩ | ⟨hji, hold⟩
  · simp only [Function.update_self]
    obtain ⟨hold, hover⟩ := hengaged lease hnew
    rcases h.held hold with hheld | ⟨hover', hclosed⟩
    · exact .inl hheld
    · exact .inr ⟨hover hover', hclosed⟩
  · simp only [Function.update_of_ne hji]
    exact h.held hold

/-- A replication is submitted. -/
theorem act_submit (h : Sound c) {chain : Evm.Config World Suspended} {entry : ℕ × ℕ}
    (hnone : (c.process i).submission = none) (hengaged : (c.process i).engaged = some lease)
    (hengaged' : e.engaged = some lease) (hover : e.isOver = (c.process i).isOver)
    (hsubmission : e.submission = some entry) (hjob : lease.itemId = entry.1) :
    Sound ⟨{ c.shared with chain, submitted := c.shared.submitted ++ [entry] },
      Function.update c.process i e⟩ := by
  have hback : ∀ {j lease'}, (Function.update c.process i e j).engaged = some lease' →
      (c.process j).engaged = some lease' := by
    intro j lease' hj
    rcases engaged_update hj with ⟨rfl, hnew⟩ | ⟨-, hold⟩
    · rw [hengaged, ← hengaged', hnew]
    · exact hold
  refine {
    exclusive := h.exclusive
    runningHolds := h.runningHolds
    held := fun {j lease'} hj => ?_
    alone := fun hj hk => h.alone (hback hj) (hback hk)
    answered := fun entry' hentry' => ?_
    once := fun jobId => ?_ }
  · have hheld := h.held (hback hj)
    rcases engaged_update hj with ⟨rfl, -⟩ | ⟨hji, -⟩
    · simp only [Function.update_self]
      rcases hheld with hheld | ⟨hover', hclosed⟩
      · exact .inl hheld
      · exact .inr ⟨hover.trans hover', hclosed⟩
    · simp only [Function.update_of_ne hji]
      exact hheld
  · rcases List.mem_append.mp hentry' with hold | hnew
    · exact h.answered_update (fun entry hentry => by
        rw [hnone] at hentry
        exact absurd hentry nofun) entry' hold
    · rw [List.mem_singleton.mp hnew]
      exact ⟨i, by simp only [Function.update_self, hsubmission]⟩
  · have hsplit : SubmissionSite.submittedFor
        { c.shared with chain, submitted := c.shared.submitted ++ [entry] } jobId =
        c.shared.submittedFor jobId ++ if entry.1 = jobId then [entry] else [] := by
      rw [SubmissionSite.submittedFor, List.filter_append, List.filter_singleton,
        SubmissionSite.submittedFor]
      by_cases hentry : entry.1 = jobId <;> simp [hentry]
    rw [hsplit]
    split
    next hentry =>
      -- Nothing has been submitted for the job: whoever had would be engaged in it.
      have hempty : c.shared.submittedFor jobId = [] := by
        refine List.eq_nil_iff_forall_not_mem.mpr fun entry' hmem => ?_
        obtain ⟨hmem, hjob'⟩ := List.mem_filter.mp hmem
        obtain ⟨j, hj⟩ := h.answered entry' hmem
        obtain ⟨lease', hlease', hitem⟩ := Execution.engaged_of_submission hj
        have hji : j = i := h.alone hlease' hengaged
          (hitem.trans ((of_decide_eq_true hjob').trans (hentry.symm.trans hjob.symm)))
        rw [hji, hnone] at hj
        exact absurd hj nofun
      rw [hempty, List.nil_append, List.length_singleton]
    next =>
      rw [List.append_nil]
      exact h.once jobId

/-- An execution completes or fails its job. -/
theorem act_close (h : Sound c) (hused : call.used = some (.replication, lease))
    (hengaged : (c.process i).engaged = some lease) (hover : (c.process i).isOver = false)
    (hover' : e.isOver = true) (hlease : ∀ lease', e.engaged = some lease' → lease' = lease)
    (hsubmission : ∀ entry, (c.process i).submission = some entry →
      e.submission = some entry) :
    Sound ⟨{ c.shared with db := (call.exec now c.shared.db).1 },
      Function.update c.process i e⟩ := by
  obtain ⟨-, hstep⟩ := call.exec_step now c.shared.db
  have hheld : c.shared.db.replication.holds lease = true := by
    rcases h.held hengaged with hheld | ⟨hover'', -⟩
    · exact hheld
    · rw [hover] at hover''
      exact absurd hover'' nofun
  have hmem : ∀ lease' ∈ call.usedIn .replication, lease' = lease := by
    intro lease' hlease'
    rw [StoreCall.mem_usedIn, hused] at hlease'
    exact ((Prod.mk.inj (Option.some.inj hlease')).2).symm
  have hexpired : ∀ r, r ∉ call.expiredIn c.shared.db .replication := by
    rw [StoreCall.expiredIn_of_used hused]
    exact fun _ => List.not_mem_nil
  have hback : ∀ {j lease'}, (Function.update c.process i e j).engaged = some lease' →
      (c.process j).engaged = some lease' := by
    intro j lease' hj
    rcases engaged_update hj with ⟨rfl, hnew⟩ | ⟨-, hold⟩
    · rw [hlease lease' hnew, hengaged]
    · exact hold
  have hisRunOf : c.shared.db.replication.isRunOf lease = true := by
    obtain ⟨run, -, hrun, hitem, -⟩ := WorkQueue.holds_iff.mp hheld
    exact WorkQueue.isRunOf_iff.mpr ⟨run, hrun, hitem⟩
  refine {
    exclusive := h.exclusive.step hstep fun lease' hlease' => hmem lease' hlease' ▸ hisRunOf
    runningHolds := h.runningHolds.step h.exclusive hstep fun lease' hlease' =>
      hmem lease' hlease' ▸ hheld
    held := fun {j lease'} hj => ?_
    alone := fun hj hk => h.alone (hback hj) (hback hk)
    answered := h.answered_update fun entry hentry => hsubmission entry hentry
    once := h.once }
  rcases engaged_update hj with ⟨rfl, hnew⟩ | ⟨hji, hold⟩
  -- It leaves the job closed.
  · simp only [Function.update_self, hlease lease' hnew]
    exact .inr ⟨hover', StoreCall.isClosed_of_used hused hheld⟩
  -- Others are engaged in other jobs.
  · simp only [Function.update_of_ne hji]
    refine (h.held hold).step hstep h.exclusive (fun lease₁ hlease₁ => ?_) (hexpired _)
    obtain rfl := hmem lease₁ hlease₁
    exact ⟨hheld, fun hsame => hji (h.alone hold hengaged hsame.symm)⟩

end

/-- **Every orderly action keeps executions alone with their jobs.** -/
theorem act (h : Sound c) (heffect : ExecutionEffect c.shared (c.process i) a s e)
    (horderly : Orderly (⟨c, .act i a, ⟨s, Function.update c.process i e⟩⟩ : ExecutionEvent ι)) :
    Sound ⟨s, Function.update c.process i e⟩ := by
  generalize he₀ : c.process i = e₀ at heffect

  cases heffect with
  | call hused =>
    rw [← he₀, Function.update_eq_self]
    exact h.act_call hused horderly
  | claim hused hexpired hopen hheld hsubmission hengaged =>
    exact h.act_claim hused hexpired hopen hheld (he₀ ▸ hsubmission) hengaged
  | @admitted jobId runId agentId claimId _ _ hrun hitem hrunning hengaged =>
    have hsubmission : (c.process i).submission = none := by
      rw [he₀]
      rfl
    exact h.act_admitted hrun hitem hrunning (horderly jobId agentId runId claimId he₀)
      hsubmission hengaged
  | work hengaged hsubmission =>
    subst he₀
    exact h.act_work hengaged hsubmission
  | submit hnone hengaged hengaged' hover hsubmission hjob =>
    subst he₀
    exact h.act_submit hnone hengaged hengaged' hover hsubmission hjob
  | close hused hengaged hover hover' hlease hsubmission =>
    subst he₀
    exact h.act_close hused hengaged hover hover' hlease hsubmission

end Sound

section

variable {D : Deployment} {submitter : Submitter} {tr : List (ExecutionEvent ι)}

/-- **Along an orderly history executions are alone with their jobs.** -/
theorem sound_of_run (h : (executions D submitter).Run tr c) (horderly : ∀ e ∈ tr, Orderly e) :
    Sound c := by
  induction h with
  | @genesis s hgen =>
    obtain ⟨-, hdb, hsubmitted⟩ := hgen
    refine {
      exclusive := hdb ▸ WorkQueue.exclusive_empty
      runningHolds := fun r run hrun _ => absurd (hdb ▸ hrun) nofun
      held := fun hengaged => absurd hengaged nofun
      alone := fun hengaged => absurd hengaged nofun
      answered := fun entry hentry => absurd (hsubmitted ▸ hentry) List.not_mem_nil
      once := fun jobId => ?_ }
    rw [SubmissionSite.submittedFor, hsubmitted]
    exact Nat.zero_le 1
  | @snoc tr c c' l hrun hstep ih =>
    have hsound := ih fun e he => horderly e (List.mem_append_left _ he)
    have hlast := horderly _ (List.mem_append_right tr List.mem_cons_self)
    cases hstep with
    | act hact =>
      change executionAct D submitter _ _ _ = _ at hact
      exact hsound.act (effect_of_act hact) hlast
    | env henv =>
      obtain ⟨hforward⟩ := henv
      exact ⟨hsound.exclusive, hsound.runningHolds, hsound.held, hsound.alone, hsound.answered,
        hsound.once⟩

/-- **A job gets at most one replication**, along every orderly history. -/
theorem submitted_once (h : (executions D submitter).Run tr c) (horderly : ∀ e ∈ tr, Orderly e)
    (jobId : ℕ) : (c.shared.submittedFor jobId).length ≤ 1 :=
  (sound_of_run h horderly).once jobId

end

end

/-! ### Two submissions -/

theorem opening_possible : (playDevnet opening).isSome := by decide

/-- The network once claim 1 can be replicated. -/
def openedChain : Evm.Config World Suspended := ((playDevnet opening).get opening_possible).2

/-- The history some actions of executions make, on that network. -/
def playExecutions (moves : List (ℕ × ExecutionAction)) :
    Option (List (ExecutionEvent ℕ) × Config ℕ SubmissionSite Execution) :=
  (executions devnet ⟨0xDD, fun _ _ _ => 0⟩).play moves ⟨⟨.empty, openedChain, []⟩, fun _ => .idle⟩

/-- **Played histories are histories of executions.** -/
theorem run_playExecutions {moves : List (ℕ × ExecutionAction)}
    (h : (playExecutions moves).isSome) : (executions devnet ⟨0xDD, fun _ _ _ => 0⟩).Run
      ((playExecutions moves).get h).1 ((playExecutions moves).get h).2 :=
  Processes.run_play (M := executions devnet ⟨0xDD, fun _ _ _ => 0⟩)
    ⟨(run_playDevnet opening_possible).reachable, rfl, rfl⟩ h

/-- A job for claim 1. -/
def claimJob : ReplicationJobSpec where
  claimId := "1"
  requestedBy := "0xAA"
  specHash := ""
  specURI := none

/-- A worker claims a job and crashes before it sends anything. Its run expires, and another worker
claims the job, submits, and completes it. -/
def oneExecution : List (ℕ × ExecutionAction) :=
  [(0, .call 1 (.createReplicationJob claimJob)), (0, .claim 2 none "a" (some 1) fun _ => false),
    (0, .crash), (1, .call 9 (.expireStaleReplicationJobRuns none 5 fun _ => false)),
    (1, .claim 10 none "b" (some 1) fun _ => false), (1, .send 7 default), (1, .mine),
    (1, .complete 11
      { evidenceHash := "", evidenceURI := "", executionManifestHash := ""
        onchainReplicationId := some "1", requestId := none, resultArtifactKey := ""
        resultHash := "", submissionActor := none, submissionTxHash := none })]

theorem oneExecution_possible : (playExecutions oneExecution).isSome := by decide +kernel

/-- Of two workers nobody is engaged in a run that expires. -/
def expiresUnengaged (e : ExecutionEvent ℕ) : Bool :=
  match e.label with
  | .act _ .readRun => false
  | .act _ (.call _ call) => [0, 1].all fun j => (e.before.process j).engaged.all fun lease =>
    decide (lease.runId ∉ call.expiredIn e.before.shared.db .replication)
  | _ => true

theorem oneExecution_orderly :
    ∀ e ∈ ((playExecutions oneExecution).get oneExecution_possible).1, Orderly e := by
  have hall : ((playExecutions oneExecution).get oneExecution_possible).1.all
      expiresUnengaged = true := by decide +kernel
  intro e he
  have hidle : ∀ j, 2 ≤ j → e.before.process j = .idle := fun j hj =>
    Processes.process_of_play (Option.some_get oneExecution_possible).symm
      (by simp [oneExecution]; omega) e he
  have hquiet := List.all_eq_true.mp hall e he
  unfold expiresUnengaged at hquiet
  unfold Orderly
  split at hquiet
  next => exact absurd hquiet Bool.false_ne_true
  next i now call heq =>
    rw [heq]
    intro j lease hlease
    by_cases hj : 2 ≤ j
    · rw [hidle j hj] at hlease
      exact absurd hlease nofun
    · have hj := List.all_eq_true.mp hquiet j (by simp; omega)
      rw [Option.mem_def.mp hlease] at hj
      exact of_decide_eq_true hj
  next hcall hread =>
    split
    next heq => exact absurd heq (hcall _)
    next heq => exact absurd heq (hread _ _ _)
    next => trivial

theorem submitted_once_oneExecution :
    (((playExecutions oneExecution).get oneExecution_possible).2.shared.submittedFor
      1).length ≤ 1 :=
  submitted_once (run_playExecutions oneExecution_possible) oneExecution_orderly 1

/-- A worker crashes after its transaction has been executed; its run expires, and another
worker claims the job and executes it. -/
def crashedExecution : List (ℕ × ExecutionAction) :=
  [(0, .call 1 (.createReplicationJob claimJob)), (0, .claim 2 none "a" (some 1) fun _ => false),
    (0, .send 7 default), (0, .mine), (0, .crash),
    (1, .call 9 (.expireStaleReplicationJobRuns none 5 fun _ => false)),
    (1, .claim 10 none "b" (some 1) fun _ => false), (1, .send 7 default), (1, .mine)]

theorem crashedExecution_possible : (playExecutions crashedExecution).isSome := by decide +kernel

/-- **A job may get two replications**, if its run expires under a transaction. -/
theorem submitted_twice :
    ∃ (tr : List (ExecutionEvent ℕ)) (c : Config ℕ SubmissionSite Execution),
      (executions devnet ⟨0xDD, fun _ _ _ => 0⟩).Run tr c ∧
        (c.shared.submittedFor 1).length = 2 :=
  ⟨_, _, run_playExecutions crashedExecution_possible, by decide +kernel⟩

end ScientificProtocol.Coordinator
