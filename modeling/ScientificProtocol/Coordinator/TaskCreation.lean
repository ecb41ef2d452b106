import ScientificProtocol.Coordinator.Store

/-!
# Creating a maintenance task, statement by statement

`createArtifactMaintenanceTask` of `src/coordinator/store.ts` looks for a task like the one it
is asked for and inserts one if there is none. Between the two statements another call can
insert it, which the partial unique index on the open and assigned tasks finds out; then the call
looks again, with another query: for *open* tasks only, and for a task of *any* replica if it is
asked for none.

`ScientificProtocol.Coordinator.Distinct` holds whatever happens: of the tasks that are open or
assigned, no two are alike. A call answers with a task that it was asked for as long as neither
query is misled (`ScientificProtocol.Coordinator.Careful`).
-/

namespace ScientificProtocol.Coordinator

open Concurrency

/-! ### The statements -/

abbrev ArtifactMaintenanceTask : Type := WorkItem ArtifactMaintenanceSpec ArtifactMaintenanceResult

/-- A row of the partial index. -/
def WorkItem.isActive {σ δ : Type} (item : WorkItem σ δ) : Bool :=
  decide (item.status = .«open» ∨ item.status = .assigned)

/-- The first lookup, which is also what the index compares. -/
def selectActive (q : ArtifactMaintenanceQueue) (spec : ArtifactMaintenanceSpec) :
    List (ℕ × ArtifactMaintenanceTask) :=
  q.items.select fun _ item => item.spec.sameIdentity spec && item.isActive

/-- `buildArtifactMaintenanceTaskWhereClause`, of the options of the second lookup: a text that is
missing or empty is not compared. -/
def ArtifactMaintenanceSpec.recoveryWhere (spec : ArtifactMaintenanceSpec)
    (item : ArtifactMaintenanceTask) : Bool :=
  decide ((spec.artifactKey = "" ∨ item.spec.artifactKey = spec.artifactKey) ∧
    item.spec.taskType = spec.taskType ∧ item.status = .«open» ∧
    (spec.targetReplicaKey.getD "" = "" ∨
      item.spec.targetReplicaKey = spec.targetReplicaKey))

/-- The second lookup. -/
def readArtifactMaintenanceTasksPage (q : ArtifactMaintenanceQueue)
    (spec : ArtifactMaintenanceSpec) : List (ℕ × ArtifactMaintenanceTask) :=
  (q.items.select fun _ item => spec.recoveryWhere item).take 1

/-- The tables a call works with. -/
structure TaskStore where
  db : CoordinatorDb
  /-- The keys of `persisted_artifacts`. -/
  artifacts : String → Bool

namespace TaskStore

def queue (s : TaskStore) : ArtifactMaintenanceQueue := s.db.maintenance

def withQueue (s : TaskStore) (q : ArtifactMaintenanceQueue) : TaskStore :=
  { s with db := { s.db with maintenance := q } }

end TaskStore

/-- Where a call of `createArtifactMaintenanceTask` is. -/
inductive TaskCreation where
  | idle
  | selecting (spec : ArtifactMaintenanceSpec)
  | inserting (spec : ArtifactMaintenanceSpec)
  /-- It has committed, and reads its task. -/
  | reading (spec : ArtifactMaintenanceSpec) (taskId : ℕ)
  /-- The insertion has violated the index. -/
  | recovering (spec : ArtifactMaintenanceSpec)
  | returned (spec : ArtifactMaintenanceSpec) (taskId : ℕ) (task : ArtifactMaintenanceTask)
  | threw (spec : ArtifactMaintenanceSpec) (error : String)
  deriving DecidableEq

/-- The next statement of a call, with its commit. -/
def TaskCreation.next (now : Time) (s : TaskStore) :
    TaskCreation → Option (TaskStore × TaskCreation)
  | .selecting spec => match selectActive s.queue spec with
    | (taskId, _) :: _ => some (s, .reading spec taskId)
    | [] => some (s, .inserting spec)
  | .inserting spec =>
    -- An insertion waits for one like it that has not been committed, so that it sees all.
    if (selectActive s.queue spec).isEmpty then
      if s.artifacts spec.artifactKey then
        some (s.withQueue (s.queue.create now spec default), .reading spec s.queue.items.next)
      else some (s, .threw spec "23503")
    else some (s, .recovering spec)
  | .reading spec taskId => match s.queue.items taskId with
    | some task => some (s, .returned spec taskId task)
    | none => some (s, .threw spec "failed to read artifact maintenance task")
  | .recovering spec => match readArtifactMaintenanceTasksPage s.queue spec with
    | (taskId, task) :: _ => some (s, .returned spec taskId task)
    | [] => some (s, .threw spec "23505")
  | _ => none

/-- What a process does: it calls, it goes on with its call, or it uses the store in another
way. -/
inductive TaskAction where
  | call (spec : ArtifactMaintenanceSpec)
  | next (now : Time)
  /-- Any other call of the store. -/
  | other (now : Time) (storeCall : StoreCall)
  /-- An artifact is persisted. -/
  | persist (artifactKey : String)

/-- A call that inserts no maintenance task. -/
def StoreCall.isOther : StoreCall → Bool
  | .createArtifactMaintenanceTask _ => false
  | _ => true

/-- A process that is between two calls. -/
def TaskCreation.isFree : TaskCreation → Bool
  | .idle | .returned .. | .threw .. => true
  | _ => false

def TaskAction.act (a : TaskAction) (s : TaskStore) (p : TaskCreation) :
    Option (TaskStore × TaskCreation) :=
  match a with
  | .call spec => if p.isFree then some (s, .selecting spec) else none
  | .next now => p.next now s
  | .other now storeCall =>
    if storeCall.isOther then some ({ s with db := (storeCall.exec now s.db).1 }, p) else none
  | .persist artifactKey =>
    some ({ s with artifacts := Function.update s.artifacts artifactKey true }, p)

/-- **Any number of callers** of the store, from the tables as they are set up. -/
def taskCreators : Processes TaskStore TaskCreation TaskAction Empty where
  genesis s := s.db = .empty
  idle := .idle
  act := TaskAction.act
  env b := b.elim

/-! ### One call alone -/

section

variable {now : Time} {s : TaskStore} {spec : ArtifactMaintenanceSpec} {taskId : ℕ}
  {task : ArtifactMaintenanceTask}

theorem mem_selectActive : (taskId, task) ∈ selectActive s.queue spec ↔
    s.queue.items taskId = some task ∧ task.spec.sameIdentity spec = true ∧
      task.isActive = true := by
  rw [selectActive, Sql.Serial.mem_select, Bool.and_eq_true]

theorem selectActive_isEmpty : (selectActive s.queue spec).isEmpty = true ↔
    ∀ taskId task, s.queue.items taskId = some task → task.spec.sameIdentity spec = true →
      task.isActive = false := by
  rw [List.isEmpty_iff, List.eq_nil_iff_forall_not_mem]
  constructor
  · intro h taskId task hrow hsame
    exact eq_false_of_ne_true fun hactive =>
      h (taskId, task) (mem_selectActive.mpr ⟨hrow, hsame, hactive⟩)
  · rintro h ⟨taskId, task⟩ hmem
    obtain ⟨hrow, hsame, hactive⟩ := mem_selectActive.mp hmem
    exact absurd hactive (by rw [h taskId task hrow hsame]; exact Bool.false_ne_true)

/-- **A call that nothing disturbs** creates a task unless one like it is open or assigned. -/
theorem next_undisturbed (hartifact : s.artifacts spec.artifactKey = true) :
    (∃ taskId, TaskCreation.next now s (.selecting spec) = some (s, .reading spec taskId) ∧
      createArtifactMaintenanceTask now s.queue spec = s.queue) ∨
    ∃ taskId, TaskCreation.next now s (.selecting spec) = some (s, .inserting spec) ∧
      TaskCreation.next now s (.inserting spec) =
        some (s.withQueue (createArtifactMaintenanceTask now s.queue spec),
          .reading spec taskId) := by
  cases hselect : selectActive s.queue spec with
  | nil =>
    have hcreate : createArtifactMaintenanceTask now s.queue spec =
        s.queue.create now spec default := by
      rw [selectActive] at hselect
      simp only [WorkItem.isActive] at hselect
      rw [createArtifactMaintenanceTask, hselect]
    refine Or.inr ⟨s.queue.items.next, by simp only [TaskCreation.next, hselect], ?_⟩
    simp only [TaskCreation.next, hselect, hcreate, List.isEmpty_nil, if_true, hartifact]
  | cons row rows =>
    refine Or.inl ⟨row.1, by simp only [TaskCreation.next, hselect], ?_⟩
    rw [selectActive] at hselect
    simp only [WorkItem.isActive] at hselect
    rw [createArtifactMaintenanceTask, hselect]

end

/-! ### What becomes of the tasks there are -/

/-- **What every other call does to the tasks**: none is lost or becomes another one, and none
becomes open or assigned that was neither. -/
structure Evolves (q q' : ArtifactMaintenanceQueue) : Prop where
  kept : ∀ {taskId task}, q.items taskId = some task →
    ∃ task', q'.items taskId = some task' ∧ task'.spec = task.spec
  active : ∀ {taskId task'}, q'.items taskId = some task' → task'.isActive = true →
    ∃ task, q.items taskId = some task ∧ task.isActive = true ∧ task.spec = task'.spec

section

variable {q q' q'' : ArtifactMaintenanceQueue} {now : Time}

theorem Evolves.refl (q : ArtifactMaintenanceQueue) : Evolves q q where
  kept h := ⟨_, h, rfl⟩
  active h hactive := ⟨_, h, hactive, rfl⟩

/-- Writing a row that keeps its columns of the index, and was in the index if it is. -/
theorem Evolves.update (h : Evolves q q') {taskId : ℕ}
    {f : ArtifactMaintenanceTask → ArtifactMaintenanceTask}
    (hspec : ∀ task, (f task).spec = task.spec)
    (hactive : ∀ task', q'.items taskId = some task' → (f task').isActive = true →
      ∃ task, q.items taskId = some task ∧ task.isActive = true ∧ task.spec = task'.spec)
    {runs : Sql.Serial (WorkRun ArtifactMaintenanceRunResult)} :
    Evolves q { items := q'.items.update taskId f, runs } where
  kept {taskId' task} hrow := by
    obtain ⟨task', hrow', hsame⟩ := h.kept hrow
    refine ⟨_, Sql.Serial.update_eq_some.mpr ⟨task', hrow', rfl⟩, ?_⟩
    split
    · rw [hspec, hsame]
    · exact hsame
  active {taskId' task'} hrow hact := by
    obtain ⟨task'', hrow'', rfl⟩ := Sql.Serial.update_eq_some.mp hrow
    split at hact
    next heq =>
      subst heq
      rw [if_pos rfl, hspec]
      exact hactive task'' hrow'' hact
    next hne =>
      rw [if_neg hne]
      exact h.active hrow'' hact

/-- A statement that takes a row out of the index, or leaves it there. -/
theorem Evolves.updateOne {taskId : ℕ}
    {f : ArtifactMaintenanceTask → ArtifactMaintenanceTask}
    (hspec : ∀ task, (f task).spec = task.spec)
    (hactive : ∀ task, q.items taskId = some task → (f task).isActive = true →
      task.isActive = true)
    {runs : Sql.Serial (WorkRun ArtifactMaintenanceRunResult)} :
    Evolves q { items := q.items.update taskId f, runs } :=
  (Evolves.refl q).update hspec fun task hrow hact => ⟨task, hrow, hactive task hrow hact, rfl⟩

theorem evolves_assign {taskId : ℕ} {task : ArtifactMaintenanceTask}
    (hrow : q.items taskId = some task) (hopen : task.status = .«open») (workerId : String)
    (agentId : Option String) (result : ArtifactMaintenanceRunResult) :
    Evolves q (q.assign now taskId workerId agentId result).2 := by
  refine Evolves.updateOne (fun _ => ?_) fun task' hrow' _ => ?_
  · rfl
  obtain rfl := Option.some.inj (hrow.symm.trans hrow')
  exact decide_eq_true (Or.inl hopen)

/-- The tasks that stale runs are at are assigned, and become open. -/
theorem evolves_expire {stale : List (ℕ × WorkRun ArtifactMaintenanceRunResult)}
    (hstale : ∀ run ∈ stale, ∃ task, q.items run.2.itemId = some task ∧ task.isActive = true)
    (h : Evolves q q') : Evolves q (stale.foldl (WorkQueue.expireRun now) q') := by
  induction stale generalizing q' with
  | nil => exact h
  | cons run stale ih =>
    refine ih (fun run' hrun' => hstale run' (List.mem_cons_of_mem _ hrun')) ?_
    obtain ⟨task, hrow, hactive⟩ := hstale run List.mem_cons_self
    refine h.update (fun _ => ?_) fun task' hrow' _ => ⟨task, hrow, hactive, ?_⟩
    · rfl
    obtain ⟨task'', hrow'', hsame⟩ := h.kept hrow
    obtain rfl := Option.some.inj (hrow'.symm.trans hrow'')
    exact hsame.symm

end

/-- **The other calls of the store.** -/
theorem evolves_exec {now : Time} {db : CoordinatorDb} {call : StoreCall}
    (h : call.isOther = true) : Evolves db.maintenance (call.exec now db).1.maintenance := by
  cases call with
  | createArtifactMaintenanceTask spec => cases h
  | claimNextOpenArtifactMaintenanceTask agentId taskType workerId locked =>
    simp only [StoreCall.exec]
    cases hclaim : claimNextOpenArtifactMaintenanceTask now db.maintenance agentId taskType workerId
        locked with
    | none => exact Evolves.refl _
    | some granted =>
      obtain ⟨taskId, task, hrow, hopen, rfl⟩ := WorkQueue.claimNextOpen_eq_some hclaim
      exact evolves_assign hrow hopen _ _ _
  | claimArtifactMaintenanceTaskById agentId taskId workerId =>
    simp only [StoreCall.exec]
    cases hclaim : claimArtifactMaintenanceTaskById now db.maintenance agentId taskId workerId with
    | none => exact Evolves.refl _
    | some granted =>
      obtain ⟨task, hrow, hopen, rfl⟩ := WorkQueue.claimById_eq_some hclaim
      exact evolves_assign hrow hopen _ _ _
  | completeArtifactMaintenanceTask lease _ _ _ =>
    refine Evolves.updateOne (fun _ => ?_) fun task _ hactive => ?_
    · rfl
    exact absurd (of_decide_eq_true hactive) (by simp [WorkItem.complete])
  | failArtifactMaintenanceTask lease _ =>
    refine Evolves.updateOne (fun _ => ?_) fun task _ hactive => ?_
    · rfl
    exact absurd (of_decide_eq_true hactive) (by simp [WorkItem.fail])
  | heartbeatArtifactMaintenanceTaskRun lease agentId workerId =>
    simp only [StoreCall.exec]
    cases hbeat : heartbeatArtifactMaintenanceTaskRun now db.maintenance lease agentId workerId with
    | none => exact Evolves.refl _
    | some q' =>
      obtain ⟨-, rfl⟩ := WorkQueue.heartbeat_eq_some hbeat
      refine Evolves.updateOne (fun _ => ?_) fun task _ hactive => ?_
      · rfl
      · exact hactive
  | expireStaleArtifactMaintenanceTaskRuns limit staleBefore locked =>
    refine evolves_expire (fun run hrun => ?_) (Evolves.refl _)
    obtain ⟨-, hholds⟩ := WorkQueue.holds_of_mem_staleRuns hrun
    obtain ⟨_, task, _, _, _, hrow, hassigned⟩ := WorkQueue.holds_iff.mp hholds
    exact ⟨task, hrow, decide_eq_true (Or.inr hassigned)⟩
  | claimNextOpenReplicationJob agentId workerId locked =>
    simp only [StoreCall.exec]
    cases claimNextOpenReplicationJob now db.replication agentId workerId locked with
    | none => exact Evolves.refl _
    | some granted => exact Evolves.refl _
  | claimReplicationJobById agentId jobId workerId =>
    simp only [StoreCall.exec]
    cases claimReplicationJobById now db.replication agentId jobId workerId with
    | none => exact Evolves.refl _
    | some granted => exact Evolves.refl _
  | createReplicationJob | completeReplicationJob | failReplicationJob
    | heartbeatReplicationJobRun | expireStaleReplicationJobRuns => exact Evolves.refl _

/-! ### No two active tasks are alike -/

/-- **What the index keeps.** -/
def Distinct (q : ArtifactMaintenanceQueue) : Prop :=
  ∀ {taskId taskId' : ℕ} {task task' : ArtifactMaintenanceTask},
    q.items taskId = some task → q.items taskId' = some task' → task.isActive = true →
    task'.isActive = true → task.spec.sameIdentity task'.spec = true → taskId = taskId'

/-- The task is the one asked for. -/
def ArtifactMaintenanceSpec.Requested (spec spec' : ArtifactMaintenanceSpec) : Prop :=
  spec'.artifactKey = spec.artifactKey ∧ spec'.taskType = spec.taskType ∧
    spec'.targetReplicaKey = spec.targetReplicaKey

theorem sameIdentity_comm {spec spec' : ArtifactMaintenanceSpec} :
    spec.sameIdentity spec' = spec'.sameIdentity spec := by
  simp only [ArtifactMaintenanceSpec.sameIdentity, eq_comm]

theorem Distinct.evolves {q q' : ArtifactMaintenanceQueue} (h : Distinct q) (he : Evolves q q') :
    Distinct q' := by
  intro taskId taskId' task task' hrow hrow' hactive hactive' hsame
  obtain ⟨before, hbefore, hbeforeActive, hspec⟩ := he.active hrow hactive
  obtain ⟨before', hbefore', hbeforeActive', hspec'⟩ := he.active hrow' hactive'
  refine h hbefore hbefore' hbeforeActive hbeforeActive' ?_
  rw [hspec, hspec']
  exact hsame

theorem Distinct.create {now : Time} {s : TaskStore} {spec : ArtifactMaintenanceSpec}
    (h : Distinct s.queue) (hempty : (selectActive s.queue spec).isEmpty = true) :
    Distinct (s.queue.create now spec default) := by
  have hnone := selectActive_isEmpty.mp hempty
  intro taskId taskId' task task' hrow hrow' hactive hactive' hsame
  obtain ⟨hnew, hspec⟩ | hold := Sql.Serial.insert_eq_some.mp hrow
  · obtain ⟨hnew', -⟩ | hold' := Sql.Serial.insert_eq_some.mp hrow'
    · exact hnew.trans hnew'.symm
    · rw [hspec, sameIdentity_comm] at hsame
      rw [hnone taskId' task' hold' hsame] at hactive'
      cases hactive'
  · obtain ⟨hnew', hspec'⟩ | hold' := Sql.Serial.insert_eq_some.mp hrow'
    · rw [hspec'] at hsame
      rw [hnone taskId task hold hsame] at hactive
      cases hactive
    · exact h hold hold' hactive hactive' hsame

/-! ### A step of a caller -/

/-- **What a caller can do to the tables**: nothing to the tasks, or another call's effect, or a
new task. -/
inductive TaskEffect (s : TaskStore) (p : TaskCreation) : TaskStore → TaskCreation → Prop
  | evolve {s' : TaskStore} : Evolves s.queue s'.queue → TaskEffect s p s' p
  | go {p' : TaskCreation} : TaskEffect s p s p'
  | create {now : Time} {spec : ArtifactMaintenanceSpec} :
      p = .inserting spec → (selectActive s.queue spec).isEmpty = true →
      TaskEffect s p (s.withQueue (s.queue.create now spec default))
        (.reading spec s.queue.items.next)

theorem TaskAction.effect {a : TaskAction} {s s' : TaskStore} {p p' : TaskCreation}
    (h : a.act s p = some (s', p')) : TaskEffect s p s' p' := by
  cases a with
  | call spec =>
    obtain ⟨-, heq⟩ := Option.ite_none_right_eq_some.mp h
    obtain ⟨rfl, rfl⟩ := Prod.mk.inj (Option.some.inj heq)
    exact .go
  | other now storeCall =>
    obtain ⟨hother, heq⟩ := Option.ite_none_right_eq_some.mp h
    obtain ⟨rfl, rfl⟩ := Prod.mk.inj (Option.some.inj heq)
    exact .evolve (evolves_exec hother)
  | persist artifactKey =>
    obtain ⟨rfl, rfl⟩ := Prod.mk.inj (Option.some.inj h)
    exact .evolve (Evolves.refl _)
  | next now =>
    simp only [TaskAction.act] at h
    cases p with
    | idle | returned | threw => cases h
    | selecting spec =>
      simp only [TaskCreation.next] at h
      split at h
      all_goals
        obtain ⟨rfl, rfl⟩ := Prod.mk.inj (Option.some.inj h)
        exact .go
    | inserting spec =>
      simp only [TaskCreation.next] at h
      split at h
      next hempty =>
        split at h
        all_goals obtain ⟨rfl, rfl⟩ := Prod.mk.inj (Option.some.inj h)
        · exact .create rfl hempty
        · exact .go
      next =>
        obtain ⟨rfl, rfl⟩ := Prod.mk.inj (Option.some.inj h)
        exact .go
    | reading spec taskId =>
      simp only [TaskCreation.next] at h
      split at h
      all_goals
        obtain ⟨rfl, rfl⟩ := Prod.mk.inj (Option.some.inj h)
        exact .go
    | recovering spec =>
      simp only [TaskCreation.next] at h
      split at h
      all_goals
        obtain ⟨rfl, rfl⟩ := Prod.mk.inj (Option.some.inj h)
        exact .go

section

variable {s s' : TaskStore} {p p' : TaskCreation}

theorem Distinct.effect (h : Distinct s.queue) (heffect : TaskEffect s p s' p') :
    Distinct s'.queue := by
  cases heffect with
  | evolve he => exact h.evolves he
  | go => exact h
  | create _ hempty => exact h.create hempty

/-- A task stays the task it is. -/
theorem TaskEffect.kept (h : TaskEffect s p s' p') {taskId : ℕ} {task : ArtifactMaintenanceTask}
    (hrow : s.queue.items taskId = some task) :
    ∃ task', s'.queue.items taskId = some task' ∧ task'.spec = task.spec := by
  cases h with
  | evolve he => exact he.kept hrow
  | go => exact ⟨task, hrow, rfl⟩
  | create => exact ⟨task, Sql.Serial.insert_of_some hrow, rfl⟩

end

/-! ### What a call answers -/

abbrev TaskEvent (ι : Type) : Type := Event ι TaskStore TaskCreation TaskAction Empty

/-- **What a query must find** for its call to answer as asked. The first lookup takes a missing
replica key and an empty one for the same; an insertion needs the artifact; and the second lookup
must come upon the task asked for, still open, before any other one. -/
def TaskCreation.Careful (s : TaskStore) : TaskCreation → Prop
  | .selecting spec => ∀ row ∈ selectActive s.queue spec,
    row.2.spec.targetReplicaKey = spec.targetReplicaKey
  | .inserting spec => s.artifacts spec.artifactKey = true
  | .recovering spec => ∃ taskId task, s.queue.items taskId = some task ∧
    task.status = .«open» ∧ spec.Requested task.spec ∧
    ∀ taskId' task', taskId' < taskId → s.queue.items taskId' = some task' →
      spec.recoveryWhere task' = false
  | _ => True

/-- A step that is none of a call, or finds what it must. -/
def CarefulStep {ι : Type} (e : TaskEvent ι) : Prop :=
  match e.label with
  | .act i (.next _) => (e.before.process i).Careful e.before.shared
  | _ => True

instance (spec spec' : ArtifactMaintenanceSpec) : Decidable (spec.Requested spec') :=
  inferInstanceAs (Decidable (_ ∧ _ ∧ _))

/-- What the second lookup must come upon can be looked up. -/
theorem careful_recovering {s : TaskStore} {spec : ArtifactMaintenanceSpec} :
    (TaskCreation.recovering spec).Careful s ↔
      ∃ taskId ∈ List.range s.queue.items.next, ∃ task ∈ s.queue.items taskId,
        (task.status = .«open» ∧ spec.Requested task.spec) ∧
        ∀ taskId' ∈ List.range taskId, ∀ task' ∈ s.queue.items taskId',
          spec.recoveryWhere task' = false := by
  constructor
  · rintro ⟨taskId, task, hrow, hopen, hrequested, hfirst⟩
    exact ⟨taskId, List.mem_range.mpr (Sql.Serial.lt_next hrow), task, hrow,
      ⟨hopen, hrequested⟩, fun taskId' hlt task' => hfirst taskId' task' (List.mem_range.mp hlt)⟩
  · rintro ⟨taskId, -, task, hrow, ⟨hopen, hrequested⟩, hfirst⟩
    exact ⟨taskId, task, hrow, hopen, hrequested,
      fun taskId' task' hlt => hfirst taskId' (List.mem_range.mpr hlt) task'⟩

instance (s : TaskStore) (p : TaskCreation) : Decidable (p.Careful s) :=
  match p with
  | .selecting spec => inferInstanceAs (Decidable (∀ row ∈ selectActive s.queue spec,
      row.2.spec.targetReplicaKey = spec.targetReplicaKey))
  | .inserting spec => inferInstanceAs (Decidable (s.artifacts spec.artifactKey = true))
  | .recovering _ => decidable_of_iff _ careful_recovering.symm
  | .idle | .reading .. | .returned .. | .threw .. => inferInstanceAs (Decidable True)

instance {ι : Type} (e : TaskEvent ι) : Decidable (CarefulStep e) :=
  match e with
  | ⟨before, .act i (.next _), _⟩ =>
    inferInstanceAs (Decidable ((before.process i).Careful before.shared))
  | ⟨_, .act _ (.call _), _⟩ | ⟨_, .act _ (.other ..), _⟩ | ⟨_, .act _ (.persist _), _⟩
    | ⟨_, .env _, _⟩ => inferInstanceAs (Decidable True)

/-- A task has been open or assigned at some moment since a process called last. -/
def ActiveDuring {ι : Type} (tr : List (TaskEvent ι)) (i : ι) (taskId : ℕ) : Prop :=
  ∃ tr₁ e tr₂, tr = tr₁ ++ e :: tr₂ ∧ (∀ e' ∈ tr₂, ∀ spec, e'.label ≠ .act i (.call spec)) ∧
    ∃ task, e.after.shared.queue.items taskId = some task ∧ task.isActive = true

/-- What a call has in hand, of the tasks that have been active during it. -/
def TaskCreation.Answers (Active : ℕ → Prop) (s : TaskStore) : TaskCreation → Prop
  | .reading spec taskId =>
    Active taskId ∧ ∃ task, s.queue.items taskId = some task ∧ spec.Requested task.spec
  | .returned spec taskId task => Active taskId ∧ spec.Requested task.spec
  | .threw .. => False
  | _ => True

/-- How many statements a call still has to make, at most. -/
def TaskCreation.remaining : TaskCreation → ℕ
  | .selecting _ => 3
  | .inserting _ => 2
  | .reading .. | .recovering _ => 1
  | _ => 0

section

variable {ι : Type} {tr : List (TaskEvent ι)} {e : TaskEvent ι} {i : ι} {taskId : ℕ}

theorem ActiveDuring.snoc (h : ActiveDuring tr i taskId)
    (hlabel : ∀ spec, e.label ≠ .act i (.call spec)) : ActiveDuring (tr ++ [e]) i taskId := by
  obtain ⟨tr₁, e₁, tr₂, rfl, hlater, hactive⟩ := h
  refine ⟨tr₁, e₁, tr₂ ++ [e], by simp, fun e' he' => ?_, hactive⟩
  obtain he' | he' := List.mem_append.mp he'
  · exact hlater e' he'
  · obtain rfl := List.mem_singleton.mp he'
    exact hlabel

theorem ActiveDuring.here {task : ArtifactMaintenanceTask}
    (hrow : e.after.shared.queue.items taskId = some task) (hactive : task.isActive = true) :
    ActiveDuring (tr ++ [e]) i taskId :=
  ⟨tr, e, [], rfl, fun _ h => absurd h List.not_mem_nil, task, hrow, hactive⟩

/-- What a call has in hand stays good while others act. -/
theorem TaskCreation.Answers.mono {Active Active' : ℕ → Prop} {s s' : TaskStore}
    {p : TaskCreation} (h : p.Answers Active s) (hactive : ∀ taskId, Active taskId → Active' taskId)
    (hkept : ∀ {taskId task}, s.queue.items taskId = some task →
      ∃ task', s'.queue.items taskId = some task' ∧ task'.spec = task.spec) :
    p.Answers Active' s' := by
  cases p with
  | idle | selecting | inserting | recovering => trivial
  | threw => exact h
  | returned spec taskId task => exact ⟨hactive _ h.1, h.2⟩
  | reading spec taskId =>
    obtain ⟨hact, task, hrow, hrequested⟩ := h
    obtain ⟨task', hrow', hspec⟩ := hkept hrow
    exact ⟨hactive _ hact, task', hrow', hspec ▸ hrequested⟩

end

/-- The first row of a query. -/
theorem select_first {ρ : Type} {t : Sql.Serial ρ} {p : ℕ → ρ → Bool} {k : ℕ} {r : ρ}
    (hrow : t k = some r) (hp : p k r = true)
    (hfirst : ∀ k' r', k' < k → t k' = some r' → p k' r' = false) :
    ∃ rows, t.select p = (k, r) :: rows := by
  have hmem : (k, r) ∈ t.select p := Sql.Serial.mem_select.mpr ⟨hrow, hp⟩
  have hsorted : ((t.select p).map Prod.fst).Pairwise (· < ·) := by
    rw [Sql.Serial.map_fst_select]
    exact List.pairwise_lt_range.filter _
  cases hselect : t.select p with
  | nil => rw [hselect] at hmem; cases hmem
  | cons row rows =>
    obtain ⟨k', r'⟩ := row
    obtain ⟨hrow', hp'⟩ := Sql.Serial.mem_select.mp (hselect ▸ List.mem_cons_self :
      (k', r') ∈ t.select p)
    rw [hselect] at hmem hsorted
    obtain heq | hlater := List.mem_cons.mp hmem
    · exact ⟨rows, congrArg (· :: rows) heq.symm⟩
    · have hlt : k' < k :=
        (List.pairwise_cons.mp hsorted).1 k (List.mem_map.mpr ⟨_, hlater, rfl⟩)
      rw [hfirst k' r' hlt hrow'] at hp'
      cases hp'

theorem requested_of_sameIdentity {spec spec' : ArtifactMaintenanceSpec}
    (hsame : spec'.sameIdentity spec = true)
    (htarget : spec'.targetReplicaKey = spec.targetReplicaKey) : spec.Requested spec' := by
  obtain ⟨hartifact, htype, -⟩ := of_decide_eq_true hsame
  exact ⟨hartifact, htype, htarget⟩

/-- The task asked for, if it is open, passes the second lookup. -/
theorem recoveryWhere_of_requested {spec : ArtifactMaintenanceSpec}
    {task : ArtifactMaintenanceTask} (hopen : task.status = .«open»)
    (hrequested : spec.Requested task.spec) : spec.recoveryWhere task = true :=
  decide_eq_true ⟨Or.inr hrequested.1, hrequested.2.1, hopen, Or.inr hrequested.2.2⟩

/-- **The next statement of a careful call**, with what it has in hand before and after. -/
theorem TaskCreation.Answers.next {Active Active' : ℕ → Prop} {now : Time} {s s' : TaskStore}
    {p p' : TaskCreation} (h : p.Answers Active s) (hcareful : p.Careful s)
    (hnext : p.next now s = some (s', p')) (hactive : ∀ taskId, Active taskId → Active' taskId)
    (hhere : ∀ taskId task, s'.queue.items taskId = some task → task.isActive = true →
      Active' taskId) : p'.Answers Active' s' := by
  cases p with
  | idle | returned | threw => cases hnext
  | selecting spec =>
    simp only [TaskCreation.next] at hnext
    split at hnext
    next taskId task rows hselect =>
      obtain ⟨rfl, rfl⟩ := Prod.mk.inj (Option.some.inj hnext)
      have hmem : (taskId, task) ∈ selectActive s.queue spec := hselect ▸ List.mem_cons_self
      obtain ⟨hrow, hsame, hact⟩ := mem_selectActive.mp hmem
      exact ⟨hhere _ _ hrow hact, task, hrow,
        requested_of_sameIdentity hsame (hcareful _ hmem)⟩
    next =>
      obtain ⟨rfl, rfl⟩ := Prod.mk.inj (Option.some.inj hnext)
      trivial
  | inserting spec =>
    have hartifact : s.artifacts spec.artifactKey = true := hcareful
    simp only [TaskCreation.next, hartifact, if_true] at hnext
    split at hnext
    next =>
      obtain ⟨rfl, rfl⟩ := Prod.mk.inj (Option.some.inj hnext)
      have hrow := Sql.Serial.insert_self s.queue.items
        { spec, status := .«open», assignedWorker := none, assignedAgentId := none
          assignedAt := none, failureReason := none, completedAt := none, updatedAt := now
          result := default }
      exact ⟨hhere _ _ hrow (decide_eq_true (Or.inl rfl)), _, hrow, rfl, rfl, rfl⟩
    next =>
      obtain ⟨rfl, rfl⟩ := Prod.mk.inj (Option.some.inj hnext)
      trivial
  | reading spec taskId =>
    obtain ⟨hact, task, hrow, hrequested⟩ := h
    simp only [TaskCreation.next, hrow] at hnext
    obtain ⟨rfl, rfl⟩ := Prod.mk.inj (Option.some.inj hnext)
    exact ⟨hactive _ hact, hrequested⟩
  | recovering spec =>
    obtain ⟨taskId, task, hrow, hopen, hrequested, hfirst⟩ := hcareful
    obtain ⟨rows, hselect⟩ := select_first hrow
      (p := fun _ item => spec.recoveryWhere item) (recoveryWhere_of_requested hopen hrequested)
      (fun taskId' task' hlt hrow' => hfirst taskId' task' hlt hrow')
    simp only [TaskCreation.next, readArtifactMaintenanceTasksPage, hselect,
      List.take_succ_cons] at hnext
    obtain ⟨rfl, rfl⟩ := Prod.mk.inj (Option.some.inj hnext)
    exact ⟨hhere _ _ hrow (decide_eq_true (Or.inl hopen)), hrequested⟩

/-- A call can always make its next statement, and has one less to make. -/
theorem exists_next (now : Time) (s : TaskStore) {p : TaskCreation} (h : p.isFree = false) :
    ∃ s' p', p.next now s = some (s', p') ∧ p'.remaining < p.remaining := by
  cases p with
  | idle | returned | threw => cases h
  | selecting spec =>
    simp only [TaskCreation.next]
    split
    · exact ⟨_, _, rfl, by simp [TaskCreation.remaining]⟩
    · exact ⟨_, _, rfl, by simp [TaskCreation.remaining]⟩
  | inserting spec =>
    simp only [TaskCreation.next]
    split
    · split
      · exact ⟨_, _, rfl, by simp [TaskCreation.remaining]⟩
      · exact ⟨_, _, rfl, by simp [TaskCreation.remaining]⟩
    · exact ⟨_, _, rfl, by simp [TaskCreation.remaining]⟩
  | reading spec taskId =>
    simp only [TaskCreation.next]
    split
    · exact ⟨_, _, rfl, by simp [TaskCreation.remaining]⟩
    · exact ⟨_, _, rfl, by simp [TaskCreation.remaining]⟩
  | recovering spec =>
    simp only [TaskCreation.next]
    split
    · exact ⟨_, _, rfl, by simp [TaskCreation.remaining]⟩
    · exact ⟨_, _, rfl, by simp [TaskCreation.remaining]⟩

/-! ### Every history -/

section

variable {ι : Type} [DecidableEq ι] {tr : List (TaskEvent ι)} {c : Config ι TaskStore TaskCreation}

/-- **No two tasks that are open or assigned are alike**, whatever happens. -/
theorem distinct_of_run (h : taskCreators.Run tr c) : Distinct c.shared.queue := by
  refine h.history (Q := fun _ c => Distinct c.shared.queue) (fun s hgen => ?_)
    fun _ hdistinct hstep => ?_
  · have hgen : s.db = .empty := hgen
    intro taskId taskId' task task' hrow
    rw [TaskStore.queue, hgen] at hrow
    cases hrow
  · cases hstep with
    | act hact => exact hdistinct.effect (TaskAction.effect hact)
    | env henv => exact Empty.elim (by assumption)

theorem answers_of_run (h : taskCreators.Run tr c) (hcareful : ∀ e ∈ tr, CarefulStep e) (i : ι) :
    (c.process i).Answers (ActiveDuring tr i) c.shared := by
  revert hcareful i
  refine h.history (Q := fun tr c => (∀ e ∈ tr, CarefulStep e) →
    ∀ i, (c.process i).Answers (ActiveDuring tr i) c.shared) ?_ ?_
  · intro s _ _ i
    trivial
  intro tr c l c' _ ih hstep hcareful j
  have ih := ih (fun e he => hcareful e (List.mem_append_left _ he)) j
  have hlast := hcareful _ (List.mem_append_right tr (List.mem_singleton_self _))
  cases hstep with
  | env henv => exact Empty.elim (by assumption)
  | @act i a s p hact =>
    have heffect := TaskAction.effect hact
    -- What is in hand stays good unless the process begins a new call.
    have hkeep : (∀ spec, (i, a) ≠ (j, .call spec)) → (c.process j).Answers
        (ActiveDuring (tr ++ [⟨c, .act i a, ⟨s, Function.update c.process i p⟩⟩]) j) s := by
      intro hne
      refine ih.mono (fun taskId hactive => hactive.snoc fun spec heq => ?_) heffect.kept
      obtain ⟨rfl, rfl⟩ := Label.act.inj heq
      exact hne spec rfl
    show (Function.update c.process i p j).Answers _ s
    by_cases hj : j = i
    · subst hj
      rw [Function.update_self]
      cases a with
      | call spec =>
        obtain ⟨-, heq⟩ := Option.ite_none_right_eq_some.mp hact
        obtain ⟨rfl, rfl⟩ := Prod.mk.inj (Option.some.inj heq)
        trivial
      | other now storeCall =>
        obtain ⟨-, heq⟩ := Option.ite_none_right_eq_some.mp hact
        obtain ⟨rfl, rfl⟩ := Prod.mk.inj (Option.some.inj heq)
        exact hkeep fun spec heq => by cases heq
      | persist artifactKey =>
        obtain ⟨rfl, rfl⟩ := Prod.mk.inj (Option.some.inj hact)
        exact hkeep fun spec heq => by cases heq
      | next now =>
        refine ih.next hlast hact (fun taskId hactive => hactive.snoc ?_)
          fun taskId task hrow hactive => ActiveDuring.here hrow hactive
        exact fun spec heq => by cases heq
    · rw [Function.update_of_ne hj]
      exact hkeep fun spec heq => hj (Prod.mk.inj heq).1.symm

end

/-- **What a call answers.** No two active tasks are alike; and in a history whose steps find what
they must, no call fails, each has answered with the task it was asked for, active at some moment
since, and each that has not answered will, after three more statements at most. -/
theorem deduplicated {ι : Type} [DecidableEq ι] {tr : List (TaskEvent ι)}
    {c : Config ι TaskStore TaskCreation} (h : taskCreators.Run tr c)
    (hcareful : ∀ e ∈ tr, CarefulStep e) :
    Distinct c.shared.queue ∧ ∀ i,
      (∀ spec error, c.process i ≠ .threw spec error) ∧
      (∀ spec taskId task, c.process i = .returned spec taskId task →
        spec.Requested task.spec ∧ ActiveDuring tr i taskId) ∧
      ((c.process i).isFree = false → ∀ now, ∃ s' p',
        TaskAction.act (.next now) c.shared (c.process i) = some (s', p') ∧
          p'.remaining < (c.process i).remaining ∧ (c.process i).remaining ≤ 3) := by
  refine ⟨distinct_of_run h, fun i => ?_⟩
  have hanswers := answers_of_run h hcareful i
  refine ⟨fun spec error heq => ?_, fun spec taskId task heq => ?_, fun hfree now => ?_⟩
  · rw [heq] at hanswers
    exact hanswers
  · rw [heq] at hanswers
    exact ⟨hanswers.2, hanswers.1⟩
  · obtain ⟨s', p', hnext, hlt⟩ := exists_next now c.shared hfree
    refine ⟨s', p', hnext, hlt, ?_⟩
    cases c.process i with
    | selecting | inserting | reading | recovering | idle | returned | threw =>
      simp [TaskCreation.remaining]

/-! ### Histories -/

/-- The history some actions of callers make, from the tables as they are set up. -/
def playTasks (moves : List (ℕ × TaskAction)) :
    Option (List (TaskEvent ℕ) × Config ℕ TaskStore TaskCreation) :=
  taskCreators.play moves ⟨⟨.empty, fun _ => false⟩, fun _ => .idle⟩

theorem run_playTasks {moves : List (ℕ × TaskAction)} (h : (playTasks moves).isSome) :
    taskCreators.Run ((playTasks moves).get h).1 ((playTasks moves).get h).2 :=
  Processes.run_play (M := taskCreators) (s := ⟨.empty, fun _ => false⟩) rfl h

/-- A repair of one replica of an artifact, or of none. -/
def repairOf (targetReplicaKey : Option String) : ArtifactMaintenanceSpec where
  artifactKey := "a"
  taskType := .repair
  requestedBy := "auditor"
  targetReplicaKey := targetReplicaKey
  targetProvider := none

/-- Two calls ask for the same task, and both look before either inserts. -/
def racing : List (ℕ × TaskAction) :=
  [(0, .call (repairOf none)), (1, .call (repairOf none)), (0, .next 1), (1, .next 1),
    (0, .next 2), (0, .next 3)]

/-- The second one is answered with the task of the first one, which is still open. -/
def racingOpen : List (ℕ × TaskAction) :=
  (2, .persist "a") :: racing ++ [(1, .next 4), (1, .next 5)]

/-- By then a worker has claimed it. -/
def racingClaimed : List (ℕ × TaskAction) :=
  (2, .persist "a") :: racing ++
    [(2, .other 4 (.claimArtifactMaintenanceTaskById none 1 "worker")), (1, .next 5), (1, .next 6)]

/-- There is an older task of another replica. -/
def racingOther : List (ℕ × TaskAction) :=
  [(2, .persist "a"), (2, .call (repairOf (some "ipfs-1"))), (2, .next 0), (2, .next 0),
    (2, .next 0)] ++ racing ++ [(1, .next 4), (1, .next 5)]

theorem racingOpen_possible : (playTasks racingOpen).isSome := by decide

theorem racingClaimed_possible : (playTasks racingClaimed).isSome := by decide

theorem racingOther_possible : (playTasks racingOther).isSome := by decide

/-- **The second lookup is misled**: a call fails because its task has been claimed, and a call
for no replica is answered with a task of one. -/
theorem misled :
    ((playTasks racingClaimed).get racingClaimed_possible).2.process 1 =
      .threw (repairOf none) "23505" ∧
    ∃ task : ArtifactMaintenanceTask,
      ((playTasks racingOther).get racingOther_possible).2.process 1 =
        .returned (repairOf none) 1 task ∧ task.spec.targetReplicaKey = some "ipfs-1" ∧
        ¬ (repairOf none).Requested task.spec := by
  refine ⟨by decide, ?_⟩
  refine ⟨{ spec := repairOf (some "ipfs-1"), status := .«open», assignedWorker := none,
            assignedAgentId := none, assignedAt := none, failureReason := none
            completedAt := none, updatedAt := 0, result := default }, ?_, rfl, by decide⟩
  decide

/-- Where it finds the task still open, both calls have it. -/
theorem deduplicated_racingOpen :
    ((playTasks racingOpen).get racingOpen_possible).2.process 1 =
      ((playTasks racingOpen).get racingOpen_possible).2.process 0 ∧
    Distinct ((playTasks racingOpen).get racingOpen_possible).2.shared.queue :=
  ⟨by decide, (deduplicated (run_playTasks racingOpen_possible) (by decide)).1⟩

end ScientificProtocol.Coordinator
