import ScientificProtocol.Coordinator.Store

/-!
# Completing and failing are not fenced

A worker that completes or fails something is supposed to hold it: its run is running, at
an item that is assigned. `heartbeatArtifactMaintenanceTaskRun` checks this, and so does
the heartbeat of a replication job; completing and failing write both rows by their keys
alone. So a worker whose lease has expired completes the item under the hands of the next
one (`ScientificProtocol.Coordinator.stale_completion_writes`).

What the lease is for holds in every history in which nobody does that
(`ScientificProtocol.Coordinator.fenced_of_live`): an item that is completed or failed
stays as it is, and so does a run that has ended. Here a history is any sequence of calls
of the store, with any identifiers at all.
-/

namespace ScientificProtocol.Coordinator

/-! ### Rows that no longer change -/

/-- An item is completed, or failed. -/
def WorkItem.isClosed {σ δ : Type} (item : WorkItem σ δ) : Bool :=
  decide (item.status = .completed ∨ item.status = .failed)

theorem WorkItem.isClosed_of_status {σ δ : Type} {item : WorkItem σ δ}
    (h : item.status = .assigned ∨ item.status = .«open») : item.isClosed = false := by
  rcases h with h | h <;> simp [isClosed, h]

namespace WorkQueue

variable {σ δ ρ : Type}

/-- Nothing is stored under either key of a lease. -/
def isVoid (q : WorkQueue σ δ ρ) (lease : Lease) : Bool :=
  (q.items lease.itemId).isNone && (q.runs lease.runId).isNone

/-- **What is closed in a queue is the same in another one**: the items that are completed
or failed, and the runs that have ended. -/
structure ClosedKept (q q' : WorkQueue σ δ ρ) : Prop where
  item_kept : ∀ {i item}, q.items i = some item → item.isClosed = true → q'.items i = some item
  run_kept : ∀ {r run}, q.runs r = some run → run.status ≠ .running → q'.runs r = some run

namespace ClosedKept

variable {q q' q'' : WorkQueue σ δ ρ}

theorem refl (q : WorkQueue σ δ ρ) : ClosedKept q q := ⟨fun h _ => h, fun h _ => h⟩

theorem trans (h : ClosedKept q q') (h' : ClosedKept q' q'') : ClosedKept q q'' where
  item_kept hitem hclosed := h'.item_kept (h.item_kept hitem hclosed) hclosed
  run_kept hrun hended := h'.run_kept (h.run_kept hrun hended) hended

/-- Updating an item that is not closed, and a run that has not ended. -/
theorem update {lease : Lease} {f : WorkItem σ δ → WorkItem σ δ} {g : WorkRun ρ → WorkRun ρ}
    (hitem : ∀ item, q.items lease.itemId = some item → item.isClosed = false)
    (hrun : ∀ run, q.runs lease.runId = some run → run.status = .running) :
    ClosedKept q
      { items := q.items.update lease.itemId f, runs := q.runs.update lease.runId g } where
  item_kept {i item} hi hclosed := by
    have hne : i ≠ lease.itemId := by
      rintro rfl
      rw [hitem item hi] at hclosed
      exact absurd hclosed (by decide)
    rw [Sql.Serial.update_of_ne _ hne, hi]
  run_kept {r run} hr hended := by
    have hne : r ≠ lease.runId := by
      rintro rfl
      exact hended (hrun run hr)
    rw [Sql.Serial.update_of_ne _ hne, hr]

/-- In particular those of a lease that is held. -/
theorem update_of_holds {lease : Lease} {f : WorkItem σ δ → WorkItem σ δ}
    {g : WorkRun ρ → WorkRun ρ} (h : q.holds lease = true) :
    ClosedKept q
      { items := q.items.update lease.itemId f, runs := q.runs.update lease.runId g } := by
  obtain ⟨run, item, hrun, -, hrunning, hitem, hassigned⟩ := holds_iff.mp h
  refine update (fun item' hitem' => ?_) fun run' hrun' => ?_
  · rw [← Option.some.inj (hitem.symm.trans hitem')]
    exact WorkItem.isClosed_of_status (.inl hassigned)
  · rw [← Option.some.inj (hrun.symm.trans hrun'), hrunning]

end ClosedKept

/-- Updating rows that are not there. -/
theorem update_of_isVoid {q : WorkQueue σ δ ρ} {lease : Lease} (h : q.isVoid lease = true)
    (f : WorkItem σ δ → WorkItem σ δ) (g : WorkRun ρ → WorkRun ρ) :
    { items := q.items.update lease.itemId f, runs := q.runs.update lease.runId g } = q := by
  rw [isVoid, Bool.and_eq_true, Option.isNone_iff_eq_none, Option.isNone_iff_eq_none] at h
  rw [Sql.Serial.update_of_none h.1, Sql.Serial.update_of_none h.2]

/-- Runs that hold their items expire one after the other. -/
theorem closedKept_expireRuns {now : Time} {q q₀ : WorkQueue σ δ ρ} {stale : List (ℕ × WorkRun ρ)}
    (hstale : ∀ s ∈ stale, q₀.holds ⟨s.2.itemId, s.1⟩ = true) (h : ClosedKept q₀ q) :
    ClosedKept q₀ (stale.foldl (expireRun now) q) := by
  induction stale generalizing q with
  | nil => exact h
  | cons s rest ih =>
    refine ih (fun s' hs' => hstale s' (List.mem_cons_of_mem _ hs')) ?_
    obtain ⟨run, item, hrun, -, hrunning, hitem, hassigned⟩ :=
      holds_iff.mp (hstale s List.mem_cons_self)
    -- A closed row is not a row of a lease that was held when the runs were selected.
    constructor
    · intro i item' hi hclosed
      have hne : i ≠ s.2.itemId := by
        rintro rfl
        rw [← Option.some.inj (hitem.symm.trans hi),
          WorkItem.isClosed_of_status (.inl hassigned)] at hclosed
        exact absurd hclosed (by decide)
      rw [expireRun, Sql.Serial.update_of_ne _ hne, h.item_kept hi hclosed]
    · intro r run' hr hended
      have hne : r ≠ s.1 := by
        rintro rfl
        exact hended (Option.some.inj (hrun.symm.trans hr) ▸ hrunning)
      rw [expireRun, Sql.Serial.update_of_ne _ hne, h.run_kept hr hended]

/-- **A transaction keeps what is closed**, if a lease that is used up is held, or names
nothing. -/
theorem Step.closedKept {now : Time} {q q' : WorkQueue σ δ ρ} {used : Option Lease}
    {expired : List ℕ} (h : Step now q used expired q')
    (hused : ∀ lease ∈ used, q.holds lease = true ∨ q.isVoid lease = true) : ClosedKept q q' := by
  have hclose : ∀ {lease : Lease} {f : WorkItem σ δ → WorkItem σ δ} {g : WorkRun ρ → WorkRun ρ},
      q.holds lease = true ∨ q.isVoid lease = true → ClosedKept q
        { items := q.items.update lease.itemId f, runs := q.runs.update lease.runId g } := by
    rintro lease f g (hholds | hvoid)
    · exact .update_of_holds hholds
    · rw [update_of_isVoid hvoid]
      exact .refl q
  cases h with
  | idle => exact .refl q
  | create => exact ⟨fun hi _ => Sql.Serial.insert_of_some hi, fun hr _ => hr⟩
  | @assign itemId item _ _ _ hitem hopen =>
    refine ⟨fun {i item'} hi hclosed => ?_, fun hr _ => Sql.Serial.insert_of_some hr⟩
    have hne : i ≠ itemId := by
      rintro rfl
      rw [← Option.some.inj (hitem.symm.trans hi),
        WorkItem.isClosed_of_status (.inr hopen)] at hclosed
      exact absurd hclosed (by decide)
    rw [WorkQueue.assign, Sql.Serial.update_of_ne _ hne, hi]
  | complete lease => exact hclose (hused lease rfl)
  | fail lease => exact hclose (hused lease rfl)
  | heartbeat hholds => exact .update_of_holds hholds
  | expire locked limit staleBefore =>
    exact closedKept_expireRuns (fun s hs => (holds_of_mem_staleRuns hs).2) (.refl q)

/-! ### Leases that are held -/

/-- A running run holds its item. -/
def RunningHolds (q : WorkQueue σ δ ρ) : Prop :=
  ∀ r run, q.runs r = some run → run.status = .running → q.holds ⟨run.itemId, r⟩ = true

/-- Two leases that are held are of two items, or the same. -/
theorem Exclusive.eq_of_holds {q : WorkQueue σ δ ρ} (h : q.Exclusive) {lease lease' : Lease}
    (hheld : q.holds lease = true) (hheld' : q.holds lease' = true)
    (hsame : lease.itemId = lease'.itemId) : lease = lease' := by
  obtain ⟨run, -, hrun, hitem, hrunning, -⟩ := holds_iff.mp hheld
  obtain ⟨run', -, hrun', hitem', hrunning', -⟩ := holds_iff.mp hheld'
  have hr := h.running_unique hrun hrun' hrunning hrunning'
    (hitem.trans (hsame.trans hitem'.symm))
  obtain ⟨i, r⟩ := lease
  obtain ⟨i', r'⟩ := lease'
  obtain rfl : i = i' := hsame
  obtain rfl : r = r' := hr
  rfl

/-- An update of rows of other items, and of other runs. -/
theorem holds_update {q : WorkQueue σ δ ρ} {i r : ℕ} {lease : Lease}
    {f : WorkItem σ δ → WorkItem σ δ} {g : WorkRun ρ → WorkRun ρ} (h : q.holds lease = true)
    (hi : lease.itemId ≠ i) (hr : lease.runId ≠ r) :
    holds { items := q.items.update i f, runs := q.runs.update r g } lease = true := by
  obtain ⟨run, item, hrun, hrunitem, hrunning, hitem, hassigned⟩ := holds_iff.mp h
  exact holds_iff.mpr ⟨run, item, by rw [Sql.Serial.update_of_ne _ hr, hrun], hrunitem, hrunning,
    by rw [Sql.Serial.update_of_ne _ hi, hitem], hassigned⟩

/-- Other runs expire. -/
theorem Exclusive.holds_expireRuns {now : Time} {q q₀ : WorkQueue σ δ ρ} (h : q₀.Exclusive)
    {lease : Lease} (hheld₀ : q₀.holds lease = true) {stale : List (ℕ × WorkRun ρ)}
    (hstale : ∀ s ∈ stale, q₀.holds ⟨s.2.itemId, s.1⟩ = true)
    (hne : lease.runId ∉ stale.map Prod.fst) (hheld : q.holds lease = true) :
    (stale.foldl (WorkQueue.expireRun now) q).holds lease = true := by
  induction stale generalizing q with
  | nil => exact hheld
  | cons s rest ih =>
    rw [List.map_cons, List.mem_cons, not_or] at hne
    refine ih (fun s' hs' => hstale s' (List.mem_cons_of_mem _ hs')) hne.2
      (holds_update hheld (fun hsame => hne.1 ?_) hne.1)
    exact congrArg Lease.runId (h.eq_of_holds hheld₀ (hstale s List.mem_cons_self) hsame)

/-- **A lease stays held**, unless it is used up, or its run expires. -/
theorem Step.holds_kept (now : Time) {q q' : WorkQueue σ δ ρ} {used : Option Lease}
    {expired : List ℕ} (h : Step now q used expired q') (hexclusive : q.Exclusive) {lease : Lease}
    (hheld : q.holds lease = true)
    (hused : ∀ lease' ∈ used, q.isRunOf lease' = true ∧ lease'.itemId ≠ lease.itemId)
    (hexpired : lease.runId ∉ expired) : q'.holds lease = true := by
  obtain ⟨run, item, hrun, hrunitem, hrunning, hitem, hassigned⟩ := holds_iff.mp hheld
  -- What is used up is another item, and so another run.
  have hclose : ∀ {lease' : Lease} {f : WorkItem σ δ → WorkItem σ δ} {g : WorkRun ρ → WorkRun ρ},
      q.isRunOf lease' = true ∧ lease'.itemId ≠ lease.itemId →
      holds { items := q.items.update lease'.itemId f, runs := q.runs.update lease'.runId g }
        lease = true := by
    rintro lease' f g ⟨hrunof, hne⟩
    refine holds_update hheld (Ne.symm hne) fun hsame => hne ?_
    obtain ⟨run', hrun', hitem'⟩ := isRunOf_iff.mp hrunof
    rw [← hsame] at hrun'
    rw [← hitem', ← hrunitem, Option.some.inj (hrun'.symm.trans hrun)]
  cases h with
  | idle => exact hheld
  | create =>
    exact holds_iff.mpr ⟨run, item, hrun, hrunitem, hrunning, Sql.Serial.insert_of_some hitem,
      hassigned⟩
  | @assign itemId item' _ _ _ hitem' hopen =>
    have hne : lease.itemId ≠ itemId := by
      rintro hsame
      rw [← hsame] at hitem'
      rw [Option.some.inj (hitem.symm.trans hitem'), hopen] at hassigned
      exact absurd hassigned nofun
    exact holds_iff.mpr ⟨run, item, Sql.Serial.insert_of_some hrun, hrunitem, hrunning,
      by rw [WorkQueue.assign, Sql.Serial.update_of_ne _ hne, hitem], hassigned⟩
  | complete lease' => exact hclose (hused lease' rfl)
  | fail lease' => exact hclose (hused lease' rfl)
  | @heartbeat lease' hholds =>
    refine holds_iff.mpr ⟨_, _, Sql.Serial.update_eq_some.mpr ⟨run, hrun, rfl⟩, ?_, ?_,
      Sql.Serial.update_eq_some.mpr ⟨item, hitem, rfl⟩, ?_⟩
    all_goals split <;> assumption
  | expire locked limit staleBefore =>
    exact hexclusive.holds_expireRuns hheld (fun s hs => (holds_of_mem_staleRuns hs).2) hexpired
      hheld

/-- A running run among those that are left when an item and a run are written. -/
theorem RunningHolds.update {q : WorkQueue σ δ ρ} (h : q.RunningHolds) (hexclusive : q.Exclusive)
    {i r : ℕ} {run : WorkRun ρ} (hrow : q.runs r = some run) (hi : run.itemId = i)
    (hrunning : run.status = .running) {f : WorkItem σ δ → WorkItem σ δ}
    {g : WorkRun ρ → WorkRun ρ} (hg : ∀ run, (g run).status ≠ .running) :
    RunningHolds { items := q.items.update i f, runs := q.runs.update r g } := by
  intro r' run' hrow' hrunning'
  obtain ⟨run₀, hrow₀, rfl⟩ := Sql.Serial.update_eq_some.mp hrow'
  split at hrunning'
  · exact absurd hrunning' (hg run₀)
  next hne =>
    rw [if_neg hne]
    refine holds_update (h r' run₀ hrow₀ hrunning') (fun hsame => hne ?_) hne
    exact hexclusive.running_unique hrow₀ hrow hrunning' hrunning (hsame.trans hi.symm)

/-- **Running runs go on holding their items**, if a lease that is used up is held. -/
theorem RunningHolds.step {now : Time} {q q' : WorkQueue σ δ ρ} {used : Option Lease}
    {expired : List ℕ} (h : q.RunningHolds) (hexclusive : q.Exclusive)
    (hstep : Step now q used expired q') (hused : ∀ lease ∈ used, q.holds lease = true) :
    q'.RunningHolds := by
  have hclose : ∀ {lease : Lease} {f : WorkItem σ δ → WorkItem σ δ} {g : WorkRun ρ → WorkRun ρ},
      q.holds lease = true → (∀ run, (g run).status ≠ .running) → RunningHolds
        { items := q.items.update lease.itemId f, runs := q.runs.update lease.runId g } := by
    intro lease f g hheld hg
    obtain ⟨run, -, hrun, hitem, hrunning, -⟩ := holds_iff.mp hheld
    exact h.update hexclusive hrun hitem hrunning hg
  cases hstep with
  | complete lease =>
    refine hclose (hused lease rfl) fun run => ?_
    exact nofun
  | fail lease =>
    refine hclose (hused lease rfl) fun run => ?_
    exact nofun
  | expire locked limit staleBefore =>
    refine (expireStaleRuns_induction (I := fun q => q.Exclusive ∧ q.RunningHolds) ?_
      ⟨hexclusive, h⟩).2
    rintro q stale ⟨hexclusive, h⟩ hrow hrunning
    exact ⟨hexclusive.expireRun hrow hrunning,
      h.update hexclusive hrow rfl hrunning fun run => nofun⟩
  | idle => exact h
  | create spec result =>
    intro r run hrun hrunning
    exact (Step.create spec result).holds_kept now hexclusive (h r run hrun hrunning) nofun
      nofun
  | @assign itemId item workerId agentId result hitem hopen =>
    intro r run hrun hrunning
    rcases Sql.Serial.insert_eq_some.mp hrun with ⟨rfl, rfl⟩ | hrun
    · refine holds_iff.mpr ⟨_, _, Sql.Serial.insert_self _ _, rfl, rfl,
        Sql.Serial.update_eq_some.mpr ⟨item, hitem, rfl⟩, ?_⟩
      rw [if_pos rfl]
      rfl
    · exact (Step.assign workerId agentId result hitem hopen).holds_kept now hexclusive
        (h r run hrun hrunning) nofun nofun
  | @heartbeat lease hheld =>
    intro r run hrun hrunning
    obtain ⟨run₀, hrun₀, rfl⟩ := Sql.Serial.update_eq_some.mp hrun
    have hsame : run₀.status = .running := by
      split at hrunning <;> exact hrunning
    have hholds := (Step.heartbeat hheld).holds_kept now hexclusive (h r run₀ hrun₀ hsame)
      nofun nofun
    split
    · exact hholds
    · exact hholds

end WorkQueue

/-! ### Sequences of calls -/

namespace CoordinatorDb

/-- The tables after some calls, each at its time. -/
def after (calls : List (Time × StoreCall)) : CoordinatorDb :=
  calls.foldl (fun db c => (c.2.exec c.1 db).1) .empty

/-- A lease is held. -/
def holds (db : CoordinatorDb) : QueueKind → Lease → Bool
  | .maintenance, lease => db.maintenance.holds lease
  | .replication, lease => db.replication.holds lease

/-- Nothing is stored under either key of a lease. -/
def isVoid (db : CoordinatorDb) : QueueKind → Lease → Bool
  | .maintenance, lease => db.maintenance.isVoid lease
  | .replication, lease => db.replication.isVoid lease

theorem after_snoc {calls : List (Time × StoreCall)} {now : Time} {call : StoreCall} :
    after (calls ++ [(now, call)]) = (call.exec now (after calls)).1 := by
  rw [after, List.foldl_append]
  rfl

end CoordinatorDb

/-- Every call that completes or fails something holds it at that moment, or names nothing. -/
def LiveCalls (calls : List (Time × StoreCall)) : Prop :=
  ∀ pre now call post, calls = pre ++ (now, call) :: post →
    ∀ kind lease, call.used = some (kind, lease) →
      (CoordinatorDb.after pre).holds kind lease = true ∨
        (CoordinatorDb.after pre).isVoid kind lease = true

/-- **Completion and failure are fenced**, along a sequence of calls. -/
structure Fenced (calls : List (Time × StoreCall)) : Prop where
  /-- Completing or failing what is not held leaves all tables as they are. -/
  stale_unchanged : ∀ pre now call post, calls = pre ++ (now, call) :: post →
    ∀ kind lease, call.used = some (kind, lease) →
      (CoordinatorDb.after pre).holds kind lease = false →
      CoordinatorDb.after (pre ++ [(now, call)]) = CoordinatorDb.after pre
  /-- A task that is completed or failed stays as it is, and a run of a task that has ended
  is not overwritten. -/
  maintenance_kept : ∀ pre post, calls = pre ++ post → WorkQueue.ClosedKept
    (CoordinatorDb.after pre).maintenance (CoordinatorDb.after calls).maintenance
  /-- So do a job that is completed or failed and a run of a job that has ended. -/
  replication_kept : ∀ pre post, calls = pre ++ post → WorkQueue.ClosedKept
    (CoordinatorDb.after pre).replication (CoordinatorDb.after calls).replication

theorem LiveCalls.pre {calls later : List (Time × StoreCall)} (h : LiveCalls (calls ++ later)) :
    LiveCalls calls := by
  intro pre now call post hcalls
  refine h pre now call (post ++ later) ?_
  rw [hcalls, List.append_assoc, List.cons_append]

theorem LiveCalls.nil : LiveCalls [] := by
  intro pre now call post hcalls
  exact absurd hcalls (by simp)

theorem LiveCalls.snoc {calls : List (Time × StoreCall)} {now : Time} {call : StoreCall}
    (h : LiveCalls calls)
    (hused : ∀ kind lease, call.used = some (kind, lease) →
      (CoordinatorDb.after calls).holds kind lease = true ∨
        (CoordinatorDb.after calls).isVoid kind lease = true) :
    LiveCalls (calls ++ [(now, call)]) := by
  intro pre now' call' post hcalls
  rcases List.eq_nil_or_concat post with rfl | ⟨post, last, rfl⟩
  · obtain ⟨rfl, hlast⟩ := List.append_inj' hcalls rfl
    obtain ⟨rfl, rfl⟩ := Prod.mk.inj (List.cons.inj hlast).1
    exact hused
  · rw [List.concat_eq_append, ← List.cons_append, ← List.append_assoc] at hcalls
    exact h pre now' call' post (List.append_inj' hcalls rfl).1

/-- A call that names nothing leaves the tables as they are. -/
theorem StoreCall.exec_of_isVoid {db : CoordinatorDb} {now : Time} {call : StoreCall}
    {kind : QueueKind} {lease : Lease} (hused : call.used = some (kind, lease))
    (hvoid : db.isVoid kind lease = true) : (call.exec now db).1 = db := by
  have hsame : ∀ {σ δ ρ : Type} {q : WorkQueue σ δ ρ}, q.isVoid lease = true →
      (∀ setResult setRunResult, q.complete now lease setResult setRunResult = q) ∧
        ∀ reason setResult setRunResult, q.fail now lease reason setResult setRunResult = q :=
    fun hq => ⟨fun _ _ => WorkQueue.update_of_isVoid hq _ _,
      fun _ _ _ => WorkQueue.update_of_isVoid hq _ _⟩
  cases call with
  | completeArtifactMaintenanceTask lease' _ _ _ =>
    obtain ⟨rfl, rfl⟩ := Prod.mk.inj (Option.some.inj hused)
    rw [exec, Coordinator.completeArtifactMaintenanceTask, (hsame hvoid).1]
  | failArtifactMaintenanceTask lease' _ =>
    obtain ⟨rfl, rfl⟩ := Prod.mk.inj (Option.some.inj hused)
    rw [exec, Coordinator.failArtifactMaintenanceTask, (hsame hvoid).2]
  | completeReplicationJob lease' _ =>
    obtain ⟨rfl, rfl⟩ := Prod.mk.inj (Option.some.inj hused)
    rw [exec, Coordinator.completeReplicationJob, (hsame hvoid).1]
  | failReplicationJob lease' _ _ =>
    obtain ⟨rfl, rfl⟩ := Prod.mk.inj (Option.some.inj hused)
    rw [exec, Coordinator.failReplicationJob, (hsame hvoid).2]
  | _ => exact absurd hused (by simp [used])

/-- **What the lease is for holds** in every sequence of calls in which only what is held
is completed or failed. -/
theorem fenced_of_live {calls : List (Time × StoreCall)} (h : LiveCalls calls) : Fenced calls := by
  have hkept : ∀ {pre post : List (Time × StoreCall)}, LiveCalls (pre ++ post) →
      WorkQueue.ClosedKept (CoordinatorDb.after pre).maintenance
          (CoordinatorDb.after (pre ++ post)).maintenance ∧
        WorkQueue.ClosedKept (CoordinatorDb.after pre).replication
          (CoordinatorDb.after (pre ++ post)).replication := by
    intro pre post
    -- One call after the other, from the last one back.
    induction post using List.reverseRecOn with
    | nil =>
      rw [List.append_nil]
      exact fun _ => ⟨.refl _, .refl _⟩
    | append_singleton post c ih =>
      obtain ⟨now, call⟩ := c
      rw [← List.append_assoc, CoordinatorDb.after_snoc]
      intro hlive
      obtain ⟨hmaintenance, hreplication⟩ := ih hlive.pre
      have hused := hlive (pre ++ post) now call [] rfl
      obtain ⟨hstep, hstep'⟩ :=
        call.exec_step now (CoordinatorDb.after (pre ++ post))
      exact ⟨hmaintenance.trans (hstep.closedKept fun lease hlease =>
          hused .maintenance lease (StoreCall.mem_usedIn.mp hlease)),
        hreplication.trans (hstep'.closedKept fun lease hlease =>
          hused .replication lease (StoreCall.mem_usedIn.mp hlease))⟩
  constructor
  · intro pre now call post hcalls kind lease hused hstale
    rcases h pre now call post hcalls kind lease hused with hholds | hvoid
    · rw [hstale] at hholds
      exact absurd hholds (by simp)
    · rw [CoordinatorDb.after_snoc, StoreCall.exec_of_isVoid hused hvoid]
  · rintro pre post rfl
    exact (hkept h).1
  · rintro pre post rfl
    exact (hkept h).2

/-- A worker claims an audit and is not heard of, the audit is opened again, and another
worker claims it. -/
def staleClaim : List (Time × StoreCall) :=
  [(1, .createArtifactMaintenanceTask auditSpec),
    (2, .claimNextOpenArtifactMaintenanceTask none none "a" fun _ => false),
    (9, .expireStaleArtifactMaintenanceTaskRuns none 5 fun _ => false),
    (10, .claimArtifactMaintenanceTaskById (some "7") 1 "b")]

/-- The second worker completes the audit. The first one, whose run has expired, then says that an
audit has failed, under keys that nobody has been given. -/
theorem fenced_of_live_completion : Fenced (staleClaim ++
    [(11, .completeArtifactMaintenanceTask ⟨1, 2⟩ "result-b" none none),
      (12, .failArtifactMaintenanceTask ⟨4, 9⟩ "late")]) := by
  have hclaim : LiveCalls staleClaim :=
    (((LiveCalls.nil.snoc (by simp [StoreCall.used])).snoc (by simp [StoreCall.used])).snoc
      (by simp [StoreCall.used])).snoc (by simp [StoreCall.used])
  refine fenced_of_live ((hclaim.snoc fun kind lease hused => ?_).snoc fun kind lease hused => ?_)
  · obtain ⟨rfl, rfl⟩ := Prod.mk.inj (Option.some.inj hused)
    exact .inl (by decide +kernel)
  · obtain ⟨rfl, rfl⟩ := Prod.mk.inj (Option.some.inj hused)
    exact .inr (by decide +kernel)

/-! ### A stale completion -/

/-- The first worker completes the audit that the second one holds, and overwrites the run
that has failed. -/
theorem stale_completion_writes :
    ¬Fenced (staleClaim ++
      [(11, .completeArtifactMaintenanceTask ⟨1, 1⟩ "result-a" none none)]) := by
  intro h
  have hsame := h.stale_unchanged staleClaim 11
    (.completeArtifactMaintenanceTask ⟨1, 1⟩ "result-a" none none) [] rfl .maintenance ⟨1, 1⟩ rfl
    (by decide +kernel)
  have hstatus := congrArg (fun db => (db.maintenance.items 1).map (·.status)) hsame
  exact absurd hstatus (by decide +kernel)

end ScientificProtocol.Coordinator
