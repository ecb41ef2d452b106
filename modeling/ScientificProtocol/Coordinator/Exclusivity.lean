import ScientificProtocol.Coordinator.WorkQueue

/-!
# Leases are exclusive

An item of a queue has at most one run that is running; it has none if it is open, and
exactly one if it is assigned, which carries the worker and the agent the item is assigned
to (`ScientificProtocol.Coordinator.WorkQueue.Exclusive`). Every transaction of the store
keeps this as long as whoever completes or fails something names a run *of that item*,
however stale (`ScientificProtocol.Coordinator.WorkQueue.Exclusive.step`).

Completing and failing look at neither row. What saves exclusivity all the same is that
they close the item for good: an item can be claimed only when it is open, and only expiry
opens an item again, and only from its one running run.
-/

namespace ScientificProtocol.Coordinator.WorkQueue

variable {σ δ ρ : Type}

/-! ### The transactions of a queue -/

/-- **What a transaction of the store does to a queue**: which lease it uses up without
looking at it, and which runs it lets expire. -/
inductive Step (now : Time) (q : WorkQueue σ δ ρ) :
    Option Lease → List ℕ → WorkQueue σ δ ρ → Prop
  | idle : Step now q none [] q
  | create (spec : σ) (result : δ) : Step now q none [] (q.create now spec result)
  | assign {itemId : ℕ} {item : WorkItem σ δ} (workerId : String) (agentId : Option String)
      (result : ρ) : q.items itemId = some item → item.status = .«open» →
      Step now q none [] (q.assign now itemId workerId agentId result).2
  | complete (lease : Lease) (setResult : δ → δ) (setRunResult : ρ → ρ) :
      Step now q (some lease) [] (q.complete now lease setResult setRunResult)
  | fail (lease : Lease) (failureReason : String) (setResult : δ → δ) (setRunResult : ρ → ρ) :
      Step now q (some lease) [] (q.fail now lease failureReason setResult setRunResult)
  | heartbeat {lease : Lease} : q.holds lease = true → Step now q none []
      { items := q.items.update lease.itemId fun item => item.touch now
        runs := q.runs.update lease.runId fun run => run.beat now }
  | expire (locked : ℕ → Bool) (limit : Option ℕ) (staleBefore : Time) :
      Step now q none ((q.staleRuns locked limit staleBefore).map Prod.fst)
        (q.expireStaleRuns now locked limit staleBefore)

section

variable {now : Time} {q q' : WorkQueue σ δ ρ} {used : Option Lease} {expired : List ℕ}
  {workerId : String} {agentId : Option String} {result : ρ} {granted : Lease × WorkQueue σ δ ρ}

theorem step_claimNextOpen {wanted : σ → Bool} {locked : ℕ → Bool}
    (h : q.claimNextOpen now wanted locked workerId agentId result = some granted) :
    Step now q none [] granted.2 := by
  obtain ⟨itemId, item, hitem, hopen, rfl⟩ := claimNextOpen_eq_some h
  exact .assign workerId agentId result hitem hopen

theorem step_claimById {itemId : ℕ}
    (h : q.claimById now itemId workerId agentId result = some granted) :
    Step now q none [] granted.2 := by
  obtain ⟨item, hitem, hopen, rfl⟩ := claimById_eq_some h
  exact .assign workerId agentId result hitem hopen

theorem step_heartbeat {lease : Lease} {agentId workerId : Option String} :
    Step now q none [] ((q.heartbeat now lease agentId workerId).getD q) := by
  cases h : q.heartbeat now lease agentId workerId with
  | none => exact .idle
  | some q' =>
    obtain ⟨hholds, rfl⟩ := heartbeat_eq_some h
    exact .heartbeat hholds

/-- **A run stays a run of its item.** -/
theorem Step.run_kept (h : Step now q used expired q') {r : ℕ} {run : WorkRun ρ}
    (hrun : q.runs r = some run) : ∃ run', q'.runs r = some run' ∧ run'.itemId = run.itemId := by
  have hupdate : ∀ {r' : ℕ} {g : WorkRun ρ → WorkRun ρ}, (∀ run, (g run).itemId = run.itemId) →
      ∀ {t : Sql.Serial (WorkRun ρ)}, (∃ run', t r = some run' ∧ run'.itemId = run.itemId) →
      ∃ run', t.update r' g r = some run' ∧ run'.itemId = run.itemId := by
    rintro r' g hg t ⟨run', hrun', hitem⟩
    refine ⟨_, Sql.Serial.update_eq_some.mpr ⟨run', hrun', rfl⟩, ?_⟩
    split
    · rw [hg, hitem]
    · exact hitem
  cases h with
  | idle | create => exact ⟨run, hrun, rfl⟩
  | assign => exact ⟨run, Sql.Serial.insert_of_some hrun, rfl⟩
  | complete | fail | heartbeat =>
    refine hupdate (fun run => ?_) ⟨run, hrun, rfl⟩
    rfl
  | expire locked limit staleBefore =>
    suffices hfold : ∀ (stale : List (ℕ × WorkRun ρ)) (q : WorkQueue σ δ ρ),
        (∃ run', q.runs r = some run' ∧ run'.itemId = run.itemId) →
        ∃ run', (stale.foldl (expireRun now) q).runs r = some run' ∧ run'.itemId = run.itemId from
      hfold _ q ⟨run, hrun, rfl⟩
    intro stale
    induction stale with
    | nil => exact fun _ h => h
    | cons s rest ih =>
      refine fun q h => ih _ (hupdate (fun run => ?_) h)
      rfl

theorem Step.isRunOf (h : Step now q used expired q') {lease : Lease}
    (hlease : q.isRunOf lease = true) : q'.isRunOf lease = true := by
  obtain ⟨run, hrun, hitem⟩ := isRunOf_iff.mp hlease
  obtain ⟨run', hrun', hitem'⟩ := h.run_kept hrun
  exact isRunOf_iff.mpr ⟨run', hrun', hitem'.trans hitem⟩

end

/-- **What every expiry of one running run keeps** is kept when all stale runs expire. -/
theorem expireStaleRuns_induction {now : Time} {q : WorkQueue σ δ ρ} {I : WorkQueue σ δ ρ → Prop}
    (hexpire : ∀ {q : WorkQueue σ δ ρ} {stale}, I q → q.runs stale.1 = some stale.2 →
      stale.2.status = .running → I (q.expireRun now stale))
    (h : I q) {locked : ℕ → Bool} {limit : Option ℕ} {staleBefore : Time} :
    I (q.expireStaleRuns now locked limit staleBefore) := by
  have hrows : ∀ s ∈ q.staleRuns locked limit staleBefore,
      q.runs s.1 = some s.2 ∧ s.2.status = .running := by
    intro s hs
    obtain ⟨hrow, hholds⟩ := holds_of_mem_staleRuns hs
    obtain ⟨run, -, hrow', -, hrunning, -⟩ := holds_iff.mp hholds
    obtain rfl := Option.some.inj (hrow.symm.trans hrow')
    exact ⟨hrow, hrunning⟩
  have hnodup := nodup_staleRuns (q := q) locked limit staleBefore
  rw [expireStaleRuns]
  generalize q.staleRuns locked limit staleBefore = stale at hrows hnodup
  induction stale generalizing q with
  | nil => exact h
  | cons s rest ih =>
    obtain ⟨hrow, hrunning⟩ := hrows s List.mem_cons_self
    rw [List.map_cons, List.nodup_cons] at hnodup
    refine ih (hexpire h hrow hrunning) (fun s' hs' => ?_) hnodup.2
    -- The runs still to come are other runs, and have not changed.
    obtain ⟨hrow', hrunning'⟩ := hrows s' (List.mem_cons_of_mem _ hs')
    have hne : s'.1 ≠ s.1 := fun heq => hnodup.1 (heq ▸ List.mem_map_of_mem hs')
    exact ⟨by rw [expireRun, Sql.Serial.update_of_ne _ hne, hrow'], hrunning'⟩

/-! ### The invariant -/

/-- **Leases are exclusive.** -/
structure Exclusive (q : WorkQueue σ δ ρ) : Prop where
  /-- A run is a run at an item. -/
  run_item : ∀ {r run}, q.runs r = some run → ∃ item, q.items run.itemId = some item
  /-- At most one run of an item is running. -/
  running_unique : ∀ {r r' run run'}, q.runs r = some run → q.runs r' = some run' →
    run.status = .running → run'.status = .running → run.itemId = run'.itemId → r = r'
  /-- An open item has no running run. -/
  open_idle : ∀ {i item}, q.items i = some item → item.status = .«open» →
    ∀ {r run}, q.runs r = some run → run.itemId = i → run.status ≠ .running
  /-- An assigned item has a running run, with the worker and the agent assigned. -/
  assigned_held : ∀ {i item}, q.items i = some item → item.status = .assigned →
    ∃ r run, q.runs r = some run ∧ run.itemId = i ∧ run.status = .running ∧
      item.assignedWorker = some run.workerId ∧ item.assignedAgentId = run.agentId

theorem exclusive_empty : (empty : WorkQueue σ δ ρ).Exclusive where
  run_item h := absurd h (by simp [empty])
  running_unique h := absurd h (by simp [empty])
  open_idle h := absurd h (by simp [empty])
  assigned_held h := absurd h (by simp [empty])

namespace Exclusive

variable {now : Time} {q : WorkQueue σ δ ρ}

theorem create (h : q.Exclusive) (spec : σ) (result : δ) :
    (q.create now spec result).Exclusive where
  run_item {r run} hrun := by
    obtain ⟨item, hitem⟩ := h.run_item hrun
    exact ⟨item, Sql.Serial.insert_of_some hitem⟩
  running_unique := h.running_unique
  open_idle {i item} hitem hopen {r run} hrun hi := by
    rcases Sql.Serial.insert_eq_some.mp hitem with ⟨rfl, -⟩ | hitem
    -- The new item has no run yet.
    · obtain ⟨item', hitem'⟩ := h.run_item hrun
      exact absurd hi (Sql.Serial.ne_next hitem')
    · exact h.open_idle hitem hopen hrun hi
  assigned_held {i item} hitem hassigned := by
    rcases Sql.Serial.insert_eq_some.mp hitem with ⟨-, rfl⟩ | hitem
    · exact absurd hassigned (by simp)
    · exact h.assigned_held hitem hassigned

theorem assign (h : q.Exclusive) {itemId : ℕ} {item : WorkItem σ δ}
    (hitem : q.items itemId = some item) (hopen : item.status = .«open») (workerId : String)
    (agentId : Option String) (result : ρ) :
    (q.assign now itemId workerId agentId result).2.Exclusive where
  run_item {r run} hrun := by
    rcases Sql.Serial.insert_eq_some.mp hrun with ⟨-, rfl⟩ | hrun
    · exact ⟨_, by rw [WorkQueue.assign, Sql.Serial.update_self, hitem]; rfl⟩
    · obtain ⟨item', hitem'⟩ := h.run_item hrun
      exact ⟨_, Sql.Serial.update_eq_some.mpr ⟨item', hitem', rfl⟩⟩
  running_unique {r r' run run'} hrun hrun' hrunning hrunning' hsame := by
    -- The new run is the only one of its item, which was open.
    rcases Sql.Serial.insert_eq_some.mp hrun with ⟨rfl, rfl⟩ | hrun <;>
      rcases Sql.Serial.insert_eq_some.mp hrun' with ⟨rfl, rfl⟩ | hrun'
    · rfl
    · exact absurd hrunning' (h.open_idle hitem hopen hrun' hsame.symm)
    · exact absurd hrunning (h.open_idle hitem hopen hrun hsame)
    · exact h.running_unique hrun hrun' hrunning hrunning' hsame
  open_idle {i item'} hitem' hopen' {r run} hrun hi := by
    obtain ⟨item₀, hitem₀, rfl⟩ := Sql.Serial.update_eq_some.mp hitem'
    split at hopen'
    · exact absurd hopen' (by simp [WorkItem.assign])
    next hne =>
      rcases Sql.Serial.insert_eq_some.mp hrun with ⟨-, rfl⟩ | hrun
      · exact absurd hi.symm hne
      · exact h.open_idle hitem₀ hopen' hrun hi
  assigned_held {i item'} hitem' hassigned := by
    obtain ⟨item₀, hitem₀, rfl⟩ := Sql.Serial.update_eq_some.mp hitem'
    split at hassigned
    next heq =>
      rw [if_pos heq]
      exact ⟨_, _, Sql.Serial.insert_self _ _, heq.symm, rfl, rfl, rfl⟩
    next hne =>
      rw [if_neg hne]
      obtain ⟨r, run, hrun, hheld⟩ := h.assigned_held hitem₀ hassigned
      exact ⟨r, run, Sql.Serial.insert_of_some hrun, hheld⟩

/-- Closing an item with a run of it. -/
theorem close (h : q.Exclusive) {lease : Lease} {f : WorkItem σ δ → WorkItem σ δ}
    {g : WorkRun ρ → WorkRun ρ}
    (hmatch : ∀ run, q.runs lease.runId = some run → run.itemId = lease.itemId)
    (hf : ∀ item, (f item).status ≠ .«open» ∧ (f item).status ≠ .assigned)
    (hg : ∀ run, (g run).itemId = run.itemId ∧ (g run).status ≠ .running) :
    Exclusive { items := q.items.update lease.itemId f, runs := q.runs.update lease.runId g } := by
  -- A running run is one that was running, and has not been touched.
  have hrunning : ∀ {r run}, q.runs.update lease.runId g r = some run → run.status = .running →
      q.runs r = some run ∧ r ≠ lease.runId := by
    intro r run hrun hstatus
    obtain ⟨run₀, hrun₀, rfl⟩ := Sql.Serial.update_eq_some.mp hrun
    split at hstatus
    · exact absurd hstatus (hg run₀).2
    next hne =>
      rw [if_neg hne]
      exact ⟨hrun₀, hne⟩
  constructor
  · intro r run hrun
    obtain ⟨run₀, hrun₀, rfl⟩ := Sql.Serial.update_eq_some.mp hrun
    obtain ⟨item, hitem⟩ := h.run_item hrun₀
    refine ⟨_, Sql.Serial.update_eq_some.mpr ⟨item, ?_, rfl⟩⟩
    split
    · rw [(hg run₀).1, hitem]
    · exact hitem
  · intro r r' run run' hrun hrun' hstatus hstatus' hsame
    exact h.running_unique (hrunning hrun hstatus).1 (hrunning hrun' hstatus').1 hstatus hstatus'
      hsame
  · intro i item hitem hopen r run hrun hi hstatus
    obtain ⟨item₀, hitem₀, rfl⟩ := Sql.Serial.update_eq_some.mp hitem
    split at hopen
    · exact absurd hopen (hf item₀).1
    · exact h.open_idle hitem₀ hopen (hrunning hrun hstatus).1 hi hstatus
  · intro i item hitem hassigned
    obtain ⟨item₀, hitem₀, rfl⟩ := Sql.Serial.update_eq_some.mp hitem
    split at hassigned
    · exact absurd hassigned (hf item₀).2
    next hne =>
      rw [if_neg hne]
      obtain ⟨r, run, hrun, hi, hheld⟩ := h.assigned_held hitem₀ hassigned
      -- The run of another item is not the one that is closed here.
      have hr : r ≠ lease.runId := by
        rintro rfl
        exact hne (hi.symm.trans (hmatch run hrun))
      exact ⟨r, run, by rw [Sql.Serial.update_of_ne _ hr, hrun], hi, hheld⟩

theorem heartbeat (h : q.Exclusive) (lease : Lease) : Exclusive
    { items := q.items.update lease.itemId fun item => item.touch now
      runs := q.runs.update lease.runId fun run => run.beat now } := by
  have hitems : ∀ {i item}, q.items.update lease.itemId (fun item => item.touch now) i = some item →
      ∃ item₀, q.items i = some item₀ ∧ item₀.status = item.status ∧
        item₀.assignedWorker = item.assignedWorker ∧
        item₀.assignedAgentId = item.assignedAgentId := by
    intro i item hitem
    obtain ⟨item₀, hitem₀, rfl⟩ := Sql.Serial.update_eq_some.mp hitem
    refine ⟨item₀, hitem₀, ?_⟩
    split <;> exact ⟨rfl, rfl, rfl⟩
  have hruns : ∀ {r run}, q.runs.update lease.runId (fun run => run.beat now) r = some run →
      ∃ run₀, q.runs r = some run₀ ∧ run₀.status = run.status ∧ run₀.itemId = run.itemId := by
    intro r run hrun
    obtain ⟨run₀, hrun₀, rfl⟩ := Sql.Serial.update_eq_some.mp hrun
    refine ⟨run₀, hrun₀, ?_⟩
    split <;> exact ⟨rfl, rfl⟩
  constructor
  · intro r run hrun
    obtain ⟨run₀, hrun₀, -, hitem⟩ := hruns hrun
    obtain ⟨item, hrow⟩ := h.run_item hrun₀
    exact ⟨_, Sql.Serial.update_eq_some.mpr ⟨item, hitem ▸ hrow, rfl⟩⟩
  · intro r r' run run' hrun hrun' hstatus hstatus' hsame
    obtain ⟨run₀, hrun₀, hrs, hri⟩ := hruns hrun
    obtain ⟨run₀', hrun₀', hrs', hri'⟩ := hruns hrun'
    exact h.running_unique hrun₀ hrun₀' (hrs.trans hstatus) (hrs'.trans hstatus')
      (hri.trans (hsame.trans hri'.symm))
  · intro i item hitem hopen r run hrun hi hstatus
    obtain ⟨item₀, hitem₀, his, -⟩ := hitems hitem
    obtain ⟨run₀, hrun₀, hrs, hri⟩ := hruns hrun
    exact h.open_idle hitem₀ (his.trans hopen) hrun₀ (hri.trans hi) (hrs.trans hstatus)
  · intro i item hitem hassigned
    obtain ⟨item₀, hitem₀, his, hworker, hagent⟩ := hitems hitem
    obtain ⟨r, run, hrun, hi, hrunning, hw, ha⟩ := h.assigned_held hitem₀ (his.trans hassigned)
    refine ⟨r, _, Sql.Serial.update_eq_some.mpr ⟨run, hrun, rfl⟩, ?_⟩
    rw [← hworker, ← hagent]
    split <;> exact ⟨hi, hrunning, hw, ha⟩

/-- A run that holds its item may expire. -/
theorem expireRun (h : q.Exclusive) {stale : ℕ × WorkRun ρ} (hrow : q.runs stale.1 = some stale.2)
    (hstale : stale.2.status = .running) : (q.expireRun now stale).Exclusive := by
  -- A running run is one that was running, at an item that is not opened here.
  have hrunning : ∀ {r run}, (q.expireRun now stale).runs r = some run → run.status = .running →
      q.runs r = some run ∧ run.itemId ≠ stale.2.itemId := by
    intro r run hrun hstatus
    obtain ⟨run₀, hrun₀, rfl⟩ := Sql.Serial.update_eq_some.mp hrun
    split at hstatus
    · exact absurd hstatus (by simp [WorkRun.expire])
    next hne =>
      rw [if_neg hne]
      exact ⟨hrun₀, fun hsame => hne (h.running_unique hrun₀ hrow hstatus hstale hsame)⟩
  constructor
  · intro r run hrun
    obtain ⟨run₀, hrun₀, rfl⟩ := Sql.Serial.update_eq_some.mp hrun
    obtain ⟨item, hitem⟩ := h.run_item hrun₀
    refine ⟨_, Sql.Serial.update_eq_some.mpr ⟨item, ?_, rfl⟩⟩
    split <;> exact hitem
  · intro r r' run run' hrun hrun' hstatus hstatus' hsame
    exact h.running_unique (hrunning hrun hstatus).1 (hrunning hrun' hstatus').1 hstatus hstatus'
      hsame
  · intro i item hitem hopen r run hrun hi hstatus
    obtain ⟨item₀, hitem₀, rfl⟩ := Sql.Serial.update_eq_some.mp hitem
    obtain ⟨hrun₀, hne⟩ := hrunning hrun hstatus
    rw [if_neg (hi ▸ hne)] at hopen
    exact h.open_idle hitem₀ hopen hrun₀ hi hstatus
  · intro i item hitem hassigned
    obtain ⟨item₀, hitem₀, rfl⟩ := Sql.Serial.update_eq_some.mp hitem
    split at hassigned
    · exact absurd hassigned (by simp [WorkItem.reopen])
    next hne =>
      rw [if_neg hne]
      obtain ⟨r, run, hrun, hi, hheld⟩ := h.assigned_held hitem₀ hassigned
      have hr : r ≠ stale.1 := by
        rintro rfl
        obtain rfl := Option.some.inj (hrun.symm.trans hrow)
        exact hne hi.symm
      exact ⟨r, run, by rw [WorkQueue.expireRun, Sql.Serial.update_of_ne _ hr, hrun], hi, hheld⟩

/-- **Every transaction keeps leases exclusive**, if a lease that is used up names a run
of its item. -/
theorem step (h : q.Exclusive) {q' : WorkQueue σ δ ρ} {used : Option Lease} {expired : List ℕ}
    (hstep : Step now q used expired q') (hused : ∀ lease ∈ used, q.isRunOf lease = true) :
    q'.Exclusive := by
  have hmatch : ∀ lease ∈ used, ∀ run, q.runs lease.runId = some run →
      run.itemId = lease.itemId := by
    intro lease hlease run hrun
    obtain ⟨run', hrun', hitem⟩ := isRunOf_iff.mp (hused lease hlease)
    rwa [Option.some.inj (hrun.symm.trans hrun')]
  cases hstep with
  | idle => exact h
  | create spec result => exact h.create spec result
  | assign workerId agentId result hitem hopen =>
    exact h.assign hitem hopen workerId agentId result
  | complete lease setResult setRunResult =>
    exact h.close (hmatch lease rfl) (fun _ => ⟨nofun, nofun⟩) fun _ => ⟨rfl, nofun⟩
  | fail lease failureReason setResult setRunResult =>
    exact h.close (hmatch lease rfl) (fun _ => ⟨nofun, nofun⟩) fun _ => ⟨rfl, nofun⟩
  | @heartbeat lease _ => exact h.heartbeat lease
  | expire locked limit staleBefore =>
    exact expireStaleRuns_induction (fun h hrow hrunning => h.expireRun hrow hrunning) h

end Exclusive

end ScientificProtocol.Coordinator.WorkQueue
