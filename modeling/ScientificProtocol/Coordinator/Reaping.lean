import ScientificProtocol.Coordinator.Store
import Mathlib.Data.List.Perm.Subperm

/-!
# Abandoned work comes back

A worker that stops without a word leaves an item that is assigned and a run that is
running. The reaper of `src/work/reaper.ts` lets a few of the runs expire at a time, the
oldest first, while other workers claim, beat, complete and fail as they like.

What measures its progress are the leases that have not been heard of since some time `t`
(`ScientificProtocol.Coordinator.WorkQueue.overdue`). No call that is made after `t` adds
one, since a new run and a heartbeat are of the present. A pass takes as many of them away as
it may let expire, and this is where the order matters: what has not been heard of since
`t` comes before everything else that is stale. So **after enough passes whatever is
assigned has been heard of since `t`**, in every history of the callers
(`ScientificProtocol.Coordinator.heard_of_run`).
-/

namespace ScientificProtocol.Coordinator

open Concurrency

/-! ### Taking the oldest -/

/-- If what has a property comes first, it is what is taken first. -/
theorem filter_take_of_pairwise {α : Type} {p : α → Bool} {l : List α}
    (h : l.Pairwise fun a b => p b = true → p a = true) (n : ℕ) :
    (l.take n).filter p = (l.filter p).take n := by
  induction l generalizing n with
  | nil => simp
  | cons a l ih =>
    obtain ⟨hhead, htail⟩ := List.pairwise_cons.mp h
    cases n with
    | zero => rfl
    | succ n =>
      rw [List.take_succ_cons, List.filter_cons, List.filter_cons, ih htail]
      cases hp : p a with
      | true => rfl
      | false =>
        -- Nothing after it has the property either.
        have hnone : l.filter p = [] := by
          refine List.filter_eq_nil_iff.mpr fun b hb hpb => ?_
          rw [hhead b hb hpb] at hp
          exact absurd hp (by simp)
        simp [hnone]

namespace WorkQueue

variable {σ δ ρ : Type} {now t : Time} {q q' : WorkQueue σ δ ρ} {used : Option Lease}
  {expired : List ℕ}

/-- The leases that have not been heard of since `t`, by their runs. -/
def overdue (q : WorkQueue σ δ ρ) (t : Time) : List ℕ :=
  (q.runs.select fun runId run =>
    q.holds ⟨run.itemId, runId⟩ && decide (run.seenAt < t)).map Prod.fst

theorem mem_overdue {r : ℕ} : r ∈ q.overdue t ↔
    ∃ run, q.runs r = some run ∧ q.holds ⟨run.itemId, r⟩ = true ∧ run.seenAt < t := by
  simp only [overdue, List.mem_map, Prod.exists, exists_and_right, exists_eq_right,
    Sql.Serial.mem_select, Bool.and_eq_true, decide_eq_true_eq]

theorem nodup_overdue (q : WorkQueue σ δ ρ) (t : Time) : (q.overdue t).Nodup :=
  Sql.Serial.nodup_select _

/-! ### No call adds to what is overdue -/

/-- A lease that is held after an update was held before it, if the update makes no item
assigned and no run running. -/
theorem holds_of_update {i r : ℕ} {f : WorkItem σ δ → WorkItem σ δ} {g : WorkRun ρ → WorkRun ρ}
    (hf : ∀ item, (f item).status = .assigned → item.status = .assigned)
    (hg : ∀ run, (g run).itemId = run.itemId ∧ ((g run).status = .running → run.status = .running))
    {lease : Lease}
    (h : holds { items := q.items.update i f, runs := q.runs.update r g } lease = true) :
    q.holds lease = true := by
  obtain ⟨run, item, hrun, hitemId, hrunning, hitem, hassigned⟩ := holds_iff.mp h
  obtain ⟨run₀, hrun₀, rfl⟩ := Sql.Serial.update_eq_some.mp hrun
  obtain ⟨item₀, hitem₀, rfl⟩ := Sql.Serial.update_eq_some.mp hitem
  refine holds_iff.mpr ⟨run₀, item₀, hrun₀, ?_, ?_, hitem₀, ?_⟩
  · split at hitemId
    · exact (hg run₀).1.symm.trans hitemId
    · exact hitemId
  · split at hrunning
    · exact (hg run₀).2 hrunning
    · exact hrunning
  · split at hassigned
    · exact hf item₀ hassigned
    · exact hassigned

/-- What is overdue after an update that ends a run was so before, and is another run. -/
theorem overdue_of_close {i r : ℕ} {f : WorkItem σ δ → WorkItem σ δ} {g : WorkRun ρ → WorkRun ρ}
    (hf : ∀ item, (f item).status ≠ .assigned)
    (hg : ∀ run, (g run).itemId = run.itemId ∧ (g run).status ≠ .running) {r' : ℕ}
    (h : r' ∈ overdue { items := q.items.update i f, runs := q.runs.update r g } t) :
    r' ∈ q.overdue t ∧ r' ≠ r := by
  obtain ⟨run, hrun, hholds, hseen⟩ := mem_overdue.mp h
  have hheld := holds_of_update (fun item hi => absurd hi (hf item))
    (fun run => ⟨(hg run).1, fun hr => absurd hr (hg run).2⟩) hholds
  obtain ⟨run₀, hrun₀, rfl⟩ := Sql.Serial.update_eq_some.mp hrun
  have hne : r' ≠ r := by
    rintro rfl
    obtain ⟨run', -, hrun', -, hrunning, -⟩ := holds_iff.mp hholds
    obtain ⟨run₀', -, rfl⟩ := Sql.Serial.update_eq_some.mp hrun'
    rw [if_pos rfl] at hrunning
    exact (hg run₀').2 hrunning
  simp only [if_neg hne] at hheld hseen
  exact ⟨mem_overdue.mpr ⟨run₀, hrun₀, hheld, hseen⟩, hne⟩

/-- **No call adds to what is overdue**, and what expires is overdue no more. -/
theorem Step.overdue (h : Step now q used expired q') (hexclusive : q.Exclusive) (ht : t ≤ now) :
    ∀ r ∈ q'.overdue t, r ∈ q.overdue t ∧ r ∉ expired := by
  intro r hr
  cases h with
  | idle => exact ⟨hr, List.not_mem_nil⟩
  | create spec result =>
    obtain ⟨run, hrun, hholds, hseen⟩ := mem_overdue.mp hr
    obtain ⟨run', item, hrun', hitemId, hrunning, hitem, hassigned⟩ := holds_iff.mp hholds
    refine ⟨mem_overdue.mpr ⟨run, hrun, holds_iff.mpr ?_, hseen⟩, List.not_mem_nil⟩
    rcases Sql.Serial.insert_eq_some.mp hitem with ⟨-, rfl⟩ | hitem
    · exact absurd hassigned (by simp)
    · exact ⟨run', item, hrun', hitemId, hrunning, hitem, hassigned⟩
  | @assign itemId item workerId agentId result hitem hopen =>
    obtain ⟨run, hrun, hholds, hseen⟩ := mem_overdue.mp hr
    obtain ⟨run', item', hrun', hitemId, hrunning, hitem', hassigned⟩ := holds_iff.mp hholds
    rcases Sql.Serial.insert_eq_some.mp hrun with ⟨rfl, rfl⟩ | hrun
    -- The new run is of the present.
    · exact absurd hseen (Nat.not_lt.mpr ht)
    · obtain rfl := Option.some.inj (hrun'.symm.trans (Sql.Serial.insert_of_some hrun))
      have hne : run'.itemId ≠ itemId := fun heq =>
        hexclusive.open_idle hitem hopen hrun heq hrunning
      rw [WorkQueue.assign, Sql.Serial.update_of_ne _ hne] at hitem'
      exact ⟨mem_overdue.mpr ⟨run', hrun, holds_iff.mpr
        ⟨run', item', hrun, rfl, hrunning, hitem', hassigned⟩, hseen⟩, List.not_mem_nil⟩
  | complete lease setResult setRunResult =>
    have hclosed := overdue_of_close (f := fun item => item.complete now setResult)
      (g := fun run => run.complete now setRunResult) (fun _ => by simp [WorkItem.complete])
      (fun _ => ⟨rfl, by simp [WorkRun.complete]⟩) hr
    exact ⟨hclosed.1, List.not_mem_nil⟩
  | fail lease failureReason setResult setRunResult =>
    have hclosed := overdue_of_close (f := fun item => item.fail now failureReason setResult)
      (g := fun run => run.fail now failureReason setRunResult) (fun _ => by simp [WorkItem.fail])
      (fun _ => ⟨rfl, by simp [WorkRun.fail]⟩) hr
    exact ⟨hclosed.1, List.not_mem_nil⟩
  | @heartbeat lease hholds₀ =>
    obtain ⟨run, hrun, hholds, hseen⟩ := mem_overdue.mp hr
    have hheld := holds_of_update (f := fun item => item.touch now) (g := fun run => run.beat now)
      (fun _ => id) (fun _ => ⟨rfl, id⟩) hholds
    obtain ⟨run₀, hrun₀, rfl⟩ := Sql.Serial.update_eq_some.mp hrun
    by_cases hsame : r = lease.runId
    · rw [if_pos hsame] at hseen
      exact absurd hseen (Nat.not_lt.mpr ht)
    · rw [if_neg hsame] at hheld hseen
      exact ⟨mem_overdue.mpr ⟨run₀, hrun₀, hheld, hseen⟩, List.not_mem_nil⟩
  | expire locked limit staleBefore =>
    rw [expireStaleRuns] at hr
    generalize q.staleRuns locked limit staleBefore = stale at hr
    clear hexclusive
    induction stale generalizing q with
    | nil => exact ⟨hr, List.not_mem_nil⟩
    | cons s rest ih =>
      obtain ⟨hmem, hrest⟩ := ih hr
      obtain ⟨hmem, hne⟩ := overdue_of_close (f := fun item => item.reopen now)
        (g := fun run => run.expire now) (fun _ => by simp [WorkItem.reopen])
        (fun _ => ⟨rfl, by simp [WorkRun.expire]⟩) hmem
      refine ⟨hmem, ?_⟩
      rw [List.map_cons, List.mem_cons, not_or]
      exact ⟨hne, hrest⟩

theorem Step.nodup_expired (h : Step now q used expired q') : expired.Nodup := by
  cases h with
  | expire locked limit staleBefore => exact nodup_staleRuns locked limit staleBefore
  | _ => exact List.nodup_nil

/-- **What expires is gone from what is overdue.** -/
theorem Step.length_overdue (h : Step now q used expired q') (hexclusive : q.Exclusive)
    (ht : t ≤ now) : (q'.overdue t).length ≤
      (q.overdue t).length - (expired.filter fun r => decide (r ∈ q.overdue t)).length := by
  have hkept := h.overdue hexclusive ht
  have hnodup : (q'.overdue t ++ expired.filter fun r => decide (r ∈ q.overdue t)).Nodup := by
    refine (nodup_overdue q' t).append (h.nodup_expired.filter _) fun r hr hexpired => ?_
    exact (hkept r hr).2 (List.mem_of_mem_filter hexpired)
  have hsub : q'.overdue t ++ (expired.filter fun r => decide (r ∈ q.overdue t)) ⊆
      q.overdue t := by
    refine List.append_subset.mpr ⟨fun r hr => (hkept r hr).1, fun r hr => ?_⟩
    exact of_decide_eq_true (List.mem_filter.mp hr).2
  have hle := (List.subperm_of_subset hnodup hsub).length_le
  rw [List.length_append] at hle
  omega

/-! ### What a pass takes -/

/-- How many runs a pass lets expire at most. -/
def passSize (limit : Option ℕ) : ℕ := max 1 (min (limit.getD 50) 200)

/-- **A pass takes what is overdue first**: as many of those as it may take, if no other
transaction has locked one. -/
theorem length_filter_staleRuns {locked : ℕ → Bool} {staleBefore : Time} (hle : t ≤ staleBefore)
    (hfree : ∀ r ∈ q.overdue t, locked r = false) (limit : Option ℕ) :
    (((q.staleRuns locked limit staleBefore).map Prod.fst).filter fun r =>
      decide (r ∈ q.overdue t)).length = min (passSize limit) (q.overdue t).length := by
  rw [staleRuns, ← passSize]
  generalize hselect : (q.runs.select fun runId run =>
    q.holds ⟨run.itemId, runId⟩ && decide (run.seenAt < staleBefore) && !locked runId) = stale
  -- Among what is stale, the overdue runs are those that have not been heard of since `t`.
  have hstale : ∀ s ∈ stale, decide (s.1 ∈ q.overdue t) = decide (s.2.seenAt < t) := by
    rintro ⟨r, run⟩ hs
    rw [← hselect, Sql.Serial.mem_select] at hs
    obtain ⟨hrun, hs⟩ := hs
    simp only [Bool.and_eq_true] at hs
    refine decide_eq_decide.mpr ⟨fun hr => ?_, fun hseen => ?_⟩
    · obtain ⟨run', hrun', -, hseen⟩ := mem_overdue.mp hr
      obtain rfl := Option.some.inj (hrun.symm.trans hrun')
      exact hseen
    · exact mem_overdue.mpr ⟨run, hrun, hs.1.1, hseen⟩
  have hall : (stale.filter fun s => decide (s.2.seenAt < t)).map Prod.fst = q.overdue t := by
    rw [← hselect, Sql.Serial.filter_select _ fun _ (run : WorkRun ρ) => decide (run.seenAt < t),
      overdue, Sql.Serial.map_fst_select, Sql.Serial.map_fst_select]
    refine List.filter_congr fun r _ => ?_
    cases hrun : q.runs r with
    | none => rfl
    | some run =>
      rw [Option.any_some, Option.any_some, Bool.eq_iff_iff]
      simp only [Bool.and_eq_true, decide_eq_true_eq, Bool.not_eq_true']
      constructor
      · rintro ⟨⟨⟨hholds, -⟩, -⟩, hseen⟩
        exact ⟨hholds, hseen⟩
      · rintro ⟨hholds, hseen⟩
        exact ⟨⟨⟨hholds, Nat.lt_of_lt_of_le hseen hle⟩,
          hfree r (mem_overdue.mpr ⟨run, hrun, hholds, hseen⟩)⟩, hseen⟩
  set sorted := stale.mergeSort fun a b => decide (a.2.seenAt ≤ b.2.seenAt) with hsorted
  have hperm : sorted.Perm stale := List.mergeSort_perm _ _
  have hpairwise : sorted.Pairwise fun a b =>
      decide (b.2.seenAt < t) = true → decide (a.2.seenAt < t) = true := by
    have hle : sorted.Pairwise fun a b => decide (a.2.seenAt ≤ b.2.seenAt) = true := by
      refine List.pairwise_mergeSort (fun a b c hab hbc => ?_) (fun a b => ?_) stale
      · rw [decide_eq_true_eq] at hab hbc ⊢
        exact Nat.le_trans hab hbc
      · rw [Bool.or_eq_true, decide_eq_true_eq, decide_eq_true_eq]
        exact Nat.le_total _ _
    refine hle.imp fun hab hb => ?_
    rw [decide_eq_true_eq] at hab hb ⊢
    exact Nat.lt_of_le_of_lt hab hb
  calc (((sorted.take (passSize limit)).map Prod.fst).filter fun r =>
        decide (r ∈ q.overdue t)).length
      = ((sorted.take (passSize limit)).filter fun s => decide (s.2.seenAt < t)).length := by
        rw [List.filter_map, List.length_map]
        refine congrArg List.length (List.filter_congr fun s hs => ?_)
        exact hstale s (hperm.mem_iff.mp (List.mem_of_mem_take hs))
    _ = min (passSize limit) (sorted.filter fun s => decide (s.2.seenAt < t)).length := by
        rw [filter_take_of_pairwise hpairwise, List.length_take]
    _ = min (passSize limit) (q.overdue t).length := by
        rw [(hperm.filter _).length_eq, ← hall, List.length_map]

/-- **Every assigned item has been heard of** since `t`, from the worker it is assigned to. -/
def Heard (q : WorkQueue σ δ ρ) (t : Time) : Prop :=
  ∀ i item, q.items i = some item → item.status = .assigned →
    ∃ r run, q.runs r = some run ∧ run.itemId = i ∧ run.status = .running ∧
      item.assignedWorker = some run.workerId ∧ t ≤ run.seenAt

theorem Exclusive.heard (h : q.Exclusive) (hnone : q.overdue t = []) : q.Heard t := by
  intro i item hitem hassigned
  obtain ⟨r, run, hrun, rfl, hrunning, hworker, -⟩ := h.assigned_held hitem hassigned
  refine ⟨r, run, hrun, rfl, hrunning, hworker, Nat.not_lt.mp fun hseen => ?_⟩
  have hmem : r ∈ q.overdue t :=
    mem_overdue.mpr ⟨run, hrun, holds_iff.mpr ⟨run, item, hrun, rfl, hrunning, hitem, hassigned⟩,
      hseen⟩
  exact List.not_mem_nil (hnone ▸ hmem)

end WorkQueue

/-! ### The reaper -/

/-- What `reapStaleClaimWorkLeases` is asked for, of the two queues of the coordinator. -/
structure ReapInput where
  includeArtifactMaintenance : Option Bool
  includeReplication : Option Bool
  limit : Option ℕ
  staleAfterMs : ℕ
  deriving DecidableEq

/-- A queue is passed over only if this is asked for. -/
def ReapInput.includes (input : ReapInput) : QueueKind → Bool
  | .maintenance => decide (input.includeArtifactMaintenance ≠ some false)
  | .replication => decide (input.includeReplication ≠ some false)

/-- The calls of the store a pass of the reaper makes. -/
def reapStaleClaimWorkLeases (now : Time) (input : ReapInput) (locked : QueueKind → ℕ → Bool) :
    List StoreCall :=
  let effectiveLimit := max 1 (min (input.limit.getD 50) 200)
  let staleBefore : Time := now - input.staleAfterMs
  (if input.includes .maintenance then
    [.expireStaleArtifactMaintenanceTaskRuns (some effectiveLimit) staleBefore
      (locked .maintenance)]
  else []) ++
  (if input.includes .replication then
    [.expireStaleReplicationJobRuns (some effectiveLimit) staleBefore (locked .replication)]
  else [])

/-- What is overdue in one of the queues. -/
def CoordinatorDb.overdue (db : CoordinatorDb) (t : Time) : QueueKind → List ℕ
  | .maintenance => db.maintenance.overdue t
  | .replication => db.replication.overdue t

/-- Every assigned item of one of the queues has been heard of. -/
def CoordinatorDb.Heard (db : CoordinatorDb) (t : Time) : QueueKind → Prop
  | .maintenance => db.maintenance.Heard t
  | .replication => db.replication.Heard t

namespace StoreCall

variable {now t : Time} {db : CoordinatorDb}

/-- How many overdue runs a call takes, if there are as many: it lets expire what was heard
of as late as `t`, and finds none of the overdue ones locked. -/
def passSize (db : CoordinatorDb) (t : Time) : QueueKind → StoreCall → ℕ
  | .maintenance, .expireStaleArtifactMaintenanceTaskRuns limit staleBefore locked =>
    if t ≤ staleBefore ∧ ∀ r ∈ db.maintenance.overdue t, locked r = false then
      WorkQueue.passSize limit
    else 0
  | .replication, .expireStaleReplicationJobRuns limit staleBefore locked =>
    if t ≤ staleBefore ∧ ∀ r ∈ db.replication.overdue t, locked r = false then
      WorkQueue.passSize limit
    else 0
  | _, _ => 0

theorem passSize_maintenance {limit : Option ℕ} {staleBefore : Time} {locked : ℕ → Bool} :
    passSize db t .maintenance (.expireStaleReplicationJobRuns limit staleBefore locked) = 0 := rfl

theorem passSize_replication {limit : Option ℕ} {staleBefore : Time} {locked : ℕ → Bool} :
    passSize db t .replication (.expireStaleArtifactMaintenanceTaskRuns limit staleBefore locked) =
      0 := rfl

/-- A pass of the reaper asks for no more than a call of the store takes. -/
theorem passSize_reap {input : ReapInput} {locked : QueueKind → ℕ → Bool}
    (ht : t + input.staleAfterMs ≤ now) {kind : QueueKind}
    (hfree : ∀ r ∈ db.overdue t kind, locked kind r = false) :
    ((reapStaleClaimWorkLeases now input locked).map (passSize db t kind)).sum =
      if input.includes kind then WorkQueue.passSize input.limit else 0 := by
  have hle : t ≤ now - input.staleAfterMs := Nat.le_sub_of_add_le ht
  have hclamp : WorkQueue.passSize (some (max 1 (min (input.limit.getD 50) 200))) =
      WorkQueue.passSize input.limit := by
    simp only [WorkQueue.passSize, Option.getD_some]
    omega
  cases kind with
  | maintenance =>
    have hcall : passSize db t .maintenance
        (.expireStaleArtifactMaintenanceTaskRuns (some (max 1 (min (input.limit.getD 50) 200)))
          (now - input.staleAfterMs) (locked .maintenance)) = WorkQueue.passSize input.limit := by
      rw [passSize, if_pos ⟨hle, hfree⟩, hclamp]
    rw [reapStaleClaimWorkLeases, List.map_append, List.sum_append]
    cases input.includes .maintenance <;> cases input.includes .replication <;>
      simp [hcall, passSize_maintenance]
  | replication =>
    have hcall : passSize db t .replication
        (.expireStaleReplicationJobRuns (some (max 1 (min (input.limit.getD 50) 200)))
          (now - input.staleAfterMs) (locked .replication)) = WorkQueue.passSize input.limit := by
      rw [passSize, if_pos ⟨hle, hfree⟩, hclamp]
    rw [reapStaleClaimWorkLeases, List.map_append, List.sum_append]
    cases input.includes .maintenance <;> cases input.includes .replication <;>
      simp [hcall, passSize_replication]

/-- **A call takes of what is overdue** what it is said to take, and adds nothing to it. -/
theorem length_overdue_exec (hexclusive : db.maintenance.Exclusive ∧ db.replication.Exclusive)
    (ht : t ≤ now) (kind : QueueKind) (call : StoreCall) :
    ((call.exec now db).1.overdue t kind).length ≤
      (db.overdue t kind).length - call.passSize db t kind := by
  obtain ⟨hmaintenance, hreplication⟩ := call.exec_step now db
  cases kind with
  | maintenance =>
    have hle := hmaintenance.length_overdue hexclusive.1 ht
    refine hle.trans ?_
    cases call with
    | expireStaleArtifactMaintenanceTaskRuns limit staleBefore locked =>
      rw [passSize]
      split
      next h =>
        rw [expiredIn, WorkQueue.length_filter_staleRuns h.1 h.2, CoordinatorDb.overdue]
        omega
      next => exact Nat.sub_le _ _
    | _ => exact Nat.sub_le _ _
  | replication =>
    have hle := hreplication.length_overdue hexclusive.2 ht
    refine hle.trans ?_
    cases call with
    | expireStaleReplicationJobRuns limit staleBefore locked =>
      rw [passSize]
      split
      next h =>
        rw [expiredIn, WorkQueue.length_filter_staleRuns h.1 h.2, CoordinatorDb.overdue]
        omega
      next => exact Nat.sub_le _ _
    | _ => exact Nat.sub_le _ _

end StoreCall

/-! ### Enough passes -/

section

variable {ι : Type} [DecidableEq ι] {tr₁ tr₂ : CallerHistory ι}
  {c : Config ι CoordinatorDb (Option (QueueKind × Lease))} {t : Time}

/-- A call is not of a time before `t`. -/
def NotBefore (t : Time) : Label ι CallerAction Empty → Prop
  | .act _ (.call now _) => t ≤ now
  | _ => True

instance : DecidablePred (NotBefore (ι := ι) t)
  | .act _ (.call now _) => inferInstanceAs (Decidable (t ≤ now))
  | .act _ (.readRuns _ _) => .isTrue trivial
  | .env _ => .isTrue trivial

/-- How many overdue runs a step of a history takes, if there are as many. -/
def taken (kind : QueueKind) (t : Time)
    (e : Event ι CoordinatorDb (Option (QueueKind × Lease)) CallerAction Empty) : ℕ :=
  match e.label with
  | .act _ (.call _ call) => call.passSize e.before.shared t kind
  | _ => 0

/-- **What is overdue only gets less**, by what the passes take. -/
theorem length_overdue_run (h : callers.Run (tr₁ ++ tr₂) c)
    (hlater : ∀ e ∈ tr₂, NotBefore t e.label) (kind : QueueKind) :
    (c.shared.overdue t kind).length ≤
      ((origin tr₂ c).overdue t kind).length - (tr₂.map (taken kind t)).sum := by
  refine h.measure_le (μ := fun db => (db.overdue t kind).length) (d := taken kind t)
    (p := NotBefore t) (fun {tr c l c'} hrun hl hstep => ?_) hlater
  cases hstep with
  | @act i a db held hact =>
    cases a with
    | call now call =>
      obtain ⟨-, heq⟩ := Option.ite_none_right_eq_some.mp hact
      obtain ⟨rfl, rfl⟩ := Prod.mk.inj (Option.some.inj heq)
      exact call.length_overdue_exec (exclusive_and_held hrun).1 hl kind
    | readRuns kind' lease =>
      obtain ⟨-, heq⟩ := Option.ite_none_right_eq_some.mp hact
      obtain ⟨rfl, rfl⟩ := Prod.mk.inj (Option.some.inj heq)
      exact Nat.le_refl _
  | @env b db _ => exact b.elim

/-- **Abandoned work comes back.** What is overdue only gets less, by what the passes take;
after enough passes every assigned item has been heard of since `t`. -/
theorem heard_of_run (h : callers.Run (tr₁ ++ tr₂) c)
    (hlater : ∀ e ∈ tr₂, NotBefore t e.label) (kind : QueueKind) :
    (c.shared.overdue t kind).length ≤
        ((origin tr₂ c).overdue t kind).length - (tr₂.map (taken kind t)).sum ∧
      (((origin tr₂ c).overdue t kind).length ≤ (tr₂.map (taken kind t)).sum →
        c.shared.Heard t kind) := by
  have hle := length_overdue_run h hlater kind
  refine ⟨hle, fun hpasses => ?_⟩
  have hnone : c.shared.overdue t kind = [] := by
    refine List.eq_nil_of_length_eq_zero ?_
    omega
  obtain ⟨⟨hmaintenance, hreplication⟩, -⟩ := exclusive_and_held h
  cases kind with
  | maintenance => exact hmaintenance.heard hnone
  | replication => exact hreplication.heard hnone

/-- Worker 0 claims an audit, and is not heard of; a pass of the reaper opens it again, and
worker 1 claims it. -/
def silentWorker : List (ℕ × CallerAction) :=
  [(0, .call 1 (.createArtifactMaintenanceTask auditSpec)),
    (0, .call 2 (.claimNextOpenArtifactMaintenanceTask none none "a" fun _ => false))] ++
  (reapStaleClaimWorkLeases 9 ⟨none, none, none, 4⟩ fun _ _ => false).map
    (fun call => (2, CallerAction.call 9 call)) ++
  [(1, .call 10 (.claimArtifactMaintenanceTaskById (some "7") 1 "b"))]

theorem silentWorker_possible : (playCallers silentWorker).isSome := by decide

theorem heard_of_run_silentWorker :
    ((playCallers silentWorker).get silentWorker_possible).2.shared.Heard 5 .maintenance := by
  have hrun : callers.Run ((playCallers silentWorker).get silentWorker_possible).1
      ((playCallers silentWorker).get silentWorker_possible).2 :=
    Processes.run_play rfl silentWorker_possible
  rw [← List.take_append_drop 2 ((playCallers silentWorker).get silentWorker_possible).1] at hrun
  exact (heard_of_run hrun (by decide) .maintenance).2 (by decide)

end

end ScientificProtocol.Coordinator
