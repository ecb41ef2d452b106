import ScientificProtocol.Work.ClaimGraph

/-!
# Scheduling is consistent

An item of a graph is orchestrated, routed and scheduled, each time by conditions of its own. They
fit together (`ScientificProtocol.WorkGraph.scheduling_consistent`): what can be claimed
automatically can be claimed at all, and by as many agents as there are slots for; and what routing
holds back for open work, scheduling holds back for the items that are open.

Both graphs make their items in the same way, so that all of it is about the items that go into
`finalizeWorkItems`: each has been orchestrated with its own status, which is open only if no run is
running, and no two have the same id.
-/

namespace ScientificProtocol.WorkGraph

open Work

/-! ### Orchestration -/

/-- An item has been orchestrated with its own status. -/
def Orchestrated (item : OrchestratedItem) : Prop :=
  ∃ input : DeriveClaimWorkOrchestrationInput,
    item.orchestration = deriveClaimWorkOrchestration input ∧ input.status = item.status ∧
      (item.status = .open → runCount input.runs .running = 0)

/-- **An item that is offered, and not to be escalated, is to be claimed.** -/
theorem recommendedAction_of_canClaim {input : DeriveClaimWorkOrchestrationInput}
    (hidle : input.status = .open → runCount input.runs .running = 0)
    (hclaim : (deriveClaimWorkOrchestration input).canClaim = true)
    (hescalate : (deriveClaimWorkOrchestration input).shouldEscalate = false) :
    (deriveClaimWorkOrchestration input).recommendedAction = .claim ∨
      (deriveClaimWorkOrchestration input).recommendedAction = .reassign := by
  rw [canClaim_eq] at hclaim
  have hopen : input.status = .open := by
    simp only [canClaimWorkItem, Bool.and_eq_true, decide_eq_true_eq] at hclaim
    exact hclaim.1.1
  have hclosed : closedRecommendationForStatus input.status = none := by
    rw [hopen]
    rfl
  have hnot : shouldEscalate input ≠ true := by
    intro h
    rw [deriveClaimWorkOrchestration, hclosed] at hescalate
    simp only [h, if_true] at hescalate
    exact absurd (h.symm.trans hescalate) (by decide)
  have hwait : ¬(0 < runCount input.runs .running ∨ input.status = .leased) := by
    rw [hidle hopen, hopen]
    decide
  rw [deriveClaimWorkOrchestration, hclosed]
  simp only [if_neg hnot, if_neg hwait, hclaim, if_true]
  by_cases hreassign : canReassignWorkItem input = true
  · right
    rw [if_pos hreassign]
    rfl
  · left
    rw [if_neg hreassign]
    rfl

theorem Orchestrated.recommendedAction {item : OrchestratedItem} (h : Orchestrated item)
    (hclaim : item.orchestration.canClaim = true)
    (hescalate : item.orchestration.shouldEscalate = false) :
    item.orchestration.recommendedAction = .claim ∨
      item.orchestration.recommendedAction = .reassign := by
  obtain ⟨input, horchestration, hstatus, hidle⟩ := h
  rw [horchestration] at hclaim hescalate ⊢
  exact recommendedAction_of_canClaim (hstatus ▸ hidle) hclaim hescalate

/-- What is not leased has no run that is running. -/
theorem runCount_of_statusOf {runs : List ClaimWorkRunView} {status : ClaimWorkStatus}
    (h : statusOf runs status = .open) : runCount runs .running = 0 := by
  refine Nat.eq_zero_of_not_pos fun hpos => ?_
  obtain ⟨run, hmem, hrun⟩ := List.countP_pos_iff.mp hpos
  have hany : (runs.any fun run => decide (run.status = .running)) = true :=
    List.any_eq_true.mpr ⟨run, hmem, hrun⟩
  rw [statusOf, if_pos hany] at h
  exact absurd h (by decide)

theorem orchestrated_reviewItem (claimId : Option String) (subjectId : String)
    (sourceKeys : List (Option String)) (runs : List (String × List ClaimWorkRunView))
    (submissions : List (String × List ReviewSubmissionView)) (task : ReviewTaskView) :
    Orchestrated (reviewItem claimId subjectId sourceKeys runs submissions task) :=
  ⟨_, rfl, rfl, runCount_of_statusOf⟩

theorem orchestrated_replicationItem (claimId : String)
    (runs : List (String × List ClaimWorkRunView)) (job : ReplicationJobView) :
    Orchestrated (replicationItem claimId runs job) :=
  ⟨_, rfl, rfl, runCount_of_statusOf⟩

theorem orchestrated_maintenanceItem (claimId : String)
    (runs : List (String × List ClaimWorkRunView)) (task : ArtifactMaintenanceTaskView) :
    Orchestrated (maintenanceItem claimId runs task) :=
  ⟨_, rfl, rfl, runCount_of_statusOf⟩

/-! ### Scheduling -/

section

variable {item : RoutedItem} {items : List RoutedItem}

/-- What an item waits for. -/
theorem mem_unresolvedUpstreamItems {other : RoutedItem} :
    other ∈ unresolvedUpstreamItems item items ↔ item.lane = .synthesis ∧ other ∈ items ∧
      other.itemId ≠ item.itemId ∧ other.claimId = item.claimId ∧ other.lane ≠ .synthesis ∧
        other.status ≠ .completed ∧ other.status ≠ .canceled := by
  rw [unresolvedUpstreamItems]
  by_cases hlane : item.lane = .synthesis
  · rw [if_neg (not_not.mpr hlane)]
    simp only [List.mem_filter, unresolvedUpstreamDependency, Bool.and_eq_true, decide_eq_true_eq]
    tauto
  · rw [if_pos hlane]
    simp [hlane]

/-- An item that waits for others. -/
theorem scheduling_of_upstream (h : unresolvedUpstreamItems item items ≠ []) :
    deriveClaimWorkScheduling item items =
      blockedScheduling item "dependency_blocked"
        ((unresolvedUpstreamItems item items).map (·.itemId))
        (upstreamReason (unresolvedUpstreamItems item items)) :=
  if_pos h

/-- **What can be claimed automatically**: it waits for nothing, and an agent is wanted. -/
theorem autoClaimable_iff : (deriveClaimWorkScheduling item items).autoClaimable = true ↔
    unresolvedUpstreamItems item items = [] ∧ item.orchestration.shouldEscalate = false ∧
      item.orchestration.canClaim = true ∧ item.routing.blockedByOpenWork = false ∧
        0 < desiredAdditionalClaims item.orchestration := by
  rw [deriveClaimWorkScheduling]
  by_cases hupstream : unresolvedUpstreamItems item items = []
  · cases hescalate : item.orchestration.shouldEscalate with
    | true => simp [hupstream, blockedScheduling]
    | false =>
      cases hclaim : item.orchestration.canClaim with
      | false => simp [hupstream, blockedScheduling]
      | true =>
        cases hblocked : item.routing.blockedByOpenWork with
        | true => simp [hupstream, blockedScheduling]
        | false =>
          by_cases hdesired : desiredAdditionalClaims item.orchestration = 0
          · simp [hupstream, hdesired, blockedScheduling]
          · simp [hupstream, hdesired, Nat.pos_of_ne_zero hdesired]
  · simp [hupstream, blockedScheduling]

/-- As many agents are wanted as there are, if the item can be claimed automatically. -/
theorem desiredAdditionalClaims_eq (item : RoutedItem) (items : List RoutedItem) :
    (deriveClaimWorkScheduling item items).desiredAdditionalClaims =
      if (deriveClaimWorkScheduling item items).autoClaimable then
        desiredAdditionalClaims item.orchestration
      else 0 := by
  rw [deriveClaimWorkScheduling]
  split_ifs <;> first | rfl | contradiction

theorem desiredAdditionalClaims_le_target (orchestration : ClaimWorkOrchestrationView) :
    desiredAdditionalClaims orchestration ≤ orchestration.targetContributorsNeeded := by
  have htarget : targetNeededAfterActiveRuns orchestration ≤
      orchestration.targetContributorsNeeded := Nat.sub_le _ _
  rw [desiredAdditionalClaims]
  cases orchestration.remainingContributorSlots with
  | none => exact htarget
  | some slots => exact (Nat.min_le_right _ _).trans htarget

theorem desiredAdditionalClaims_le_slots {orchestration : ClaimWorkOrchestrationView} {slots : ℕ}
    (h : orchestration.remainingContributorSlots = some slots) :
    desiredAdditionalClaims orchestration ≤ slots := by
  rw [desiredAdditionalClaims, h]
  exact Nat.min_le_left _ _

end

/-! ### Routing and scheduling -/

/-- An item of a graph has been orchestrated, and then routed and scheduled among the others. -/
theorem mem_scheduleItems {items : List OrchestratedItem} {item : WorkItemView} :
    item ∈ scheduleItems (routeItems items) ↔
      item.toRoutedItem ∈ routeItems items ∧
        item.scheduling = deriveClaimWorkScheduling item.toRoutedItem (routeItems items) := by
  rw [scheduleItems, List.mem_map]
  constructor
  · rintro ⟨routed, hrouted, rfl⟩
    exact ⟨hrouted, rfl⟩
  · rintro ⟨hrouted, hscheduling⟩
    exact ⟨item.toRoutedItem, hrouted, by rw [← hscheduling]⟩

theorem mem_routeItems {items : List OrchestratedItem} {item : RoutedItem} :
    item ∈ routeItems items ↔
      item.toOrchestratedItem ∈ items ∧
        item.routing = deriveClaimWorkRouting item.toOrchestratedItem items := by
  rw [routeItems, List.mem_map]
  constructor
  · rintro ⟨orchestrated, horchestrated, rfl⟩
    exact ⟨horchestrated, rfl⟩
  · rintro ⟨horchestrated, hrouting⟩
    exact ⟨item.toOrchestratedItem, horchestrated, by rw [← hrouting]⟩

theorem blockedByOpenWork_eq (item : OrchestratedItem) (items : List OrchestratedItem) :
    (deriveClaimWorkRouting item items).blockedByOpenWork =
      hasBlockingNonSynthesisWork items item := by
  rw [deriveClaimWorkRouting]
  simp only
  split_ifs <;> rfl

/-- **What routing holds back for, scheduling waits for.** -/
theorem unresolvedUpstreamItems_ne_nil {items : List OrchestratedItem} {item : RoutedItem}
    (hmem : item ∈ routeItems items) (hblocked : item.routing.blockedByOpenWork = true) :
    unresolvedUpstreamItems item (routeItems items) ≠ [] := by
  obtain ⟨-, hrouting⟩ := mem_routeItems.mp hmem
  rw [hrouting, blockedByOpenWork_eq, hasBlockingNonSynthesisWork, Bool.and_eq_true,
    decide_eq_true_eq, List.any_eq_true] at hblocked
  obtain ⟨hlane, other, hother, hblocking⟩ := hblocked
  simp only [isBlockingClaimWork, Bool.and_eq_true, decide_eq_true_eq] at hblocking
  obtain ⟨⟨hne, hclaim⟩, -, hstatus, hother_lane, -⟩ := hblocking
  have hunresolved : (⟨other, deriveClaimWorkRouting other items⟩ : RoutedItem) ∈
      unresolvedUpstreamItems item (routeItems items) := by
    refine mem_unresolvedUpstreamItems.mpr ⟨hlane, mem_routeItems.mpr ⟨hother, rfl⟩, hne, hclaim,
      hother_lane, ?_, ?_⟩
    · rcases hstatus with hopen | hleased
      · simp [hopen]
      · simp [hleased]
    · rcases hstatus with hopen | hleased
      · simp [hopen]
      · simp [hleased]
  exact List.ne_nil_of_mem hunresolved

/-! ### Consistency -/

/-- **What scheduling says of an item fits with orchestration and routing.** -/
structure ConsistentItem (items : List WorkItemView) (item : WorkItemView) : Prop where
  claimable : item.scheduling.autoClaimable = true →
    item.orchestration.canClaim = true ∧ item.orchestration.shouldEscalate = false ∧
      (item.orchestration.recommendedAction = .claim ∨
        item.orchestration.recommendedAction = .reassign) ∧
      1 ≤ item.scheduling.desiredAdditionalClaims ∧
      (∀ slots, item.orchestration.remainingContributorSlots = some slots →
        item.scheduling.desiredAdditionalClaims ≤ slots) ∧
      item.scheduling.desiredAdditionalClaims ≤ item.orchestration.targetContributorsNeeded
  blocked : item.routing.blockedByOpenWork = true →
    item.scheduling.blocker = some "dependency_blocked" ∧
      item.scheduling.blockingItemIds ≠ [] ∧
      ∀ itemId ∈ item.scheduling.blockingItemIds, ∃ other ∈ items,
        other.itemId = itemId ∧ other.lane ≠ .synthesis ∧ other.claimId = item.claimId
  synthesis : item.lane = .synthesis → ∀ other ∈ items, other.lane ≠ .synthesis →
    other.claimId = item.claimId → other.status ≠ .completed → other.status ≠ .canceled →
      item.scheduling.autoClaimable = false

/-- All items are scheduled consistently, and there is demand if one can be claimed. -/
structure Consistent (graph : WorkGraphView) : Prop where
  items : ∀ item ∈ graph.items, ConsistentItem graph.items item
  uncoveredDemand : 0 < graph.summary.uncoveredDemand ↔
    ∃ item ∈ graph.items, item.scheduling.autoClaimable = true

section

variable {localeCompare : String → String → ℤ} {edges : List ClaimWorkEdgeView}
  {subjects : List ClaimWorkSubjectView} {items : List OrchestratedItem}

theorem mem_finalizeWorkItems {item : WorkItemView} :
    item ∈ (finalizeWorkItems localeCompare edges subjects items).items ↔
      item ∈ scheduleItems (routeItems items) :=
  (List.mergeSort_perm _ _).mem_iff

/-- Each item that is routed is scheduled. -/
theorem exists_scheduled (localeCompare : String → String → ℤ) (edges : List ClaimWorkEdgeView)
    (subjects : List ClaimWorkSubjectView) {routed : RoutedItem} (h : routed ∈ routeItems items) :
    ∃ item ∈ (finalizeWorkItems localeCompare edges subjects items).items,
      item.toRoutedItem = routed :=
  ⟨⟨routed, deriveClaimWorkScheduling routed (routeItems items)⟩,
    mem_finalizeWorkItems.mpr (mem_scheduleItems.mpr ⟨h, rfl⟩), rfl⟩

/-- **Items with ids of their own are scheduled consistently.** -/
theorem consistent_finalizeWorkItems (horchestrated : ∀ item ∈ items, Orchestrated item)
    (hids : (items.map (·.itemId)).Nodup) :
    Consistent (finalizeWorkItems localeCompare edges subjects items) where
  items := by
    intro item hitem
    obtain ⟨hrouted, hscheduling⟩ := mem_scheduleItems.mp (mem_finalizeWorkItems.mp hitem)
    obtain ⟨hmem, -⟩ := mem_routeItems.mp hrouted
    refine ⟨fun hauto => ?_, fun hblocked => ?_, fun hlane other hother hlane' hclaim hcompleted
      hcanceled => ?_⟩
    · have hdesired := desiredAdditionalClaims_eq item.toRoutedItem (routeItems items)
      rw [← hscheduling, hauto, if_pos rfl] at hdesired
      rw [hscheduling] at hauto
      obtain ⟨-, hescalate, hcan, -, hpos⟩ := autoClaimable_iff.mp hauto
      refine ⟨hcan, hescalate, (horchestrated _ hmem).recommendedAction hcan hescalate, ?_, ?_, ?_⟩
      · rw [hdesired]
        exact hpos
      · intro slots hslots
        rw [hdesired]
        exact desiredAdditionalClaims_le_slots hslots
      · rw [hdesired]
        exact desiredAdditionalClaims_le_target _
    · have hne := unresolvedUpstreamItems_ne_nil hrouted hblocked
      rw [hscheduling, scheduling_of_upstream hne]
      refine ⟨rfl, by simpa [blockedScheduling] using hne, ?_⟩
      intro itemId hitemId
      obtain ⟨routed, hupstream, rfl⟩ := List.mem_map.mp hitemId
      obtain ⟨-, hroutedMem, -, hclaim, hlane, -⟩ := mem_unresolvedUpstreamItems.mp hupstream
      obtain ⟨other, hother, rfl⟩ := exists_scheduled localeCompare edges subjects hroutedMem
      exact ⟨other, hother, rfl, hlane, hclaim⟩
    · obtain ⟨hrouted', -⟩ := mem_scheduleItems.mp (mem_finalizeWorkItems.mp hother)
      obtain ⟨hmem', -⟩ := mem_routeItems.mp hrouted'
      -- The ids tell the two apart, as they are in different lanes.
      have hne : other.itemId ≠ item.itemId := by
        intro hsame
        have heq := List.inj_on_of_nodup_map hids hmem' hmem hsame
        rw [heq] at hlane'
        exact hlane' hlane
      have hupstream : other.toRoutedItem ∈
          unresolvedUpstreamItems item.toRoutedItem (routeItems items) :=
        mem_unresolvedUpstreamItems.mpr
          ⟨hlane, hrouted', hne, hclaim, hlane', hcompleted, hcanceled⟩
      rw [hscheduling, scheduling_of_upstream (List.ne_nil_of_mem hupstream)]
      rfl
  uncoveredDemand := by
    have hdesired : ∀ item ∈ (finalizeWorkItems localeCompare edges subjects items).items,
        (0 < item.scheduling.desiredAdditionalClaims ↔ item.scheduling.autoClaimable = true) := by
      intro item hitem
      obtain ⟨-, hscheduling⟩ := mem_scheduleItems.mp (mem_finalizeWorkItems.mp hitem)
      rw [hscheduling, desiredAdditionalClaims_eq]
      by_cases hauto : (deriveClaimWorkScheduling item.toRoutedItem
          (routeItems items)).autoClaimable = true
      · rw [if_pos hauto]
        simp only [hauto, iff_true]
        exact (autoClaimable_iff.mp hauto).2.2.2.2
      · rw [if_neg hauto]
        simp [hauto]
    change 0 < ((finalizeWorkItems localeCompare edges subjects items).items.map
      (·.scheduling.desiredAdditionalClaims)).sum ↔ _
    rw [List.sum_pos_iff_exists_pos_nat]
    constructor
    · rintro ⟨claims, hmem, hpos⟩
      obtain ⟨item, hitem, rfl⟩ := List.mem_map.mp hmem
      exact ⟨item, hitem, (hdesired item hitem).mp hpos⟩
    · rintro ⟨item, hitem, hauto⟩
      exact ⟨_, List.mem_map_of_mem hitem, (hdesired item hitem).mpr hauto⟩

end

/-! ### Both graphs -/

/-- The records of a claim have ids of their own. -/
structure BuildClaimWorkGraphInput.DistinctIds (input : BuildClaimWorkGraphInput) : Prop where
  reviewTasks : (input.reviewTasks.map (·.taskId)).Nodup
  replicationJobs : (input.replicationJobs.map (·.jobId)).Nodup
  artifactMaintenanceTasks : (input.artifactMaintenanceTasks.map (·.taskId)).Nodup

/-- The ids of the items, in the order of the records. -/
def BuildClaimWorkGraphInput.recordIds (input : BuildClaimWorkGraphInput) : List String :=
  input.reviewTasks.map (fun task => reviewItemId task.taskId) ++
    input.replicationJobs.map (fun job => replicationItemId job.jobId) ++
    input.artifactMaintenanceTasks.map fun task => maintenanceItemId task.taskId

def BuildSourceWorkGraphInput.recordIds (input : BuildSourceWorkGraphInput) : List String :=
  input.reviewTasks.map fun task => reviewItemId task.taskId

theorem map_itemId_claimItems (input : BuildClaimWorkGraphInput) :
    input.items.map (·.itemId) = input.recordIds := by
  simp only [BuildClaimWorkGraphInput.items, BuildClaimWorkGraphInput.recordIds, List.map_append,
    List.map_map]
  rfl

theorem map_itemId_sourceItems (input : BuildSourceWorkGraphInput) :
    input.items.map (·.itemId) = input.recordIds := by
  rw [BuildSourceWorkGraphInput.items, BuildSourceWorkGraphInput.recordIds, List.map_map]
  rfl

/-- A list of ids has no duplicates with something put in front of all. -/
theorem nodup_map_append {α : Type} (start : String) (key : α → String) (records : List α) :
    (records.map fun record => start ++ key record).Nodup ↔ (records.map key).Nodup := by
  have hinj : Function.Injective fun text : String => start ++ text :=
    fun text text' h => (String.append_right_inj start).mp h
  rw [← List.nodup_map_iff (l := records.map key) hinj, List.map_map]
  rfl

theorem nodup_recordIds_claim (input : BuildClaimWorkGraphInput) :
    input.recordIds.Nodup ↔ input.DistinctIds := by
  have hreplication : ∀ a ∈ input.reviewTasks.map (fun task => reviewItemId task.taskId),
      ∀ b ∈ input.replicationJobs.map (fun job => replicationItemId job.jobId), a ≠ b := by
    rintro _ ha _ hb
    obtain ⟨task, -, rfl⟩ := List.mem_map.mp ha
    obtain ⟨job, -, rfl⟩ := List.mem_map.mp hb
    exact append_ne_append (by decide) (by decide) _ _
  have hmaintenance : ∀ a ∈ input.reviewTasks.map (fun task => reviewItemId task.taskId) ++
        input.replicationJobs.map (fun job => replicationItemId job.jobId),
      ∀ b ∈ input.artifactMaintenanceTasks.map (fun task => maintenanceItemId task.taskId),
        a ≠ b := by
    rintro _ ha _ hb
    obtain ⟨task', -, rfl⟩ := List.mem_map.mp hb
    rcases List.mem_append.mp ha with hreview | hjob
    · obtain ⟨task, -, rfl⟩ := List.mem_map.mp hreview
      exact append_ne_append (by decide) (by decide) _ _
    · obtain ⟨job, -, rfl⟩ := List.mem_map.mp hjob
      exact append_ne_append (by decide) (by decide) _ _
  have hreviews := nodup_map_append "review-task:" ReviewTaskView.taskId input.reviewTasks
  have hjobs := nodup_map_append "replication-job:" ReplicationJobView.jobId input.replicationJobs
  have htasks := nodup_map_append "artifact-maintenance:" ArtifactMaintenanceTaskView.taskId
    input.artifactMaintenanceTasks
  rw [BuildClaimWorkGraphInput.recordIds, List.nodup_append, List.nodup_append]
  constructor
  · rintro ⟨⟨hreview, hjob, -⟩, htask, -⟩
    exact ⟨hreviews.mp hreview, hjobs.mp hjob, htasks.mp htask⟩
  · rintro ⟨hreview, hjob, htask⟩
    exact ⟨⟨hreviews.mpr hreview, hjobs.mpr hjob, hreplication⟩, htasks.mpr htask, hmaintenance⟩

theorem nodup_recordIds_source (input : BuildSourceWorkGraphInput) :
    input.recordIds.Nodup ↔ (input.reviewTasks.map (·.taskId)).Nodup :=
  nodup_map_append "review-task:" ReviewTaskView.taskId input.reviewTasks

/-- **Scheduling is consistent with routing and orchestration**, in both graphs. -/
theorem scheduling_consistent (localeCompare : String → String → ℤ) :
    (∀ input : BuildClaimWorkGraphInput, input.DistinctIds →
      Consistent (buildClaimWorkGraph localeCompare input)) ∧
    ∀ input : BuildSourceWorkGraphInput, (input.reviewTasks.map (·.taskId)).Nodup →
      Consistent (buildSourceWorkGraph localeCompare input) := by
  refine ⟨fun input hids => ?_, fun input hids => ?_⟩
  · refine consistent_finalizeWorkItems (fun item hitem => ?_) ?_
    · rw [BuildClaimWorkGraphInput.items, List.mem_append, List.mem_append] at hitem
      rcases hitem with (hreview | hreplication) | hmaintenance
      · obtain ⟨task, -, rfl⟩ := List.mem_map.mp hreview
        exact orchestrated_reviewItem ..
      · obtain ⟨job, -, rfl⟩ := List.mem_map.mp hreplication
        exact orchestrated_replicationItem ..
      · obtain ⟨task, -, rfl⟩ := List.mem_map.mp hmaintenance
        exact orchestrated_maintenanceItem ..
    · rw [map_itemId_claimItems]
      exact (nodup_recordIds_claim input).mpr hids
  · refine consistent_finalizeWorkItems (fun item hitem => ?_) ?_
    · obtain ⟨task, -, rfl⟩ := List.mem_map.mp hitem
      exact orchestrated_reviewItem ..
    · rw [map_itemId_sourceItems]
      exact (nodup_recordIds_source input).mpr hids

/-- A review task that one agent may take. -/
def openTask (taskId : String) (taskType : RewardPolicy.ReviewTaskType) : ReviewTaskView where
  completedAt := none
  consensusPolicy := ⟨1, 1, false⟩
  createdAt := 0
  inputArtifactKeys := []
  requiredCapabilities := []
  resultArtifactKey := none
  scopeKey := "claim"
  status := .open
  taskId := taskId
  taskType := taskType
  updatedAt := 0

/-- A claim with a scan for contradictions that has not begun, and a synthesis that waits for it. -/
def waitingSynthesis : BuildClaimWorkGraphInput where
  artifactMaintenanceRunsByTaskId := []
  artifactMaintenanceTasks := []
  artifactIds := []
  claimId := "7"
  replicationJobs := []
  replicationRunsByJobId := []
  reviewRunsByTaskId := []
  reviewSubmissionsByTaskId := []
  reviewTasks :=
    [openTask "1" .contradictionScan, openTask "2" .certificationSynthesisCheck]

theorem waitingSynthesis_consistent :
    Consistent (buildClaimWorkGraph (fun _ _ => 0) waitingSynthesis) :=
  (scheduling_consistent fun _ _ => 0).1 waitingSynthesis ⟨by decide, by decide, by decide⟩

end ScientificProtocol.WorkGraph
