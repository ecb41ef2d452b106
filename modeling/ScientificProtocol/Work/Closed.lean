import ScientificProtocol.Work.Scheduling

/-!
# Closed graphs

A graph is closed if its edges lead from and to what it lists. The subjects are collected before the
edges are made, and without the keys that are blank; the edges are made for whatever key a record
has. So a graph is closed unless an edge is made for a blank key, which leads to no subject
(`ScientificProtocol.WorkGraph.closed_iff`). An artifact that is maintained is a subject in any
case.
-/

namespace ScientificProtocol.WorkGraph

open Work

/-! ### Ids of subjects -/

/-- An id is put at the end, unless it is there already. -/
def insertId (ids : List String) (id : String) : List String :=
  if id ∈ ids then ids else ids ++ [id]

theorem mem_foldl_insertId {id : String} (added ids : List String) :
    id ∈ added.foldl insertId ids ↔ id ∈ ids ∨ id ∈ added := by
  induction added generalizing ids with
  | nil => simp
  | cons first added ih =>
    rw [List.foldl_cons, ih, List.mem_cons, insertId]
    split_ifs with hmem
    · constructor
      · exact Or.imp_right Or.inr
      · rintro (h | rfl | h)
        · exact Or.inl h
        · exact Or.inl hmem
        · exact Or.inr h
    · rw [List.mem_append, List.mem_singleton, or_assoc]

theorem nodup_foldl_insertId (added : List String) {ids : List String} (h : ids.Nodup) :
    (added.foldl insertId ids).Nodup := by
  induction added generalizing ids with
  | nil => exact h
  | cons first added ih =>
    rw [List.foldl_cons]
    refine ih ?_
    rw [insertId]
    split_ifs with hmem
    · exact h
    · refine List.nodup_append.mpr ⟨h, List.nodup_singleton _, ?_⟩
      rintro a ha b hb rfl
      exact hmem (List.mem_singleton.mp hb ▸ ha)

/-- The ids of subjects. -/
def idsOf (subjects : List ClaimWorkSubjectView) : List String := subjects.map (·.subjectId)

theorem any_subjectId {subjects : List ClaimWorkSubjectView} {id : String} :
    (subjects.any fun other => decide (other.subjectId = id)) = true ↔ id ∈ idsOf subjects := by
  rw [List.any_eq_true, idsOf, List.mem_map]
  simp only [decide_eq_true_eq]

theorem idsOf_setSubject (subjects : List ClaimWorkSubjectView) (subject : ClaimWorkSubjectView) :
    idsOf (setSubject subjects subject) = insertId (idsOf subjects) subject.subjectId := by
  rw [setSubject, insertId]
  simp only [any_subjectId]
  split_ifs with hmem
  · rw [idsOf, idsOf, List.map_map]
    refine List.map_congr_left fun other _ => ?_
    simp only [Function.comp_apply]
    split_ifs with hsame
    · exact hsame.symm
    · rfl
  · rw [idsOf, List.map_append]
    rfl

theorem idsOf_addPersisted (subjects : List ClaimWorkSubjectView) (artifactKey : String) :
    idsOf (addPersisted subjects artifactKey) =
      insertId (idsOf subjects) (persistedSubjectId artifactKey) := by
  rw [addPersisted]
  simp only [any_subjectId]
  split_ifs with hmem
  · rw [insertId, if_pos hmem]
  · exact idsOf_setSubject ..

/-- What is done with subjects in a loop is done with their ids. -/
theorem idsOf_foldl {α : Type} {f : List ClaimWorkSubjectView → α → List ClaimWorkSubjectView}
    {id : α → String} (h : ∀ subjects value, idsOf (f subjects value) =
      insertId (idsOf subjects) (id value)) (values : List α)
    (subjects : List ClaimWorkSubjectView) :
    idsOf (values.foldl f subjects) = (values.map id).foldl insertId (idsOf subjects) := by
  induction values generalizing subjects with
  | nil => rfl
  | cons value values ih => rw [List.foldl_cons, ih, h, List.map_cons, List.foldl_cons]

section

variable {input : BuildClaimWorkGraphInput}

theorem idsOf_claimSubjects : idsOf input.subjects =
    (input.artifactMaintenanceTasks.map fun task => persistedSubjectId task.artifactKey).foldl
      insertId ((input.artifactKeys.map persistedSubjectId).foldl insertId
        ((input.artifactIds.map artifactSubjectId).foldl insertId
          [claimSubjectId input.claimId])) := by
  rw [BuildClaimWorkGraphInput.subjects, idsOf_foldl idsOf_addPersisted,
    idsOf_foldl idsOf_addPersisted, idsOf_foldl fun subjects artifactId => idsOf_setSubject subjects
      ⟨artifactSubjectId artifactId, .claimArtifact⟩, List.map_map]
  rfl

/-- **What a claim's graph is about.** -/
theorem mem_idsOf_claimSubjects {id : String} : id ∈ idsOf input.subjects ↔
    ((id = claimSubjectId input.claimId ∨ id ∈ input.artifactIds.map artifactSubjectId) ∨
      id ∈ input.artifactKeys.map persistedSubjectId) ∨
      id ∈ input.artifactMaintenanceTasks.map fun task => persistedSubjectId task.artifactKey := by
  rw [idsOf_claimSubjects, mem_foldl_insertId, mem_foldl_insertId, mem_foldl_insertId,
    List.mem_singleton]

theorem nodup_idsOf_claimSubjects : (idsOf input.subjects).Nodup := by
  rw [idsOf_claimSubjects]
  exact nodup_foldl_insertId _ (nodup_foldl_insertId _ (nodup_foldl_insertId _
    (List.nodup_singleton _)))

end

section

variable {input : BuildSourceWorkGraphInput}

theorem idsOf_sourceSubjects : idsOf input.subjects =
    (input.artifactKeys.map persistedSubjectId).foldl insertId
      [sourceSubjectId input.source.sourceId] := by
  rw [BuildSourceWorkGraphInput.subjects, idsOf_foldl idsOf_addPersisted]
  rfl

/-- **What a source's graph is about.** -/
theorem mem_idsOf_sourceSubjects {id : String} : id ∈ idsOf input.subjects ↔
    id = sourceSubjectId input.source.sourceId ∨
      id ∈ input.artifactKeys.map persistedSubjectId := by
  rw [idsOf_sourceSubjects, mem_foldl_insertId, List.mem_singleton]

theorem nodup_idsOf_sourceSubjects : (idsOf input.subjects).Nodup := by
  rw [idsOf_sourceSubjects]
  exact nodup_foldl_insertId _ (List.nodup_singleton _)

end

/-! ### Keys -/

theorem mem_uniqueStrings {values : List (Option String)} {value : String} :
    value ∈ uniqueStrings values ↔ some value ∈ values ∧ isPresent value = true := by
  rw [uniqueStrings, List.mem_eraseDups, List.mem_filter, List.mem_filterMap]
  simp

theorem mem_of_latestBy {α : Type} {time : α → Review.Time} {values : List α} {latest : α}
    (h : latestBy time values = some latest) : latest ∈ values :=
  (List.mergeSort_perm _ _).mem_iff.mp (List.mem_of_head? h)

theorem mem_entriesAt {α : Type} {entries : List (String × List α)} {key : String} {value : α}
    (h : value ∈ entriesAt entries key) : value ∈ entries.flatMap Prod.snd := by
  rw [entriesAt] at h
  cases hget : Js.mapGet entries key with
  | none =>
    rw [hget] at h
    exact absurd h List.not_mem_nil
  | some values =>
    rw [hget] at h
    exact List.mem_flatMap.mpr ⟨_, Js.mem_of_mapGet hget, h⟩

/-- A key that a record has. -/
theorem shownKey_eq_some {result : Option ClaimWorkResultView} {artifactKey : String}
    (h : shownKey result = some artifactKey) :
    ∃ shown, result = some shown ∧ shown.artifactKey = some artifactKey := by
  obtain ⟨hbind, -⟩ := Option.filter_eq_some_iff.mp h
  exact Option.bind_eq_some_iff.mp hbind

/-- **The artifact a review task shows** is that of a submission, or its own. -/
theorem reviewTaskResult_key {submissions : List (String × List ReviewSubmissionView)}
    {task : ReviewTaskView} {artifactKey : String}
    (h : shownKey (reviewTaskResult submissions task) = some artifactKey) :
    task.resultArtifactKey = some artifactKey ∨
      ∃ submission ∈ submissions.flatMap Prod.snd, submission.resultArtifactKey = some artifactKey ∨
        submission.evidenceArtifactKey = some artifactKey := by
  obtain ⟨result, hresult, hkey⟩ := shownKey_eq_some h
  have hsubmission : ∀ submission ∈ entriesAt submissions task.taskId,
      (toReviewSubmissionResult submission).artifactKey = some artifactKey →
      ∃ submission ∈ submissions.flatMap Prod.snd, submission.resultArtifactKey = some artifactKey ∨
        submission.evidenceArtifactKey = some artifactKey := by
    intro submission hmem hor
    refine ⟨submission, mem_entriesAt hmem, ?_⟩
    rcases Option.or_eq_some_iff.mp hor with hown | ⟨-, hevidence⟩
    · exact Or.inl hown
    · exact Or.inr hevidence
  rw [reviewTaskResult, reviewResult] at hresult
  rcases Option.or_eq_some_iff.mp hresult with hlatest | ⟨-, hrest⟩
  · obtain ⟨submission, hmem, rfl⟩ := List.mem_map.mp (mem_of_latestBy hlatest)
    exact Or.inr (hsubmission submission hmem hkey)
  · split_ifs at hrest with hcompleted
    · obtain rfl := Option.some.inj hrest
      exact Or.inl hkey
    · obtain ⟨submission, hmem, rfl⟩ := Option.map_eq_some_iff.mp hrest
      exact Or.inr (hsubmission submission (mem_of_latestBy hmem) hkey)

/-- The keys for which a review task has edges. -/
def reviewKeys (submissions : List (String × List ReviewSubmissionView)) (task : ReviewTaskView) :
    List String :=
  task.inputArtifactKeys ++ (shownKey (reviewTaskResult submissions task)).toList

theorem jobResult_key {status : RewardPolicy.JobStatus} {artifactKey : Option String}
    {completedAt : Option Review.Time} {updatedAt : Review.Time} {type : ClaimWorkResultType}
    {key : String}
    (h : shownKey (jobResult status artifactKey completedAt updatedAt type) = some key) :
    artifactKey = some key := by
  obtain ⟨result, hresult, hkey⟩ := shownKey_eq_some h
  rw [jobResult] at hresult
  split_ifs at hresult with hcompleted
  obtain rfl := Option.some.inj hresult
  exact hkey

section

variable {reviewTasks : List ReviewTaskView}
  {submissions : List (String × List ReviewSubmissionView)}
  {replicationJobs : List ReplicationJobView}
  {artifactMaintenanceTasks : List ArtifactMaintenanceTaskView} {artifactKey : String}

/-- What there is of the keys of a review task is collected. -/
theorem mem_collect_of_reviewKeys {task : ReviewTaskView} (htask : task ∈ reviewTasks)
    (hkey : artifactKey ∈ reviewKeys submissions task) (hpresent : isPresent artifactKey = true) :
    artifactKey ∈ collectClaimWorkArtifactKeys reviewTasks (submissions.flatMap Prod.snd)
      replicationJobs artifactMaintenanceTasks := by
  refine mem_uniqueStrings.mpr ⟨?_, hpresent⟩
  refine List.mem_append_left _ (List.mem_append_left _ (List.mem_append.mpr ?_))
  rcases List.mem_append.mp hkey with hinput | hshown
  · exact Or.inl (List.mem_flatMap.mpr ⟨task, htask,
      List.mem_cons_of_mem _ (List.mem_map_of_mem hinput)⟩)
  · rcases reviewTaskResult_key (Option.mem_toList.mp hshown) with hresult | ⟨submission, hmem, hor⟩
    · exact Or.inl (List.mem_flatMap.mpr ⟨task, htask, by rw [hresult]; exact List.mem_cons_self⟩)
    · refine Or.inr (List.mem_flatMap.mpr ⟨submission, hmem, ?_⟩)
      rcases hor with hresult | hevidence
      · rw [hresult]
        exact List.mem_cons_self
      · rw [hevidence]
        exact List.mem_cons_of_mem _ List.mem_cons_self

theorem mem_collect_of_job {job : ReplicationJobView} (hjob : job ∈ replicationJobs)
    (hkey : shownKey (replicationResult job) = some artifactKey)
    (hpresent : isPresent artifactKey = true) :
    artifactKey ∈ collectClaimWorkArtifactKeys reviewTasks (submissions.flatMap Prod.snd)
      replicationJobs artifactMaintenanceTasks := by
  refine mem_uniqueStrings.mpr ⟨?_, hpresent⟩
  refine List.mem_append_left _ (List.mem_append_right _ ?_)
  exact List.mem_map.mpr ⟨job, hjob, jobResult_key hkey⟩

theorem mem_collect_of_task {task : ArtifactMaintenanceTaskView}
    (htask : task ∈ artifactMaintenanceTasks)
    (hkey : shownKey (maintenanceResult task) = some artifactKey)
    (hpresent : isPresent artifactKey = true) :
    artifactKey ∈ collectClaimWorkArtifactKeys reviewTasks (submissions.flatMap Prod.snd)
      replicationJobs artifactMaintenanceTasks := by
  refine mem_uniqueStrings.mpr ⟨List.mem_append_right _ ?_, hpresent⟩
  refine List.mem_flatMap.mpr ⟨task, htask, List.mem_cons_of_mem _ ?_⟩
  rw [jobResult_key hkey]
  exact List.mem_cons_self

end

/-! ### Edges -/

/-- An edge leads from and to what is listed. -/
def Listed (ids : List String) (edge : ClaimWorkEdgeView) : Prop :=
  edge.fromId ∈ ids ∧ edge.toId ∈ ids

section

variable {ids : List String} {subjectId : String}

theorem listed_producesEdges {itemId : String} (hitem : itemId ∈ ids)
    (result : Option ClaimWorkResultView) :
    (∀ edge ∈ producesEdges itemId result, Listed ids edge) ↔
      ∀ artifactKey ∈ (shownKey result).toList, persistedSubjectId artifactKey ∈ ids := by
  rw [producesEdges, List.forall_mem_map]
  exact ⟨fun h artifactKey hkey => (h artifactKey hkey).2,
    fun h artifactKey hkey => ⟨hitem, h artifactKey hkey⟩⟩

theorem listed_reviewEdges {submissions : List (String × List ReviewSubmissionView)}
    {task : ReviewTaskView} (hsubject : subjectId ∈ ids)
    (hitem : reviewItemId task.taskId ∈ ids) :
    (∀ edge ∈ reviewEdges subjectId submissions task, Listed ids edge) ↔
      ∀ artifactKey ∈ reviewKeys submissions task, persistedSubjectId artifactKey ∈ ids := by
  rw [reviewEdges, List.forall_mem_append, List.forall_mem_cons, listed_producesEdges hitem,
    List.forall_mem_map, reviewKeys, List.forall_mem_append]
  refine and_congr_left' ⟨fun h artifactKey hkey => (h.2 artifactKey hkey).1, fun h => ?_⟩
  exact ⟨⟨hsubject, hitem⟩, fun artifactKey hkey => ⟨h artifactKey hkey, hitem⟩⟩

theorem listed_replicationEdges {claimId : String} {job : ReplicationJobView}
    (hclaim : claimSubjectId claimId ∈ ids) (hitem : replicationItemId job.jobId ∈ ids) :
    (∀ edge ∈ replicationEdges claimId job, Listed ids edge) ↔
      ∀ artifactKey ∈ (shownKey (replicationResult job)).toList,
        persistedSubjectId artifactKey ∈ ids := by
  rw [replicationEdges, List.forall_mem_cons, listed_producesEdges hitem]
  exact and_iff_right ⟨hclaim, hitem⟩

theorem listed_maintenanceEdges {task : ArtifactMaintenanceTaskView}
    (hsubject : persistedSubjectId task.artifactKey ∈ ids)
    (hitem : maintenanceItemId task.taskId ∈ ids) :
    (∀ edge ∈ maintenanceEdges task, Listed ids edge) ↔
      ∀ artifactKey ∈ (shownKey (maintenanceResult task)).toList,
        persistedSubjectId artifactKey ∈ ids := by
  rw [maintenanceEdges, List.forall_mem_cons, listed_producesEdges hitem]
  exact and_iff_right ⟨hsubject, hitem⟩

theorem listed_attachedEdges {sourceId : String} (hsource : sourceSubjectId sourceId ∈ ids)
    (artifactKey : Option String) :
    (∀ edge ∈ attachedEdges sourceId artifactKey, Listed ids edge) ↔
      ∀ key ∈ (artifactKey.filter fun key => decide (key ≠ "")).toList,
        persistedSubjectId key ∈ ids := by
  rw [attachedEdges, List.forall_mem_map]
  exact ⟨fun h key hkey => (h key hkey).2, fun h key hkey => ⟨hsource, h key hkey⟩⟩

end

/-! ### Closed graphs -/

/-- What a graph lists. -/
def WorkGraphView.nodeIds (graph : WorkGraphView) : List String :=
  graph.subjects.map (·.subjectId) ++ graph.items.map (·.itemId)

/-- **A graph is closed**: its edges lead from and to what it lists, once each, and it lists an item
for each record. -/
structure Closed (graph : WorkGraphView) (recordIds : List String) : Prop where
  endpoints : ∀ edge ∈ graph.edges,
    graph.nodeIds.count edge.fromId = 1 ∧ graph.nodeIds.count edge.toId = 1
  subjects : (graph.subjects.map (·.subjectId)).Nodup
  items : (graph.items.map (·.itemId)).Perm recordIds

section

variable {localeCompare : String → String → ℤ} {edges : List ClaimWorkEdgeView}
  {subjects : List ClaimWorkSubjectView} {items : List OrchestratedItem}

theorem map_itemId_finalizeWorkItems :
    ((finalizeWorkItems localeCompare edges subjects items).items.map (·.itemId)).Perm
      (items.map (·.itemId)) := by
  refine ((List.mergeSort_perm _ _).map _).trans ?_
  rw [scheduleItems, routeItems, List.map_map, List.map_map]
  exact List.Perm.refl _

theorem nodeIds_finalizeWorkItems :
    (finalizeWorkItems localeCompare edges subjects items).nodeIds.Perm
      (idsOf subjects ++ items.map (·.itemId)) :=
  ((List.mergeSort_perm _ _).map _).append map_itemId_finalizeWorkItems

/-- **A graph is closed** if nothing is listed twice, and all edges lead to what is listed; there is
an edge to each item. -/
theorem closed_finalizeWorkItems_iff (localeCompare : String → String → ℤ)
    {ids : List String} (hids : items.map (·.itemId) = ids) (hsubjects : (idsOf subjects).Nodup)
    (hdisjoint : ∀ id ∈ idsOf subjects, ∀ itemId ∈ ids, id ≠ itemId)
    (hitems : ∀ itemId ∈ ids, ∃ edge ∈ edges, edge.toId = itemId) :
    Closed (finalizeWorkItems localeCompare edges subjects items) ids ↔
      (∀ edge ∈ edges, Listed (idsOf subjects ++ ids) edge) ∧ ids.Nodup := by
  subst hids
  constructor
  · intro hclosed
    have hcount : ∀ edge ∈ edges,
        (idsOf subjects ++ items.map (·.itemId)).count edge.fromId = 1 ∧
          (idsOf subjects ++ items.map (·.itemId)).count edge.toId = 1 := by
      intro edge hedge
      obtain ⟨hfrom, hto⟩ := hclosed.endpoints edge hedge
      exact ⟨(nodeIds_finalizeWorkItems.count_eq _).symm.trans hfrom,
        (nodeIds_finalizeWorkItems.count_eq _).symm.trans hto⟩
    refine ⟨fun edge hedge => ?_, List.nodup_iff_count_eq_one.mpr fun itemId hitem => ?_⟩
    · obtain ⟨hfrom, hto⟩ := hcount edge hedge
      exact ⟨List.count_pos_iff.mp (by omega), List.count_pos_iff.mp (by omega)⟩
    · obtain ⟨edge, hedge, rfl⟩ := hitems itemId hitem
      have hto := (hcount edge hedge).2
      rw [List.count_append] at hto
      have hnone : (idsOf subjects).count edge.toId = 0 := by
        refine List.count_eq_zero_of_not_mem fun hmem => ?_
        exact hdisjoint _ hmem _ hitem rfl
      omega
  · rintro ⟨hlisted, hnodup⟩
    have hnodes : (idsOf subjects ++ items.map (·.itemId)).Nodup :=
      List.nodup_append.mpr ⟨hsubjects, hnodup, hdisjoint⟩
    refine ⟨fun edge hedge => ?_, ?_, map_itemId_finalizeWorkItems⟩
    · obtain ⟨hfrom, hto⟩ := hlisted edge hedge
      rw [nodeIds_finalizeWorkItems.count_eq, nodeIds_finalizeWorkItems.count_eq]
      exact ⟨List.count_eq_one_of_mem hnodes hfrom, List.count_eq_one_of_mem hnodes hto⟩
    · exact ((List.mergeSort_perm _ _).map _).nodup_iff.mpr hsubjects

end

/-! ### The graph of a claim -/

namespace BuildClaimWorkGraphInput

variable (input : BuildClaimWorkGraphInput)

/-- The keys for which a claim's graph has edges, those of the tasks that maintain an artifact
aside. -/
def namedKeys : List String :=
  input.reviewTasks.flatMap (reviewKeys input.reviewSubmissionsByTaskId) ++
    input.replicationJobs.flatMap (fun job => (shownKey (replicationResult job)).toList) ++
    input.artifactMaintenanceTasks.flatMap fun task => (shownKey (maintenanceResult task)).toList

/-- **No key is blank**, except for that of an artifact that is maintained. -/
def KeysPresent : Prop :=
  ∀ artifactKey ∈ input.namedKeys, isPresent artifactKey = true ∨
    ∃ task ∈ input.artifactMaintenanceTasks, task.artifactKey = artifactKey

end BuildClaimWorkGraphInput

section

variable {input : BuildClaimWorkGraphInput}

theorem mem_artifactKeys_of_namedKeys {artifactKey : String}
    (hkey : artifactKey ∈ input.namedKeys) (hpresent : isPresent artifactKey = true) :
    artifactKey ∈ input.artifactKeys := by
  rw [BuildClaimWorkGraphInput.namedKeys, List.mem_append, List.mem_append] at hkey
  rcases hkey with (hreview | hreplication) | hmaintenance
  · obtain ⟨task, htask, hmem⟩ := List.mem_flatMap.mp hreview
    exact mem_collect_of_reviewKeys htask hmem hpresent
  · obtain ⟨job, hjob, hmem⟩ := List.mem_flatMap.mp hreplication
    exact mem_collect_of_job hjob (Option.mem_toList.mp hmem) hpresent
  · obtain ⟨task, htask, hmem⟩ := List.mem_flatMap.mp hmaintenance
    exact mem_collect_of_task htask (Option.mem_toList.mp hmem) hpresent

theorem persistedSubjectId_inj {artifactKey artifactKey' : String} :
    persistedSubjectId artifactKey = persistedSubjectId artifactKey' ↔
      artifactKey = artifactKey' :=
  String.append_right_inj "persisted-artifact:"

theorem mem_map_persistedSubjectId {artifactKey : String} {artifactKeys : List String} :
    persistedSubjectId artifactKey ∈ artifactKeys.map persistedSubjectId ↔
      artifactKey ∈ artifactKeys :=
  List.mem_map_of_injective fun _ _ => persistedSubjectId_inj.mp

/-- What ids of subjects and of items begin with. -/
def subjectStarts : List String := ["claim:", "claim-artifact:", "persisted-artifact:", "source:"]

def itemStarts : List String := ["review-task:", "replication-job:", "artifact-maintenance:"]

/-- An id that begins in one of these ways. -/
def StartsWith (starts : List String) (id : String) : Prop :=
  ∃ start ∈ starts, ∃ tail, id = start ++ tail

/-- Ids of items are not ids of subjects. -/
theorem subjectId_ne_itemId {id itemId : String} (h : StartsWith subjectStarts id)
    (h' : StartsWith itemStarts itemId) : id ≠ itemId := by
  have hapart : ∀ start ∈ subjectStarts, ∀ start' ∈ itemStarts,
      ¬start.toList <+: start'.toList ∧ ¬start'.toList <+: start.toList := by
    decide
  obtain ⟨start, hmem, tail, rfl⟩ := h
  obtain ⟨start', hmem', tail', rfl⟩ := h'
  obtain ⟨hne, hne'⟩ := hapart start hmem start' hmem'
  exact append_ne_append hne hne' tail tail'

theorem startsWith_persisted (artifactKey : String) :
    StartsWith subjectStarts (persistedSubjectId artifactKey) :=
  ⟨"persisted-artifact:", by decide, _, rfl⟩

theorem startsWith_claimSubjects {id : String} (hid : id ∈ idsOf input.subjects) :
    StartsWith subjectStarts id := by
  rcases mem_idsOf_claimSubjects.mp hid with ((rfl | hartifact) | hpersisted) | hmaintained
  · exact ⟨"claim:", by decide, _, rfl⟩
  · obtain ⟨artifactId, -, rfl⟩ := List.mem_map.mp hartifact
    exact ⟨"claim-artifact:", by decide, _, rfl⟩
  · obtain ⟨artifactKey, -, rfl⟩ := List.mem_map.mp hpersisted
    exact startsWith_persisted _
  · obtain ⟨task, -, rfl⟩ := List.mem_map.mp hmaintained
    exact startsWith_persisted _

theorem startsWith_claimRecords {itemId : String} (hitem : itemId ∈ input.recordIds) :
    StartsWith itemStarts itemId := by
  rw [BuildClaimWorkGraphInput.recordIds, List.mem_append, List.mem_append] at hitem
  rcases hitem with (hreview | hreplication) | hmaintenance
  · obtain ⟨task, -, rfl⟩ := List.mem_map.mp hreview
    exact ⟨"review-task:", by decide, _, rfl⟩
  · obtain ⟨job, -, rfl⟩ := List.mem_map.mp hreplication
    exact ⟨"replication-job:", by decide, _, rfl⟩
  · obtain ⟨task, -, rfl⟩ := List.mem_map.mp hmaintenance
    exact ⟨"artifact-maintenance:", by decide, _, rfl⟩

/-- **The artifacts that are listed** are those that have been collected, and those that are
maintained. -/
theorem mem_persisted_claim {artifactKey : String} :
    persistedSubjectId artifactKey ∈ idsOf input.subjects ++ input.recordIds ↔
      artifactKey ∈ input.artifactKeys ∨
        ∃ task ∈ input.artifactMaintenanceTasks, task.artifactKey = artifactKey := by
  have hclaim : persistedSubjectId artifactKey ≠ claimSubjectId input.claimId :=
    append_ne_append (by decide) (by decide) _ _
  have hartifact : persistedSubjectId artifactKey ∉ input.artifactIds.map artifactSubjectId := by
    intro h
    obtain ⟨artifactId, -, hsame⟩ := List.mem_map.mp h
    exact append_ne_append (by decide) (by decide) _ _ hsame
  have hrecord : persistedSubjectId artifactKey ∉ input.recordIds := fun h =>
    subjectId_ne_itemId (startsWith_persisted artifactKey) (startsWith_claimRecords h) rfl
  rw [List.mem_append, or_iff_left hrecord, mem_idsOf_claimSubjects,
    or_iff_right (not_or.mpr ⟨hclaim, hartifact⟩), mem_map_persistedSubjectId]
  simp only [List.mem_map, persistedSubjectId_inj]

/-- **All edges lead to what is listed** if no key is blank. -/
theorem listed_claimEdges_iff :
    (∀ edge ∈ input.edges, Listed (idsOf input.subjects ++ input.recordIds) edge) ↔
      input.KeysPresent := by
  have hsubject : ∀ {id}, id ∈ idsOf input.subjects →
      id ∈ idsOf input.subjects ++ input.recordIds := List.mem_append_left _
  have hclaim := hsubject (mem_idsOf_claimSubjects.mpr (Or.inl (Or.inl (Or.inl rfl))))
  have hrecord : ∀ {id}, id ∈ input.recordIds → id ∈ idsOf input.subjects ++ input.recordIds :=
    List.mem_append_right _
  have hartifacts : ∀ edge ∈ input.artifactIds.map (fun artifactId =>
      ClaimWorkEdgeView.mk (claimSubjectId input.claimId) .attaches (artifactSubjectId artifactId)),
      Listed (idsOf input.subjects ++ input.recordIds) edge := by
    rw [List.forall_mem_map]
    exact fun artifactId hmem => ⟨hclaim, hsubject (mem_idsOf_claimSubjects.mpr
      (Or.inl (Or.inl (Or.inr (List.mem_map_of_mem hmem)))))⟩
  have hreviews : ∀ task ∈ input.reviewTasks,
      reviewItemId task.taskId ∈ idsOf input.subjects ++ input.recordIds := fun task htask =>
    hrecord (List.mem_append_left _ (List.mem_append_left _ (List.mem_map.mpr ⟨task, htask, rfl⟩)))
  have hjobs : ∀ job ∈ input.replicationJobs,
      replicationItemId job.jobId ∈ idsOf input.subjects ++ input.recordIds := fun job hjob =>
    hrecord (List.mem_append_left _ (List.mem_append_right _ (List.mem_map.mpr ⟨job, hjob, rfl⟩)))
  have htasks : ∀ task ∈ input.artifactMaintenanceTasks,
      maintenanceItemId task.taskId ∈ idsOf input.subjects ++ input.recordIds := fun task htask =>
    hrecord (List.mem_append_right _ (List.mem_map.mpr ⟨task, htask, rfl⟩))
  have hmaintained : ∀ task ∈ input.artifactMaintenanceTasks,
      persistedSubjectId task.artifactKey ∈ idsOf input.subjects ++ input.recordIds :=
    fun task htask => mem_persisted_claim.mpr (Or.inr ⟨task, htask, rfl⟩)
  have hedges : (∀ edge ∈ input.edges, Listed (idsOf input.subjects ++ input.recordIds) edge) ↔
      ∀ artifactKey ∈ input.namedKeys,
        persistedSubjectId artifactKey ∈ idsOf input.subjects ++ input.recordIds := by
    rw [BuildClaimWorkGraphInput.edges, BuildClaimWorkGraphInput.namedKeys]
    simp only [List.forall_mem_append, List.forall_mem_flatMap]
    rw [and_iff_right hartifacts]
    refine and_congr (and_congr ?_ ?_) ?_
    · exact forall₂_congr fun task htask => listed_reviewEdges hclaim (hreviews task htask)
    · exact forall₂_congr fun job hjob => listed_replicationEdges hclaim (hjobs job hjob)
    · exact forall₂_congr fun task htask =>
        listed_maintenanceEdges (hmaintained task htask) (htasks task htask)
  rw [hedges]
  refine forall₂_congr fun artifactKey hkey => ?_
  rw [mem_persisted_claim]
  refine or_congr_left ⟨fun hmem => (mem_uniqueStrings.mp hmem).2,
    mem_artifactKeys_of_namedKeys hkey⟩

/-- There is an edge to each item. -/
theorem exists_claimEdge {itemId : String} (hitem : itemId ∈ input.recordIds) :
    ∃ edge ∈ input.edges, edge.toId = itemId := by
  rw [BuildClaimWorkGraphInput.recordIds, List.mem_append, List.mem_append] at hitem
  rcases hitem with (hreview | hreplication) | hmaintenance
  · obtain ⟨task, htask, rfl⟩ := List.mem_map.mp hreview
    exact ⟨_, List.mem_append_left _ (List.mem_append_left _ (List.mem_append_right _
      (List.mem_flatMap.mpr ⟨task, htask, List.mem_cons_self⟩))), rfl⟩
  · obtain ⟨job, hjob, rfl⟩ := List.mem_map.mp hreplication
    exact ⟨_, List.mem_append_left _ (List.mem_append_right _
      (List.mem_flatMap.mpr ⟨job, hjob, List.mem_cons_self⟩)), rfl⟩
  · obtain ⟨task, htask, rfl⟩ := List.mem_map.mp hmaintenance
    exact ⟨_, List.mem_append_right _
      (List.mem_flatMap.mpr ⟨task, htask, List.mem_cons_self⟩), rfl⟩

theorem closed_claim_iff (localeCompare : String → String → ℤ) :
    Closed (buildClaimWorkGraph localeCompare input) input.recordIds ↔
      input.KeysPresent ∧ input.DistinctIds := by
  rw [← listed_claimEdges_iff, ← nodup_recordIds_claim]
  refine closed_finalizeWorkItems_iff localeCompare (map_itemId_claimItems input)
    nodup_idsOf_claimSubjects ?_ fun itemId => exists_claimEdge
  intro id hid itemId hitem
  exact subjectId_ne_itemId (startsWith_claimSubjects hid) (startsWith_claimRecords hitem)

end

/-! ### The graph of a source -/

namespace BuildSourceWorkGraphInput

variable (input : BuildSourceWorkGraphInput)

/-- The keys for which a source's graph has edges. -/
def namedKeys : List String :=
  input.sourceKeys.flatMap (fun artifactKey =>
      (artifactKey.filter fun key => decide (key ≠ "")).toList) ++
    input.reviewTasks.flatMap (reviewKeys input.reviewSubmissionsByTaskId)

/-- **No key is blank.** -/
def KeysPresent : Prop := ∀ artifactKey ∈ input.namedKeys, isPresent artifactKey = true

end BuildSourceWorkGraphInput

section

variable {input : BuildSourceWorkGraphInput}

theorem mem_artifactKeys_of_sourceKeys {artifactKey : String}
    (hkey : artifactKey ∈ input.namedKeys) (hpresent : isPresent artifactKey = true) :
    artifactKey ∈ input.artifactKeys := by
  refine mem_uniqueStrings.mpr ⟨List.mem_append.mpr ?_, hpresent⟩
  rcases List.mem_append.mp hkey with hown | hreview
  · obtain ⟨own, hown, hmem⟩ := List.mem_flatMap.mp hown
    obtain ⟨rfl, -⟩ := Option.filter_eq_some_iff.mp (Option.mem_toList.mp hmem)
    exact Or.inl hown
  · obtain ⟨task, htask, hmem⟩ := List.mem_flatMap.mp hreview
    exact Or.inr (List.mem_map_of_mem (mem_collect_of_reviewKeys htask hmem hpresent))

theorem startsWith_sourceSubjects {id : String} (hid : id ∈ idsOf input.subjects) :
    StartsWith subjectStarts id := by
  rcases mem_idsOf_sourceSubjects.mp hid with rfl | hpersisted
  · exact ⟨"source:", by decide, _, rfl⟩
  · obtain ⟨artifactKey, -, rfl⟩ := List.mem_map.mp hpersisted
    exact startsWith_persisted _

theorem startsWith_sourceRecords {itemId : String} (hitem : itemId ∈ input.recordIds) :
    StartsWith itemStarts itemId := by
  obtain ⟨task, -, rfl⟩ := List.mem_map.mp hitem
  exact ⟨"review-task:", by decide, _, rfl⟩

theorem mem_persisted_source {artifactKey : String} :
    persistedSubjectId artifactKey ∈ idsOf input.subjects ++ input.recordIds ↔
      artifactKey ∈ input.artifactKeys := by
  have hsource : persistedSubjectId artifactKey ≠ sourceSubjectId input.source.sourceId :=
    append_ne_append (by decide) (by decide) _ _
  have hrecord : persistedSubjectId artifactKey ∉ input.recordIds := fun h =>
    subjectId_ne_itemId (startsWith_persisted artifactKey) (startsWith_sourceRecords h) rfl
  rw [List.mem_append, or_iff_left hrecord, mem_idsOf_sourceSubjects, or_iff_right hsource,
    mem_map_persistedSubjectId]

theorem listed_sourceEdges_iff :
    (∀ edge ∈ input.edges, Listed (idsOf input.subjects ++ input.recordIds) edge) ↔
      input.KeysPresent := by
  have hsource : sourceSubjectId input.source.sourceId ∈ idsOf input.subjects ++ input.recordIds :=
    List.mem_append_left _ (mem_idsOf_sourceSubjects.mpr (Or.inl rfl))
  have hreviews : ∀ task ∈ input.reviewTasks,
      reviewItemId task.taskId ∈ idsOf input.subjects ++ input.recordIds := fun task htask =>
    List.mem_append_right _ (List.mem_map.mpr ⟨task, htask, rfl⟩)
  have hedges : (∀ edge ∈ input.edges, Listed (idsOf input.subjects ++ input.recordIds) edge) ↔
      ∀ artifactKey ∈ input.namedKeys,
        persistedSubjectId artifactKey ∈ idsOf input.subjects ++ input.recordIds := by
    rw [BuildSourceWorkGraphInput.edges, BuildSourceWorkGraphInput.namedKeys,
      BuildSourceWorkGraphInput.sourceKeys]
    simp only [List.forall_mem_append, List.forall_mem_flatMap, List.forall_mem_cons,
      List.not_mem_nil, false_implies, implies_true, and_true]
    refine and_congr (and_congr ?_ ?_) ?_
    · exact listed_attachedEdges hsource _
    · exact listed_attachedEdges hsource _
    · exact forall₂_congr fun task htask => listed_reviewEdges hsource (hreviews task htask)
  rw [hedges]
  refine forall₂_congr fun artifactKey hkey => ?_
  rw [mem_persisted_source]
  exact ⟨fun hmem => (mem_uniqueStrings.mp hmem).2, mem_artifactKeys_of_sourceKeys hkey⟩

theorem closed_source_iff (localeCompare : String → String → ℤ) :
    Closed (buildSourceWorkGraph localeCompare input) input.recordIds ↔
      input.KeysPresent ∧ (input.reviewTasks.map (·.taskId)).Nodup := by
  rw [← listed_sourceEdges_iff, ← nodup_recordIds_source]
  refine closed_finalizeWorkItems_iff localeCompare (map_itemId_sourceItems input)
    nodup_idsOf_sourceSubjects ?_ ?_
  · intro id hid itemId hitem
    exact subjectId_ne_itemId (startsWith_sourceSubjects hid) (startsWith_sourceRecords hitem)
  · intro itemId hitem
    obtain ⟨task, htask, rfl⟩ := List.mem_map.mp hitem
    exact ⟨_, List.mem_append_right _
      (List.mem_flatMap.mpr ⟨task, htask, List.mem_cons_self⟩), rfl⟩

end

/-! ### Both graphs -/

/-- **Work graphs are closed** if no key is blank and the records have ids of their own. -/
theorem closed_iff (localeCompare : String → String → ℤ) :
    (∀ input : BuildClaimWorkGraphInput,
      Closed (buildClaimWorkGraph localeCompare input) input.recordIds ↔
        input.KeysPresent ∧ input.DistinctIds) ∧
    ∀ input : BuildSourceWorkGraphInput,
      Closed (buildSourceWorkGraph localeCompare input) input.recordIds ↔
        input.KeysPresent ∧ (input.reviewTasks.map (·.taskId)).Nodup :=
  ⟨fun _ => closed_claim_iff localeCompare, fun _ => closed_source_iff localeCompare⟩

/-- A review of a claim that is to read an artifact without a name. -/
def blankInput : BuildClaimWorkGraphInput :=
  { waitingSynthesis with
    reviewTasks := [{ openTask "1" .contradictionScan with inputArtifactKeys := [" "] }] }

/-- **The artifact is not listed**, though an edge leads from it. -/
theorem not_closed :
    ¬∀ input : BuildClaimWorkGraphInput, ∀ localeCompare,
      Closed (buildClaimWorkGraph localeCompare input) input.recordIds := by
  intro h
  have hkeys := ((closed_claim_iff fun _ _ => 0).mp (h blankInput fun _ _ => 0)).1
  have hblank : " " ∈ blankInput.namedKeys := by decide
  rcases hkeys " " hblank with hpresent | ⟨task, htask, -⟩
  · exact absurd hpresent (by decide)
  · exact absurd htask List.not_mem_nil

end ScientificProtocol.WorkGraph
