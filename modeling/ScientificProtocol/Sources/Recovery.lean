import ScientificProtocol.Sources.OneRecord

/-!
# What a crash of ingestion leaves behind

A call of `ingestSource` writes the source in one transaction, and opens its two tasks after
it. A call that crashes in between leaves a source without all of its tasks, and nothing makes
up for that: whoever submits the source again finds it there, records a duplicate and opens
nothing (`ScientificProtocol.Sources.tasks_lost`). A crash anywhere else is made up for by the
next call (`ScientificProtocol.Sources.recovers`): a lease that is left behind expires, and a
call that then runs to its end finds the source with its tasks, or makes them.
-/

namespace ScientificProtocol.Sources

open Concurrency Evm
open Review (Time ReviewDb ReviewCall CreateReviewTask)

/-! ### Tasks stay -/

/-- There is a task, in whatever status. -/
def HasTask (db : ReviewDb) (identity : TaskIdentity) : Prop :=
  ∃ taskId task, db.tasks taskId = some task ∧ identityOf task.spec = identity

section

variable {now : Time} {db db' : ReviewDb} {identity : TaskIdentity}

theorem HasTask.step (h : HasTask db identity) (hstep : Review.Step now db db') :
    HasTask db' identity := by
  obtain ⟨taskId, task, htask, hidentity⟩ := h
  have htouched : ∀ taskId', ∃ task', db.tasks.update taskId' (Review.ReviewTask.touch now) taskId =
      some task' ∧ identityOf task'.spec = identity := fun taskId' => by
    refine ⟨_, Sql.Serial.update_eq_some.mpr ⟨task, htask, rfl⟩, ?_⟩
    split <;> exact hidentity
  cases hstep with
  | create spec => exact ⟨taskId, task, Sql.Serial.insert_of_some htask, hidentity⟩
  | claim _ _ _ | fail _ | beat _ _ _ => exact ⟨taskId, htouched _⟩
  | expire hexpires =>
    cases hexpires with
    | run _ _ _ => exact ⟨taskId, htouched _⟩
  | submit _ _ =>
    refine ⟨taskId, _, Sql.Serial.update_eq_some.mpr ⟨task, htask, rfl⟩, ?_⟩
    split
    · split <;> exact hidentity
    · exact hidentity

/-- **A task is never lost** by what the review store does. -/
theorem HasTask.exec (h : HasTask db identity) (now : Time) (call : ReviewCall) :
    HasTask (call.exec now db) identity := by
  have hkept : ∀ {db'}, Relation.ReflTransGen (Review.Step now) db db' → HasTask db' identity :=
    fun hsteps => by
      induction hsteps with
      | refl => exact h
      | tail _ hlast ih => exact ih.step hlast
  exact hkept (Review.exec_steps now db call)

/-- Opening a task leaves one, be it a new one or one that was open already. -/
theorem hasTask_createReviewTask (input : CreateReviewTask) :
    HasTask (Review.createReviewTask now db input).2 (identityOf input.spec) := by
  unfold Review.createReviewTask
  split
  next taskId task hopen =>
    obtain ⟨htask, hsame⟩ := Sql.Serial.mem_select.mp (List.mem_of_mem_head? hopen)
    obtain ⟨htype, hid, htaskType, hscope, -⟩ := of_decide_eq_true hsame
    refine ⟨taskId, task, htask, ?_⟩
    rw [identityOf, identityOf, htype, hid, htaskType, hscope]
  next => exact ⟨_, _, Sql.Serial.insert_self _ _, rfl⟩

end

/-! ### Sources and their tasks -/

/-- A source is there, and so are both of its tasks. -/
def Recovered (db : SourceDb) (key : String) : Prop :=
  ∃ sourceId source, db.sources sourceId = some source ∧ source.canonicalSourceKey = key ∧
    ∀ task, HasTask db.review (taskIdentity sourceId task)

/-- A call crashes that has written its source and has tasks of it to open. -/
def losesTasks {ι : Type} (e : IngestEvent ι) : Bool :=
  match e.label with
  | .act i .crash => decide ((e.before.process i).toOpen ≠ [])
  | _ => false

/-- **Every task of every source** is there, or some call is going to open it. -/
def Covered {ι : Type} (c : Config ι SourceDb IngestProcess) : Prop :=
  ∀ sourceId source, c.shared.sources sourceId = some source → ∀ task,
    HasTask c.shared.review (taskIdentity sourceId task) ∨
      ∃ i, (sourceId, task) ∈ (c.process i).toOpen

/-- A call that is over has no tasks to open. -/
theorem toOpen_of_isOver {p : IngestProcess} (h : p.isOver = true) : p.toOpen = [] := by
  cases p with
  | opening => exact absurd h Bool.false_ne_true
  | _ => rfl

section

variable {ι : Type} [DecidableEq ι] {tr : List (IngestEvent ι)}
  {c c' : Config ι SourceDb IngestProcess}
  {l : Label ι IngestAction (Time × ReviewCall)}

/-- A step that is not the end of a call that has tasks to open. -/
theorem Covered.step (h : Covered c) (hstep : ingestion.Step c l c')
    (hkept : losesTasks (⟨c, l, c'⟩ : IngestEvent ι) = false) : Covered c' := by
  cases hstep with
  | env henv =>
    obtain rfl := henv
    intro sourceId source hsource task
    exact (h sourceId source hsource task).imp (fun htask => htask.exec _ _) id
  | @act i a db p hact =>
    have heffect := act_effect hact
    generalize hp : c.process i = p₀ at heffect
    -- A task that another call is going to open, or this one if it has it still.
    have hothers : ∀ {sourceId task}, p₀.toOpen = [] ∨ (sourceId, task) ∈ p.toOpen →
        (∃ j, (sourceId, task) ∈ (c.process j).toOpen) →
        ∃ j, (sourceId, task) ∈ (Function.update c.process i p j).toOpen := by
      rintro sourceId task hthis ⟨j, hj⟩
      by_cases hji : j = i
      · subst hji
        rw [hp] at hj
        rcases hthis with hnil | hmem
        · rw [hnil] at hj
          exact absurd hj List.not_mem_nil
        · exact ⟨j, by rwa [Function.update_self]⟩
      · exact ⟨j, by rwa [Function.update_of_ne hji]⟩
    intro sourceId source hsource task
    cases heffect with
    | quiet _ _ hopen =>
      have hnil : p₀.toOpen = [] := by
        refine hopen.elim (fun ha => ?_) id
        subst ha
        have hnil := not_ne_iff.mp (of_decide_eq_false hkept)
        rwa [hp] at hnil
      exact (h sourceId source hsource task).imp_right (hothers (.inl hnil))
    | reserve hreserve hnil =>
      obtain ⟨attempt', -, rfl, -⟩ := reserve_eq_some hreserve
      exact (h sourceId source hsource task).imp_right (hothers (.inl hnil))
    | fail hnil => exact (h sourceId source hsource task).imp_right (hothers (.inl hnil))
    | duplicate _ hinsert hnil =>
      obtain ⟨rfl, -⟩ := insert_eq_ok hinsert
      exact (h sourceId source hsource task).imp_right (hothers (.inl hnil))
    | @create now input ingestion id submissionId _ hp₀ hnone hcreate =>
      have hcreates := creates_of_createSource hnone hcreate
      subst hp₀
      change db.sources sourceId = _ at hsource
      rw [hcreates.sources_eq] at hsource
      rcases Sql.Serial.insert_eq_some.mp hsource with ⟨rfl, rfl⟩ | hold
      · refine .inr ⟨i, ?_⟩
        simp only [Function.update_self, hcreates.sourceId_eq]
        cases task <;> simp [IngestProcess.toOpen]
      · refine (h sourceId source hold task).imp (fun htask => ?_) (hothers (.inl rfl))
        rwa [hcreates.review_eq]
    | @openTask now input id submissionId task' tasks keys hp₀ =>
      subst hp₀
      by_cases hhead : (sourceId, task) = (id, task')
      · obtain ⟨rfl, rfl⟩ := Prod.mk.inj hhead
        exact .inl (hasTask_createReviewTask ⟨sourceTaskSpec sourceId keys task⟩)
      · refine (h sourceId source hsource task).imp (fun htask => ?_) fun hopen => ?_
        · exact htask.exec now (.createReviewTask ⟨sourceTaskSpec id keys task'⟩)
        · by_cases hmem : (sourceId, task) ∈
              (IngestProcess.opening input id submissionId tasks keys).toOpen
          · exact hothers (.inr hmem) hopen
          · obtain ⟨j, hj⟩ := hopen
            have hji : j ≠ i := by
              rintro rfl
              rw [hp] at hj
              exact (List.mem_cons.mp hj).elim hhead hmem
            exact ⟨j, by simpa only [Function.update_of_ne hji] using hj⟩

theorem covered_of_run (h : ingestion.Run tr c) (hkept : ∀ e ∈ tr, losesTasks e = false) :
    Covered c := by
  induction h with
  | genesis hgen =>
    obtain rfl := hgen
    exact fun _ _ hsource => absurd hsource (by simp [SourceDb.empty])
  | snoc _ hstep ih =>
    exact (ih fun e he => hkept e (List.mem_append_left _ he)).step hstep
      (hkept _ (List.mem_append_right _ List.mem_cons_self))

/-- A call that has returned leaves a source with its tasks, once the calls are over. -/
theorem recovered_of_returned (h : ingestion.Run tr c) (hkept : ∀ e ∈ tr, losesTasks e = false)
    (hover : ∀ j, (c.process j).isOver = true) {i : ι} {input : SourceIngest}
    {sourceId submissionId : ℕ} {outcome : SourceSubmissionOutcome}
    (hreturned : c.process i = .returned input sourceId submissionId outcome) :
    Recovered c.shared input.canonicalSourceKey := by
  have hsound := (ingested_of_run h).2 i
  rw [hreturned] at hsound
  obtain ⟨source, hsource, hkey⟩ := hsound _ rfl
  refine ⟨sourceId, source, hsource, hkey, fun task => ?_⟩
  rcases covered_of_run h hkept sourceId source hsource task with htask | ⟨j, hj⟩
  · exact htask
  · rw [toOpen_of_isOver (hover j)] at hj
    exact absurd hj List.not_mem_nil

end

/-! ### A call that is not interrupted -/

/-- An action of a call that is not interrupted, at a time from `start` on, and that gets
`result` when it fetches the source. -/
def IngestAction.Goes (start : Time) (result : ArtifactIngestionResult) : IngestAction → Prop
  | .call _ => True
  | .next now => start ≤ now
  | .ingested ingestion => ingestion = result
  | .ingestionFailed _ | .timeout | .crash => False

/-- What a call can come to by itself. -/
inductive Comes (start : Time) (result : ArtifactIngestionResult) (x : SourceDb × IngestProcess) :
    SourceDb × IngestProcess → Prop
  | refl : Comes start result x x
  | tail {y z : SourceDb × IngestProcess} {a : IngestAction} : Comes start result x y →
      a.Goes start result → IngestProcess.act a y.1 y.2 = some z → Comes start result x z

section

variable {start : Time} {result : ArtifactIngestionResult} {db db' : SourceDb}
  {p p' : IngestProcess} {x y z : SourceDb × IngestProcess}

theorem Comes.next {now : Time} (h : Comes start result x (db, p)) (hstart : start ≤ now)
    (hnext : p.next now db = some y) : Comes start result x y :=
  h.tail (a := .next now) hstart hnext

/-- **What a call can come to by itself happens** in some history. -/
theorem Comes.run {ι : Type} [DecidableEq ι] {tr : List (IngestEvent ι)}
    {c : Config ι SourceDb IngestProcess} {j : ι} (h : Comes start result (c.shared, c.process j) x)
    (hrun : ingestion.Run tr c) :
    ∃ tr', ingestion.Run (tr ++ tr') ⟨x.1, Function.update c.process j x.2⟩ ∧
      ∀ e ∈ tr', ∃ a, e.label = .act j a ∧ a.Goes start result := by
  induction h with
  | refl =>
    refine ⟨[], ?_, fun e he => absurd he List.not_mem_nil⟩
    rwa [List.append_nil, Function.update_eq_self]
  | @tail y z a _ hgoes hact ih =>
    obtain ⟨tr', hrun', hlabels⟩ := ih
    refine ⟨tr' ++ [⟨⟨y.1, Function.update c.process j y.2⟩, .act j a,
      ⟨z.1, Function.update c.process j z.2⟩⟩], ?_, fun e he => ?_⟩
    · have hstep := Processes.Step.act (M := ingestion) (i := j) (a := a)
        (c := ⟨y.1, Function.update c.process j y.2⟩) (s := z.1) (p := z.2)
        (by simp only [Function.update_self]; exact hact)
      rw [Function.update_idem] at hstep
      rw [← List.append_assoc]
      exact hrun'.snoc hstep
    · rcases List.mem_append.mp he with he | he
      · exact hlabels e he
      · rw [List.mem_singleton.mp he]
        exact ⟨a, rfl, hgoes⟩

/-! ### A lease that is left behind -/

/-- **A key is never stuck**: it has its source, or its lease can be had from some time on. -/
def Waitable (db : SourceDb) : Prop :=
  ∀ key attempt, db.ingestionAttempts key = some attempt →
    (∃ sourceId source, db.sources sourceId = some source ∧ source.canonicalSourceKey = key) ∨
      ∃ expiry, ∀ now, expiry ≤ now → attempt.reservable now = true

/-- The attempts of other tables with the same sources. -/
theorem Waitable.of_attempts {attempts : Sql.Table String SourceIngestionAttempt}
    {review : ReviewDb} (h : Waitable db)
    (hnew : ∀ {key attempt}, attempts key = some attempt →
      db.ingestionAttempts key = some attempt ∨
        ∃ expiry, ∀ now, expiry ≤ now → attempt.reservable now = true) :
    Waitable { db with ingestionAttempts := attempts, review } := by
  intro key attempt hattempt
  exact (hnew hattempt).elim (h key attempt) .inr

theorem reservable_of_lease {attempt : SourceIngestionAttempt} {expiresAt : Time}
    (h : attempt.leaseExpiresAt = some expiresAt) :
    ∃ expiry, ∀ now, expiry ≤ now → attempt.reservable now = true :=
  ⟨expiresAt, fun now hle => by simp [SourceIngestionAttempt.reservable, h, hle]⟩

theorem Waitable.effect {a : IngestAction} (h : Waitable db)
    (heffect : IngestEffect db p a db' p') : Waitable db' := by
  cases heffect with
  | quiet => exact h
  | reserve hreserve _ =>
    unfold reserveSourceIngestionAttempt at hreserve
    have hset : ∀ {key' : String} {new : SourceIngestionAttempt} {expiresAt : Time},
        new.leaseExpiresAt = some expiresAt → ∀ {key attempt},
          db.ingestionAttempts.set key' new key = some attempt →
            db.ingestionAttempts key = some attempt ∨
              ∃ expiry, ∀ now, expiry ≤ now → attempt.reservable now = true := by
      intro key' new expiresAt hlease key attempt hattempt
      rw [Sql.Table.set_apply] at hattempt
      split at hattempt
      · obtain rfl := Option.some.inj hattempt
        exact .inr (reservable_of_lease hlease)
      · exact .inl hattempt
    split at hreserve
    · obtain rfl := Option.some.inj hreserve
      exact h.of_attempts (hset rfl)
    · split at hreserve
      · obtain rfl := Option.some.inj hreserve
        exact h.of_attempts (hset rfl)
      · exact absurd hreserve nofun
  | @fail now input error _ =>
    refine h.of_attempts fun {key attempt} hattempt => ?_
    rw [Sql.Table.update_apply] at hattempt
    split at hattempt
    · obtain ⟨attempt₀, hattempt₀, rfl⟩ := Option.map_eq_some_iff.mp hattempt
      split
      · exact .inr ⟨0, fun now _ => by
          simp [SourceIngestionAttempt.reservable, SourceIngestionAttempt.fail]⟩
      · exact .inl hattempt₀
    · exact .inl hattempt
  | duplicate _ hinsert _ =>
    obtain ⟨rfl, -⟩ := insert_eq_ok hinsert
    exact h
  | @create now input ingestion sourceId submissionId db' _ hnone hcreate =>
    have hcreates := creates_of_createSource hnone hcreate
    intro key attempt hattempt
    rw [hcreates.attempts_eq, Sql.Table.update_apply] at hattempt
    split at hattempt
    next hkey =>
      refine .inl ⟨sourceId, input.record now ingestion, ?_, hkey.symm⟩
      rw [hcreates.sources_eq, hcreates.sourceId_eq, Sql.Serial.insert_self]
    next =>
      refine (h key attempt hattempt).imp_left ?_
      rintro ⟨id, source, hsource, hkey⟩
      obtain ⟨source', hsource', hkey'⟩ := hcreates.recorded.source hsource
      exact ⟨id, source', hsource', hkey'.trans hkey⟩
  | openTask _ => exact h.of_attempts .inl

theorem waitable_of_run {ι : Type} [DecidableEq ι] {tr : List (IngestEvent ι)}
    {c : Config ι SourceDb IngestProcess} (h : ingestion.Run tr c) : Waitable c.shared := by
  induction h with
  | genesis hgen =>
    obtain rfl := hgen
    exact fun _ _ hattempt => absurd hattempt (by simp [SourceDb.empty])
  | snoc _ hstep ih =>
    cases hstep with
    | act hact => exact ih.effect (act_effect hact)
    | env henv =>
      obtain rfl := henv
      exact ih.of_attempts .inl

/-! ### A call that runs to its end -/

/-- The request of a call, if it names one, is not that of another source. -/
structure SourceIngest.Fresh (input : SourceIngest) (db : SourceDb) : Prop where
  named : input.requestHash ≠ some ""
  unshared : ∀ {requestHash k submission}, input.requestHash = some requestHash →
    db.submissions k = some submission →
    submission.requestHash = some (Js.toLowerCase requestHash) →
    submission.canonicalSourceKey = input.canonicalSourceKey

variable {input : SourceIngest}

/-- A request that is not found can be inserted. -/
theorem insert_of_unhashed (db : SourceDb) (record : SourceSubmissionRecord)
    (h : ∀ {k submission}, db.submissions k = some submission → record.requestHash.isSome = true →
      submission.requestHash ≠ record.requestHash) :
    ∃ submissionId db', insertSourceSubmissionRecord db record = .ok (submissionId, db') := by
  unfold insertSourceSubmissionRecord
  split
  next hfound =>
    obtain ⟨hsome, hfound⟩ := Bool.and_eq_true_iff.mp hfound
    obtain ⟨⟨k, submission⟩, hfind⟩ := Option.isSome_iff_exists.mp hfound
    obtain ⟨hrow, hsame⟩ := Sql.Serial.findBy_eq_some hfind
    exact absurd hsame (h hrow hsome)
  next => exact ⟨_, _, rfl⟩

/-- The owner of an attempt creates the source, if there is none and its request is not that of
another. -/
theorem createSource_of_owned (now : Time) (db : SourceDb) (input : SourceIngest)
    (ingestion : ArtifactIngestionResult)
    (hnone : readSourceByCanonicalKey db input.canonicalSourceKey = none)
    (hunhashed : ∀ {k submission}, db.submissions k = some submission →
      (input.submission now db.sources.next .created).requestHash.isSome = true →
      submission.requestHash ≠ (input.submission now db.sources.next .created).requestHash)
    (howned : (db.ingestionAttempts input.canonicalSourceKey).any
      (fun attempt => attempt.ownedBy input.leaseOwner) = true) :
    ∃ sourceId submissionId db',
      createSource now db input ingestion = .ok (sourceId, submissionId, db') := by
  obtain ⟨submissionId, db₂, hinsert⟩ := insert_of_unhashed
    { withArtifacts db ingestion with
      sources := db.sources.insert (input.record now ingestion) } _ hunhashed
  obtain ⟨heq, -⟩ := insert_eq_ok hinsert
  have howned' : (db₂.ingestionAttempts input.canonicalSourceKey).any
      (fun attempt => attempt.ownedBy input.leaseOwner) = true := by
    rw [heq]
    exact howned
  simp only [createSource, upsertSourceRecord_of_none hnone, hinsert,
    completeSourceIngestionAttempt, howned', if_true]
  exact ⟨_, _, _, rfl⟩

/-- **A source that is there is shown** to a call that submits it again. -/
theorem comes_of_source (h : Ingested db) (hfresh : input.Fresh db) {sourceId : ℕ}
    {source : SourceRecord}
    (hread : readSourceByCanonicalKey db input.canonicalSourceKey = some (sourceId, source))
    (hcome : Comes start result x (db, .looking input 0)) :
    ∃ db' submissionId,
      Comes start result x (db', .returned input sourceId submissionId .duplicate) := by
  obtain ⟨hsource, hkey⟩ := readSourceByCanonicalKey_eq_some hread
  have hreplaying : Comes start result x (db, .replaying input sourceId source) :=
    hcome.next (Nat.le_refl start) (by simp [IngestProcess.next, hread])
  have hmatching : Comes start result x (db, .matching input sourceId) :=
    hreplaying.next (Nat.le_refl start) (by simp [IngestProcess.next, h.replayable hsource])
  -- A request that has been recorded was for this source, and another one can be recorded.
  cases hrecorded : recordedSubmission db input sourceId with
  | error e =>
    exfalso
    unfold recordedSubmission at hrecorded
    split at hrecorded
    next => cases hrecorded
    next requestHash hhash =>
      split at hrecorded
      next => cases hrecorded
      next =>
        split at hrecorded
        next => cases hrecorded
        next submissionId submission hfind =>
          obtain ⟨hrow, hsame⟩ := Sql.Serial.findBy_eq_some hfind
          have hkey' := hfresh.unshared hhash hrow hsame
          obtain ⟨source', hsource', hlisted⟩ := h.listed hrow
          have hid := h.unique.eq_of_key hsource' hsource
            (hlisted.trans (hkey'.trans hkey.symm))
          rw [if_neg (by simp [hkey', hid])] at hrecorded
          cases hrecorded
  | ok recorded =>
    cases recorded with
    | some submissionId =>
      exact ⟨db, submissionId, hmatching.next (Nat.le_refl start)
        (by simp [IngestProcess.next, hrecorded])⟩
    | none =>
      have hinserting : Comes start result x (db, .inserting input sourceId) :=
        hmatching.next (Nat.le_refl start) (by simp [IngestProcess.next, hrecorded])
      obtain ⟨submissionId, db', hinsert⟩ := insert_of_unhashed db
        (input.submission start sourceId .duplicate) fun {k submission} hrow hsome hsame => by
          obtain ⟨requestHash, hhash⟩ := Option.isSome_iff_exists.mp
            (Option.isSome_map.symm.trans hsome)
          have hne : requestHash ≠ "" := fun hblank => hfresh.named (hblank ▸ hhash)
          have hsame' : submission.requestHash = some (Js.toLowerCase requestHash) := by
            rw [hsame, SourceIngest.submission, hhash, Option.map_some]
          unfold recordedSubmission at hrecorded
          rw [hhash] at hrecorded
          simp only [hne, if_false] at hrecorded
          split at hrecorded
          next hnone => exact Sql.Serial.findBy_eq_none.mp hnone k submission hrow hsame'
          next =>
            split at hrecorded <;> cases hrecorded
      exact ⟨db', submissionId, hinserting.next (Nat.le_refl start)
        (by simp [IngestProcess.next, hinsert])⟩

/-- **A source that is not there is made**, once the lease that is in force has expired. -/
theorem comes_of_none (h : Ingested db) (hwaitable : Waitable db) (hfresh : input.Fresh db)
    (hread : readSourceByCanonicalKey db input.canonicalSourceKey = none)
    (hcome : Comes start result x (db, .looking input 0)) :
    ∃ db' sourceId submissionId,
      Comes start result x (db', .returned input sourceId submissionId .created) := by
  have hfree : ∀ {sourceId source}, db.sources sourceId = some source →
      source.canonicalSourceKey ≠ input.canonicalSourceKey :=
    fun hsource => Sql.Serial.findBy_eq_none.mp hread _ _ hsource
  -- The time from which on the lease can be had.
  obtain ⟨now, hstart, hlease⟩ : ∃ now, start ≤ now ∧ ∀ attempt,
      db.ingestionAttempts input.canonicalSourceKey = some attempt →
        attempt.reservable now = true := by
    cases hattempt : db.ingestionAttempts input.canonicalSourceKey with
    | none => exact ⟨start, Nat.le_refl _, fun _ => nofun⟩
    | some attempt =>
      rcases hwaitable _ attempt hattempt with ⟨sourceId, source, hsource, hkey⟩ | ⟨expiry, hexpiry⟩
      · exact absurd hkey (hfree hsource)
      · refine ⟨max start expiry, Nat.le_max_left _ _, fun attempt' heq => ?_⟩
        obtain rfl := Option.some.inj heq
        exact hexpiry _ (Nat.le_max_right _ _)
  have hreserving : Comes start result x (db, .reserving input 0) :=
    hcome.next hstart (by simp [IngestProcess.next, hread])
  obtain ⟨db₁, hreserve⟩ : ∃ db₁,
      reserveSourceIngestionAttempt now db input.reservation = some db₁ := by
    unfold reserveSourceIngestionAttempt
    split
    next => exact ⟨_, rfl⟩
    next attempt hattempt =>
      rw [if_pos (hlease attempt hattempt)]
      exact ⟨_, rfl⟩
  obtain ⟨attempt, howned, rfl, -⟩ := reserve_eq_some hreserve
  have hingesting : Comes start result x
      ({ db with ingestionAttempts := db.ingestionAttempts.set input.canonicalSourceKey attempt },
        .ingesting input) :=
    hreserving.next hstart (by simp only [IngestProcess.next, hreserve]; rfl)
  have hcommitting := hingesting.tail (a := .ingested result)
    (z := (_, .committing input result)) rfl rfl
  -- Its request is not recorded, since no submission is of its key.
  obtain ⟨sourceId, submissionId, db', hcreate⟩ := createSource_of_owned now
    { db with ingestionAttempts := db.ingestionAttempts.set input.canonicalSourceKey attempt }
    input result hread
    (fun {k submission} hrow hsome hsame => by
      obtain ⟨requestHash, hhash⟩ := Option.isSome_iff_exists.mp
        (Option.isSome_map.symm.trans hsome)
      have hkey := hfresh.unshared hhash hrow (by
        rw [hsame, SourceIngest.submission, hhash, Option.map_some])
      obtain ⟨source, hsource, hlisted⟩ := h.listed hrow
      exact hfree hsource (hlisted.trans hkey))
    (by rw [Sql.Table.set_self, Option.any_some]; exact howned)
  have hread' : readSourceByCanonicalKey { db with
      ingestionAttempts := db.ingestionAttempts.set input.canonicalSourceKey attempt }
        input.canonicalSourceKey = none := hread
  have hopening := hcommitting.next hstart (by simp only [IngestProcess.next, hread', hcreate]; rfl)
  exact ⟨_, sourceId, submissionId, ((hopening.next hstart rfl).next hstart rfl).next hstart rfl⟩

end

/-- A call crashes while it has the lease. -/
def crashedAtWork : List (ℕ × IngestAction) :=
  [(0, .call (pageIngest "a" "h1")), (0, .next 0), (0, .next 0), (0, .crash)]

theorem crashedAtWork_possible : (playIngestion crashedAtWork).isSome := by decide

/-- A call crashes once it has written the source, and the source is submitted again. -/
def crashedAfterWriting : List (ℕ × IngestAction) :=
  [(0, .call (pageIngest "a" "h1")), (0, .next 0), (0, .next 0), (0, .ingested pageIngestion),
    (0, .next 1), (0, .crash), (1, .call (pageIngest "b" "h2")), (1, .next 2), (1, .next 3),
    (1, .next 4), (1, .next 5)]

theorem crashedAfterWriting_possible : (playIngestion crashedAfterWriting).isSome := by
  decide

end ScientificProtocol.Sources
