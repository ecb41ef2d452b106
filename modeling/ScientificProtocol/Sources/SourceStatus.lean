import ScientificProtocol.Sources.OneClaim

/-!
# The status of a source

A source is published when it has a claim, and the two columns that say so are written by one
statement. But a status is also written by itself, by a call that shows a source as ready and by
one that rejects it; both have looked whether the source is published before, and do not look
again. Such a write may come too late, after another call has published the source.

This is the only way for the columns to disagree: they agree throughout a history exactly if no
status is written of a source that has its claim
(`ScientificProtocol.Sources.statusAgrees_iff`).
-/

namespace ScientificProtocol.Sources

open Concurrency Evm
open Review (Time)

/-- The status of a source says whether it has a claim. -/
def AgreesOn (sourceId : ℕ) (db : SourceDb) : Prop :=
  ∀ source, db.sources sourceId = some source →
    (source.status = .published ↔ source.publishedClaimId.isSome = true)

/-- A source is shown as published. -/
def IsPublished (sourceId : ℕ) (db : SourceDb) : Prop :=
  ∃ source, db.sources sourceId = some source ∧ source.status = .published

/-- The source whose status a call writes next, and nothing else of it. -/
def Publisher.writesStatus : Publisher → Option ℕ
  | .drafting sourceId _ | .rejecting sourceId _ => some sourceId
  | _ => none

/-- **The status of a source agrees** with its publication, in a history and at its end. -/
structure StatusAgrees {ι : Type} (sourceId : ℕ) (tr : List (PublicationEvent ι)) (db : SourceDb) :
    Prop where
  agrees : AgreesOn sourceId db
  agreed : ∀ e ∈ tr, AgreesOn sourceId e.after.shared.db
  /-- A source that became published is published ever after. -/
  kept : ∀ e ∈ tr, IsPublished sourceId e.after.shared.db → IsPublished sourceId db

/-- **A write in time**: a call that writes the status of the source by itself finds it without a
claim, as it was when the call read it. -/
def WritesInTime {ι : Type} (sourceId : ℕ) (e : PublicationEvent ι) : Prop :=
  ∀ i now, e.label = .act i (.next now) →
    (e.before.process i).writesStatus = some sourceId →
      e.before.shared.db.publishedClaimId sourceId = none

section

variable {sourceId : ℕ} {db db' : SourceDb} {now : Time} {status : SourceRecordStatus}

theorem publishedClaimId_eq {source : SourceRecord} (h : db.sources sourceId = some source) :
    db.publishedClaimId sourceId = source.publishedClaimId := by
  rw [SourceDb.publishedClaimId, h, Option.bind_some]

/-- A source is published if it has a claim. -/
theorem AgreesOn.isPublished (h : AgreesOn sourceId db) {claimId : ℕ}
    (hclaim : db.publishedClaimId sourceId = some claimId) : IsPublished sourceId db := by
  obtain ⟨source, hrow, hid⟩ := Option.bind_eq_some_iff.mp hclaim
  exact ⟨source, hrow, (h source hrow).mpr (by rw [hid]; rfl)⟩

/-- It has a claim if it is published. -/
theorem AgreesOn.claim (h : AgreesOn sourceId db) (hpublished : IsPublished sourceId db) :
    ∃ claimId, db.publishedClaimId sourceId = some claimId := by
  obtain ⟨source, hrow, hstatus⟩ := hpublished
  obtain ⟨claimId, hid⟩ := Option.isSome_iff_exists.mp ((h source hrow).mp hstatus)
  exact ⟨claimId, (publishedClaimId_eq hrow).trans hid⟩

/-- **A status may be written of a source without a claim**, and of another one. -/
theorem agreesOn_updateStatus (h : AgreesOn sourceId db) {sourceId' : ℕ}
    (hstatus : status ≠ .published)
    (hunpublished : sourceId' = sourceId → db.publishedClaimId sourceId = none) :
    AgreesOn sourceId (updateSourceRecordStatus now db sourceId' status) := by
  intro source hrow
  by_cases hsource : sourceId = sourceId'
  · subst hsource
    simp only [updateSourceRecordStatus, Sql.Serial.update_self, Option.map_eq_some_iff] at hrow
    obtain ⟨source₀, hrow₀, rfl⟩ := hrow
    have hnone := hunpublished rfl
    rw [publishedClaimId_eq hrow₀] at hnone
    simp [hstatus, hnone]
  · rw [updateSourceRecordStatus, Sql.Serial.update_of_ne _ hsource] at hrow
    exact h source hrow

/-- **It breaks the agreement of a source with a claim.** -/
theorem unpublished_of_agreesOn {status : SourceRecordStatus} (hstatus : status ≠ .published)
    (h : AgreesOn sourceId (updateSourceRecordStatus now db sourceId status)) :
    db.publishedClaimId sourceId = none := by
  cases hrow : db.sources sourceId with
  | none => rw [SourceDb.publishedClaimId, hrow, Option.bind_none]
  | some source =>
    have hafter : (updateSourceRecordStatus now db sourceId status).sources sourceId =
        some { source with status, updatedAt := now } := by
      rw [updateSourceRecordStatus, Sql.Serial.update_self, hrow, Option.map_some]
    rw [publishedClaimId_eq hrow]
    have hiff := h _ hafter
    exact Option.not_isSome_iff_eq_none.mp fun hsome => hstatus (hiff.mpr hsome)

theorem agreesOn_setPublished (h : AgreesOn sourceId db) {sourceId' claimId : ℕ} :
    AgreesOn sourceId (db.setPublished now sourceId' claimId) := by
  intro source hrow
  by_cases hsource : sourceId = sourceId'
  · subst hsource
    simp only [SourceDb.setPublished, Sql.Serial.update_self, Option.map_eq_some_iff] at hrow
    obtain ⟨source₀, -, rfl⟩ := hrow
    exact ⟨fun _ => rfl, fun _ => rfl⟩
  · rw [SourceDb.setPublished, Sql.Serial.update_of_ne _ hsource] at hrow
    exact h source hrow

theorem agreesOn_of_sources_eq (h : AgreesOn sourceId db) (heq : db'.sources = db.sources) :
    AgreesOn sourceId db' := by
  intro source hrow
  rw [heq] at hrow
  exact h source hrow

theorem agreesOn_of_outlying (h : AgreesOn sourceId db) (hout : Outlying db db') :
    AgreesOn sourceId db' := by
  intro source hrow
  rcases hout.fresh hrow with hold | ⟨-, hunpublished, hstatus⟩
  · exact h source hold
  · simp [hunpublished, hstatus]

/-- A call that writes a status writes another one than that of a publication. -/
theorem writes_of_next {O : Operator} {w : World} {p p' : Publisher}
    (hwrites : p.writesStatus = some sourceId) (h : p.next O now db w = some (db', p')) :
    ∃ status, status ≠ .published ∧ db' = updateSourceRecordStatus now db sourceId status := by
  unfold Publisher.writesStatus at hwrites
  split at hwrites
  next =>
    obtain rfl := Option.some.inj hwrites
    exact ⟨.readyForPublication, by decide, (Prod.mk.inj (Option.some.inj h)).1.symm⟩
  next =>
    obtain rfl := Option.some.inj hwrites
    exact ⟨.rejected, by decide, (Prod.mk.inj (Option.some.inj h)).1.symm⟩
  next => exact absurd hwrites nofun

/-- **A step of a call keeps the agreement** if a status it writes is in time. -/
theorem AgreesOn.effect {s : PublicationState} {a : PublisherAction} {p p' : Publisher}
    (h : AgreesOn sourceId s.db) (heffect : PublishEffect s p a db' p')
    (htime : ∀ now, a = .next now → p.writesStatus = some sourceId →
      s.db.publishedClaimId sourceId = none) : AgreesOn sourceId db' := by
  cases heffect with
  | quiet | invoke => exact h
  | ready | reconcile | sync | complete => exact agreesOn_of_sources_eq h rfl
  | reserve =>
    unfold reserveSourcePublicationAttempt
    split
    · exact h
    · exact agreesOn_of_sources_eq h rfl
  | display hp =>
    refine agreesOn_updateStatus h (by decide) fun hsource => htime _ rfl ?_
    rw [hp, ← hsource]
    rfl
  | reject hp =>
    refine agreesOn_updateStatus h (by decide) fun hsource => htime _ rfl ?_
    rw [hp, ← hsource]
    rfl
  | mark => exact agreesOn_setPublished h

variable {ι : Type} [DecidableEq ι] {O : Operator} {tr : List (PublicationEvent ι)}
  {c c' : Config ι PublicationState Publisher} {l : Label ι PublisherAction Outside}

theorem AgreesOn.step (h : AgreesOn sourceId c.shared.db) (hstep : (publication O).Step c l c')
    (htime : WritesInTime sourceId (⟨c, l, c'⟩ : PublicationEvent ι)) :
    AgreesOn sourceId c'.shared.db := by
  cases hstep with
  | @act i a s p hact =>
    refine h.effect (Publisher.act_effect hact).1 ?_
    rintro now rfl hwrites
    exact htime i now rfl hwrites
  | env henv => exact agreesOn_of_outlying h (outlying_of_outside henv)

/-- A step that writes a status late breaks the agreement. -/
theorem writesInTime_of_agreesOn (hstep : (publication O).Step c l c')
    (h : AgreesOn sourceId c'.shared.db) :
    WritesInTime sourceId (⟨c, l, c'⟩ : PublicationEvent ι) := by
  rintro i now rfl hwrites
  cases hstep with
  | @act i a s p hact =>
    obtain ⟨status, hstatus, hdb⟩ := writes_of_next hwrites (Publisher.next_of_act hact).1
    change AgreesOn sourceId s.db at h
    rw [hdb] at h
    exact unpublished_of_agreesOn hstatus h

/-- Before anything is published the columns agree. -/
theorem agreesOn_of_unpublished (h : Unpublished db) : AgreesOn sourceId db := by
  intro source hrow
  obtain ⟨hnone, hstatus, -⟩ := h.sources hrow
  simp [hnone, hstatus]

/-- **Writes in time keep the agreement**, throughout a history. -/
theorem agreesOn_of_run (h : (publication O).Run tr c)
    (htime : ∀ e ∈ tr, WritesInTime sourceId e) :
    AgreesOn sourceId c.shared.db ∧ ∀ e ∈ tr, AgreesOn sourceId e.after.shared.db := by
  induction h with
  | genesis hgen => exact ⟨agreesOn_of_unpublished hgen.2, fun e he => absurd he List.not_mem_nil⟩
  | @snoc tr c c' l _ hstep ih =>
    obtain ⟨hagrees, hagreed⟩ := ih fun e he => htime e (List.mem_append_left _ he)
    have hafter : AgreesOn sourceId c'.shared.db :=
      hagrees.step hstep (htime _ (List.mem_append_right tr (List.mem_singleton_self _)))
    refine ⟨hafter, fun e he => ?_⟩
    rcases List.mem_append.mp he with he | he
    · exact hagreed e he
    · rw [List.mem_singleton.mp he]
      exact hafter

/-- **When the status of a source agrees with its publication**: in any history of calls that
ingest, publish and reject sources, exactly if no status is written by itself of the source once
it has its claim. -/
theorem statusAgrees_iff (h : (publication O).Run tr c) (sourceId : ℕ) :
    StatusAgrees sourceId tr c.shared.db ↔ ∀ e ∈ tr, WritesInTime sourceId e := by
  constructor
  · intro hagrees e he
    obtain ⟨tr₁, tr₂, rfl⟩ := List.append_of_mem he
    exact writesInTime_of_agreesOn h.split.2 (hagrees.agreed e he)
  · intro htime
    obtain ⟨hagrees, hagreed⟩ := agreesOn_of_run h htime
    refine ⟨hagrees, hagreed, fun e he hpublished => ?_⟩
    obtain ⟨claimId, hclaim⟩ := (hagreed e he).claim hpublished
    exact hagrees.isPublished (published_kept_of_run h e he hclaim)

end

/-- The status of the page agrees when its claim is shown before it is published. -/
theorem statusAgrees_publishedByHand :
    StatusAgrees 1 ((playPublication publishedByHand).get publishedByHand_possible).1
        ((playPublication publishedByHand).get publishedByHand_possible).2.shared.db ↔
      ∀ e ∈ ((playPublication publishedByHand).get publishedByHand_possible).1,
        WritesInTime 1 e :=
  statusAgrees_iff (run_playPublication publishedByHand_possible) 1

/-- The call that made the claim of the page is slow, another one publishes the page, and then the
first one shows it as ready. -/
def shownTooLate : List (ℕ × PublisherAction) :=
  claimPage 0 (.confirmSourcePublication 1 0xAA 2) ++ publishPage 1 ++ [(0, .next 2)]

theorem shownTooLate_possible : (playPublication shownTooLate).isSome := by decide

/-- **A published source is shown as ready.** -/
theorem published_and_ready :
    ∃ (tr : List (PublicationEvent ℕ)) (c : Config ℕ PublicationState Publisher),
      (publication devnetOperator).Run tr c ∧
        (c.shared.db.sources 1).map SourceRecord.status = some .readyForPublication ∧
        c.shared.db.publishedClaimId 1 = some 1 ∧ ¬StatusAgrees 1 tr c.shared.db := by
  have hstatus : (((playPublication shownTooLate).get shownTooLate_possible).2.shared.db.sources
      1).map SourceRecord.status = some .readyForPublication := by decide
  have hclaim : ((playPublication shownTooLate).get
      shownTooLate_possible).2.shared.db.publishedClaimId 1 = some 1 := by decide
  refine ⟨_, _, run_playPublication shownTooLate_possible, hstatus, hclaim, fun h => ?_⟩
  obtain ⟨source, hrow, hpublished⟩ := h.agrees.isPublished hclaim
  rw [hrow, Option.map_some, hpublished] at hstatus
  exact absurd hstatus (by decide)

end ScientificProtocol.Sources
