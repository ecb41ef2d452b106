import ScientificProtocol.Sources.OneRecord
import ScientificProtocol.Sources.Publication
import ScientificProtocol.Submission.CreatedOnce

/-!
# A source is made a claim of once

A claim that has been created stays, so a source must not be made a claim of twice, whichever
of the two ways is taken, and wherever a call crashes. What keeps it from that is the row of its
publication attempt, which is inserted once and never deleted: the call that has inserted it
holds a right to create the claim. It gives this up when it has called `createClaim`, has
recorded the claim, or has come to nothing; nobody gets it again.

| the attempt of a source | who has the right | calls of `createClaim` |
|---|---|---|
| not there | nobody yet | none |
| just inserted | one call, which holds the token | none |
| there, without a claim | one call that creates, or nobody | at most one |
| there, with a claim | nobody | at most one |

The claim of the attempt is set once, by the call that has the right, and it is what all other
calls go on with. So the claim that a source is published with is the one of its attempt
(`ScientificProtocol.Sources.oneClaim`).
-/

namespace ScientificProtocol.Sources

open Concurrency Evm
open Review (Time)
open Submission (openDomain)

/-- One step of a history of publications. -/
abbrev PublicationEvent (ι : Type) : Type :=
  Event ι PublicationState Publisher PublisherAction Outside

/-- The claim that the attempt of a source has recorded. -/
def SourceDb.attemptClaimId (db : SourceDb) (sourceId : ℕ) : Option ℕ :=
  (db.publicationAttempts sourceId).bind SourcePublicationAttempt.claimId

/-- The claim a source is published with. -/
def SourceDb.publishedClaimId (db : SourceDb) (sourceId : ℕ) : Option ℕ :=
  (db.sources sourceId).bind SourceRecord.publishedClaimId

/-- A call goes from its reservation to `createClaim`. -/
def Publisher.invokes (sourceId : ℕ) (p p' : Publisher) : Bool :=
  match p, p' with
  | .reserved draft _, .creating _ => decide (draft.sourceId = sourceId)
  | _, _ => false

/-- **A call invokes `createClaim`** for a source. -/
def invokesCreateClaim {ι : Type} (sourceId : ℕ) (e : PublicationEvent ι) : Bool :=
  match e.label with
  | .act i _ => (e.before.process i).invokes sourceId (e.after.process i)
  | .env _ => false

/-- **A source gets one claim**, in a history and at its end. -/
structure OneClaim {ι : Type} (sourceId : ℕ) (tr : List (PublicationEvent ι)) (db : SourceDb) :
    Prop where
  invoked_once : tr.countP (invokesCreateClaim sourceId) ≤ 1
  published_kept : ∀ e ∈ tr, ∀ {claimId},
    e.after.shared.db.publishedClaimId sourceId = some claimId →
      db.publishedClaimId sourceId = some claimId
  published_recorded : ∀ {claimId}, db.publishedClaimId sourceId = some claimId →
    db.attemptClaimId sourceId = some claimId

/-! ### What happens outside -/

/-- **What ingestion and the agents leave as it is**: the publications, and every source that is
there. A new source is being extracted. -/
structure Outlying (db db' : SourceDb) : Prop where
  attempts : db'.publicationAttempts = db.publicationAttempts
  source : ∀ {sourceId source}, db.sources sourceId = some source →
    db'.sources sourceId = some source
  fresh : ∀ {sourceId source}, db'.sources sourceId = some source →
    db.sources sourceId = some source ∨
      db.sources sourceId = none ∧ source.publishedClaimId = none ∧ source.status = .extracting
  candidate : ∀ {candidateId candidate}, db.candidates candidateId = some candidate →
    ∃ candidate', db'.candidates candidateId = some candidate' ∧
      candidate'.sourceId = candidate.sourceId

theorem outlying_of_ingest {db db' : SourceDb} {a : IngestAction} {p p' : IngestProcess}
    (h : IngestEffect db p a db' p') : Outlying db db' := by
  obtain ⟨hcandidates, hattempts⟩ := h.publication_eq
  have hcandidate : ∀ {candidateId candidate}, db.candidates candidateId = some candidate →
      ∃ candidate', db'.candidates candidateId = some candidate' ∧
        candidate'.sourceId = candidate.sourceId :=
    fun hrow => ⟨_, by rw [hcandidates]; exact hrow, rfl⟩
  rcases h.sources_cases with hsame | ⟨now, input, ingestion, sourceId, -, -, hcreates⟩
  · exact ⟨hattempts, fun hsource => hsame ▸ hsource, fun hsource => .inl (hsame ▸ hsource),
      hcandidate⟩
  · refine ⟨hattempts, fun hsource => ?_, fun hsource => ?_, hcandidate⟩
    · rw [hcreates.sources_eq]
      exact Sql.Serial.insert_of_some hsource
    · rw [hcreates.sources_eq] at hsource
      rcases Sql.Serial.insert_eq_some.mp hsource with ⟨rfl, rfl⟩ | hsource
      · exact .inr ⟨db.sources.fresh _ (Nat.le_refl _), rfl, rfl⟩
      · exact .inl hsource

theorem outlying_of_candidate {db : SourceDb} {new : SourceExtractionCandidate} :
    Outlying db (insertSourceExtractionCandidate db new) := by
  unfold insertSourceExtractionCandidate
  split
  · exact ⟨rfl, id, .inl, fun hrow => ⟨_, Sql.Serial.insert_of_some hrow, rfl⟩⟩
  · refine ⟨rfl, id, .inl, fun {candidateId candidate} hrow => ?_⟩
    simp only [Sql.Serial.update_apply, hrow]
    split <;> exact ⟨_, rfl, rfl⟩

/-- What happens between the steps of the calls. -/
theorem outlying_of_outside {O : Operator} {b : Outside} {s s' : PublicationState}
    (h : OutsideStep O b s s') : Outlying s.db s'.db := by
  cases h with
  | ingest hact => exact outlying_of_ingest (act_effect hact)
  | candidate => exact outlying_of_candidate
  | index | chain => exact ⟨rfl, id, .inl, fun hrow => ⟨_, hrow, rfl⟩⟩

/-- It publishes nothing. -/
theorem Outlying.publishedClaimId_eq {db db' : SourceDb} (h : Outlying db db') (sourceId : ℕ) :
    db'.publishedClaimId sourceId = db.publishedClaimId sourceId := by
  simp only [SourceDb.publishedClaimId]
  cases hrow : db.sources sourceId with
  | some source => rw [h.source hrow]
  | none =>
    cases hrow' : db'.sources sourceId with
    | none => rfl
    | some source =>
      rcases h.fresh hrow' with hold | ⟨-, hunpublished, -⟩
      · exact absurd (hrow.symm.trans hold) nofun
      · exact hunpublished

/-! ### Who may create the claim -/

/-- A call may create the claim of a source: it has reserved the attempt just now, or is at
it. -/
def Publisher.Owns (sourceId : ℕ) (p : Publisher) : Prop :=
  p.token = some sourceId ∨ ∃ draft, p.creates = some draft ∧ draft.sourceId = sourceId

/-- **The fence of a source**: the attempt, how often `createClaim` has been invoked, and the
calls. -/
structure Fenced {ι : Type} (sourceId : ℕ) (db : SourceDb) (invoked : ℕ) (process : ι → Publisher) :
    Prop where
  le_one : invoked ≤ 1
  unreserved : db.publicationAttempts sourceId = none → invoked = 0
  token : ∀ {i}, (process i).token = some sourceId → invoked = 0
  /-- Two calls never have the right, -/
  unique : ∀ {i j}, (process i).Owns sourceId → (process j).Owns sourceId → i = j
  /-- and it is gone when there is a claim. -/
  unset : ∀ {i}, (process i).Owns sourceId →
    ∃ attempt, db.publicationAttempts sourceId = some attempt ∧ attempt.claimId = none
  claims : ∀ {i claimId}, (process i).claims = some (sourceId, claimId) →
    db.attemptClaimId sourceId = some claimId
  published : ∀ {claimId}, db.publishedClaimId sourceId = some claimId →
    db.attemptClaimId sourceId = some claimId

section

variable {ι : Type} {sourceId invoked : ℕ} {db db' : SourceDb} {process : ι → Publisher} {i : ι}
  {p p' : Publisher}

theorem attemptClaimId_eq {attempt : SourcePublicationAttempt}
    (h : db.publicationAttempts sourceId = some attempt) :
    db.attemptClaimId sourceId = attempt.claimId := by
  rw [SourceDb.attemptClaimId, h, Option.bind_some]

/-- Writing a status leaves the claims of the sources. -/
theorem publishedClaimId_updateStatus {now : Time} {sourceId' : ℕ} {status : SourceRecordStatus} :
    (updateSourceRecordStatus now db sourceId' status).publishedClaimId sourceId =
      db.publishedClaimId sourceId := by
  simp only [SourceDb.publishedClaimId, updateSourceRecordStatus]
  by_cases hsource : sourceId = sourceId'
  · subst hsource
    rw [Sql.Serial.update_self]
    cases db.sources sourceId <;> rfl
  · rw [Sql.Serial.update_of_ne _ hsource]

/-- **A source keeps the claim it is published with**: whoever publishes it has the claim of the
attempt. -/
theorem Fenced.published_kept {s : PublicationState} {a : PublisherAction}
    (h : Fenced sourceId s.db invoked process) (heffect : PublishEffect s (process i) a db' p')
    {claimId : ℕ} (hpublished : s.db.publishedClaimId sourceId = some claimId) :
    db'.publishedClaimId sourceId = some claimId := by
  cases heffect with
  | quiet | invoke | ready | reconcile | sync | complete => exact hpublished
  | display | reject => exact publishedClaimId_updateStatus.trans hpublished
  | reserve =>
    unfold reserveSourcePublicationAttempt
    split <;> exact hpublished
  | @mark now sourceId' claimId' hp =>
    simp only [SourceDb.publishedClaimId, SourceDb.setPublished]
    by_cases hsource : sourceId = sourceId'
    · subst hsource
      obtain ⟨source, hrow, hid⟩ := Option.bind_eq_some_iff.mp hpublished
      have hmine : s.db.attemptClaimId sourceId = some claimId' :=
        h.claims (i := i) (by rw [hp]; rfl)
      rw [Sql.Serial.update_self, hrow]
      exact hmine.symm.trans (h.published hpublished)
    · rw [Sql.Serial.update_of_ne _ hsource]
      exact hpublished

variable [DecidableEq ι]

/-- **A step without the right**: the attempt of the source keeps its claim, and what the call
owns, claims and publishes is as it was or the claim of the attempt. -/
theorem Fenced.keep (h : Fenced sourceId db invoked process)
    (hnone : db'.publicationAttempts sourceId = none → db.publicationAttempts sourceId = none)
    (hclaimId : ∀ attempt, db.publicationAttempts sourceId = some attempt →
      ∃ attempt', db'.publicationAttempts sourceId = some attempt' ∧
        attempt'.claimId = attempt.claimId)
    (hpublished : ∀ claimId, db'.publishedClaimId sourceId = some claimId →
      db.attemptClaimId sourceId = some claimId)
    (htoken : p'.token ≠ some sourceId)
    (howns : p'.Owns sourceId → (process i).Owns sourceId)
    (hclaims : ∀ claimId, p'.claims = some (sourceId, claimId) →
      db.attemptClaimId sourceId = some claimId) :
    Fenced sourceId db' invoked (Function.update process i p') := by
  have hsame : ∀ {claimId}, db.attemptClaimId sourceId = some claimId →
      db'.attemptClaimId sourceId = some claimId := by
    intro claimId hclaim
    obtain ⟨attempt, hattempt, hid⟩ := Option.bind_eq_some_iff.mp hclaim
    obtain ⟨attempt', hattempt', hid'⟩ := hclaimId attempt hattempt
    rw [attemptClaimId_eq hattempt', hid', hid]
  have hback : ∀ j, (Function.update process i p' j).Owns sourceId → (process j).Owns sourceId := by
    intro j hj
    by_cases hji : j = i
    · subst hji
      rw [Function.update_self] at hj
      exact howns hj
    · rwa [Function.update_of_ne hji] at hj
  refine ⟨h.le_one, fun hnone' => h.unreserved (hnone hnone'), fun {j} hj => ?_,
    fun {j k} hj hk => h.unique (hback j hj) (hback k hk), fun {j} hj => ?_,
    fun {j claimId} hj => hsame ?_, fun hclaim => hsame (hpublished _ hclaim)⟩
  · by_cases hji : j = i
    · subst hji
      rw [Function.update_self] at hj
      exact absurd hj htoken
    · rw [Function.update_of_ne hji] at hj
      exact h.token hj
  · obtain ⟨attempt, hattempt, hunset⟩ := h.unset (hback j hj)
    obtain ⟨attempt', hattempt', hid⟩ := hclaimId attempt hattempt
    exact ⟨attempt', hattempt', hid.trans hunset⟩
  · by_cases hji : j = i
    · subst hji
      rw [Function.update_self] at hj
      exact hclaims _ hj
    · rw [Function.update_of_ne hji] at hj
      exact h.claims hj

/-- The tables with another row of a source that is not the one in question. -/
theorem Fenced.elsewhere {sourceId' : ℕ} {attempts : Sql.Table ℕ SourcePublicationAttempt}
    (h : Fenced sourceId db invoked process) (hattempts : attempts sourceId =
      db.publicationAttempts sourceId) (hne : sourceId' ≠ sourceId)
    (hcreates : p'.creates = none) (hclaims : p'.claims = none)
    (htoken : p'.token = some sourceId' ∨ p'.token = none) :
    Fenced sourceId { db with publicationAttempts := attempts } invoked
      (Function.update process i p') := by
  have htoken' : p'.token ≠ some sourceId := by
    rcases htoken with htoken | htoken
    · rw [htoken]
      exact fun heq => hne (Option.some.inj heq)
    · rw [htoken]
      exact nofun
  refine h.keep (fun hnone => hattempts.symm.trans hnone)
    (fun attempt hattempt => ⟨attempt, hattempts.trans hattempt, rfl⟩) (fun _ => h.published)
    htoken' (fun howns => ?_) fun claimId hclaim => ?_
  · rcases howns with howns | ⟨draft, hdraft, -⟩
    · exact absurd howns htoken'
    · rw [hcreates] at hdraft
      exact absurd hdraft nofun
  · rw [hclaims] at hclaim
    exact absurd hclaim nofun

/-- A call that owns nothing and claims nothing, with attempts that keep their claims. -/
theorem Fenced.idly (h : Fenced sourceId db invoked process)
    {f : SourcePublicationAttempt → SourcePublicationAttempt}
    (hf : ∀ attempt, (f attempt).claimId = attempt.claimId) {sourceId' : ℕ}
    (hcreates : p'.creates = none) (hclaims : p'.claims = none) (htoken : p'.token = none) :
    Fenced sourceId { db with publicationAttempts := db.publicationAttempts.update sourceId' f }
      invoked (Function.update process i p') := by
  refine h.keep (fun hnone => ?_) (fun attempt hattempt => ?_) (fun _ => h.published)
    (by rw [htoken]; exact nofun) (fun howns => ?_) fun claimId hclaim => ?_
  · rw [Sql.Table.update_apply] at hnone
    split at hnone
    · exact Option.map_eq_none_iff.mp hnone
    · exact hnone
  · rw [Sql.Table.update_apply, hattempt]
    split
    · exact ⟨f attempt, rfl, hf attempt⟩
    · exact ⟨attempt, rfl, rfl⟩
  · rcases howns with howns | ⟨draft, hdraft, -⟩
    · rw [htoken] at howns
      exact absurd howns nofun
    · rw [hcreates] at hdraft
      exact absurd hdraft nofun
  · rw [hclaims] at hclaim
    exact absurd hclaim nofun

/-- **The attempt is reserved**, and the call that has done it gets the right. -/
theorem Fenced.reserve (h : Fenced sourceId db invoked process) {now : Time}
    {draft : PublicationDraft} (hnone : db.publicationAttempts draft.sourceId = none) :
    Fenced sourceId
      (reserveSourcePublicationAttempt now db draft.sourceId draft.candidateId
        draft.publicationMode).2 invoked (Function.update process i (.reserved draft true)) := by
  have hdb : (reserveSourcePublicationAttempt now db draft.sourceId draft.candidateId
      draft.publicationMode).2 = { db with
        publicationAttempts := db.publicationAttempts.set draft.sourceId
          ⟨draft.candidateId, draft.publicationMode, .pending, none, none, now⟩ } := by
    rw [reserveSourcePublicationAttempt, hnone]
  rw [hdb]
  by_cases hsource : draft.sourceId = sourceId
  · subst hsource
    have hzero := h.unreserved hnone
    have hunset : db.attemptClaimId draft.sourceId = none := by
      rw [SourceDb.attemptClaimId, hnone, Option.bind_none]
    -- Nobody had the right while there was no attempt.
    have hnobody : ∀ j, ¬(process j).Owns draft.sourceId := by
      intro j hj
      obtain ⟨attempt, hattempt, -⟩ := h.unset hj
      exact absurd (hnone.symm.trans hattempt) nofun
    have honly : ∀ {j}, (Function.update process i (.reserved draft true) j).Owns draft.sourceId →
        j = i := by
      intro j hj
      by_contra hji
      rw [Function.update_of_ne hji] at hj
      exact hnobody j hj
    have hself : db.publicationAttempts.set draft.sourceId
        ⟨draft.candidateId, draft.publicationMode, .pending, none, none, now⟩ draft.sourceId =
        some ⟨draft.candidateId, draft.publicationMode, .pending, none, none, now⟩ :=
      Sql.Table.set_self ..
    refine ⟨h.le_one, fun hgone => absurd (hself.symm.trans hgone) nofun, fun _ => hzero,
      fun hj hk => (honly hj).trans (honly hk).symm, fun _ => ⟨_, hself, rfl⟩,
      fun {j claimId} hclaim => ?_, fun hpublished => ?_⟩
    · by_cases hji : j = i
      · subst hji
        rw [Function.update_self] at hclaim
        exact absurd hclaim nofun
      · rw [Function.update_of_ne hji] at hclaim
        exact absurd (hunset.symm.trans (h.claims hclaim)) nofun
    · exact absurd (hunset.symm.trans (h.published hpublished)) nofun
  · exact h.elsewhere (Sql.Table.set_of_ne _ (Ne.symm hsource) _) hsource rfl rfl (.inl rfl)

/-- **The right is used**: the only call that has it invokes `createClaim`. -/
theorem Fenced.invoke (h : Fenced sourceId db invoked process) {draft : PublicationDraft}
    (hp : process i = .reserved draft true) :
    Fenced sourceId db (invoked + if draft.sourceId = sourceId then 1 else 0)
      (Function.update process i (.creating draft)) := by
  by_cases hsource : draft.sourceId = sourceId
  · have howner : (process i).Owns sourceId := .inl (by rw [hp, ← hsource]; rfl)
    have hzero : invoked = 0 := h.token (i := i) (by rw [hp, ← hsource]; rfl)
    have hback : ∀ {j}, (Function.update process i (.creating draft) j).Owns sourceId → j = i := by
      intro j hj
      by_contra hji
      rw [Function.update_of_ne hji] at hj
      exact hji (h.unique hj howner)
    rw [if_pos hsource, hzero]
    refine ⟨Nat.le_refl 1, fun hnone => ?_, fun {j} hj => ?_,
      fun hj hk => (hback hj).trans (hback hk).symm, fun _ => h.unset howner,
      fun {j claimId} hclaim => ?_, h.published⟩
    · obtain ⟨attempt, hattempt, -⟩ := h.unset howner
      exact absurd (hnone.symm.trans hattempt) nofun
    · obtain rfl := hback (.inl hj)
      rw [Function.update_self] at hj
      exact absurd hj nofun
    · by_cases hji : j = i
      · subst hji
        rw [Function.update_self] at hclaim
        exact absurd hclaim nofun
      · rw [Function.update_of_ne hji] at hclaim
        exact h.claims hclaim
  · rw [if_neg hsource]
    refine h.keep id (fun attempt hattempt => ⟨attempt, hattempt, rfl⟩) (fun _ => h.published) nofun
      (fun howns => ?_) nofun
    rcases howns with howns | ⟨draft', hdraft, hsource'⟩
    · exact absurd howns nofun
    · obtain rfl := Option.some.inj hdraft
      exact absurd hsource' hsource

/-- **The right is given up for a claim**, which is recorded. -/
theorem Fenced.ready (h : Fenced sourceId db invoked process) {now : Time}
    {draft : PublicationDraft} {claimId : ℕ} (hp : process i = .attached draft claimId)
    {reason : String} :
    Fenced sourceId (markSourcePublicationClaimReady now db draft.sourceId claimId) invoked
      (Function.update process i (.drafting draft.sourceId reason)) := by
  by_cases hsource : draft.sourceId = sourceId
  · subst hsource
    have howner : (process i).Owns draft.sourceId := .inr ⟨draft, by rw [hp]; rfl, rfl⟩
    obtain ⟨attempt, hattempt, hnone⟩ := h.unset howner
    have hunset : db.attemptClaimId draft.sourceId = none :=
      (attemptClaimId_eq hattempt).trans hnone
    have hnobody : ∀ {j}, ¬(Function.update process i (.drafting draft.sourceId reason) j).Owns
        draft.sourceId := by
      intro j hj
      by_cases hji : j = i
      · subst hji
        rw [Function.update_self] at hj
        rcases hj with hj | ⟨_, hj, -⟩ <;> exact absurd hj nofun
      · rw [Function.update_of_ne hji] at hj
        exact hji (h.unique hj howner)
    refine ⟨h.le_one, fun hgone => ?_, fun hj => absurd (.inl hj) hnobody,
      fun hj => absurd hj hnobody, fun hj => absurd hj hnobody, fun {j claimId} hclaim => ?_,
      fun hpublished => ?_⟩
    · rw [markSourcePublicationClaimReady, Sql.Table.update_self, hattempt] at hgone
      exact absurd hgone nofun
    · by_cases hji : j = i
      · subst hji
        rw [Function.update_self] at hclaim
        exact absurd hclaim nofun
      · rw [Function.update_of_ne hji] at hclaim
        exact absurd (hunset.symm.trans (h.claims hclaim)) nofun
    · exact absurd (hunset.symm.trans (h.published hpublished)) nofun
  · exact h.elsewhere (Sql.Table.update_of_ne _ (Ne.symm hsource) _) hsource rfl rfl (.inr rfl)

/-- A call that has nothing to do with the source. -/
theorem not_owns_of_none (hcreates : p.creates = none) (htoken : p.token = none) :
    ¬p.Owns sourceId := by
  rintro (h | ⟨draft, h, -⟩)
  · exact absurd (htoken.symm.trans h) nofun
  · exact absurd (hcreates.symm.trans h) nofun

/-- The sources change, and not the attempts. -/
theorem Fenced.sources (h : Fenced sourceId db invoked process) {sources : Sql.Serial SourceRecord}
    (hcreates : p'.creates = none) (htoken : p'.token = none)
    (hclaims : ∀ claim, p'.claims = some claim → (process i).claims = some claim)
    (hpublished : ∀ claimId,
      ((sources sourceId).bind SourceRecord.publishedClaimId) = some claimId →
      db.publishedClaimId sourceId = some claimId ∨ (process i).claims = some (sourceId, claimId)) :
    Fenced sourceId { db with sources } invoked (Function.update process i p') :=
  h.keep id (fun attempt hattempt => ⟨attempt, hattempt, rfl⟩)
    (fun claimId hclaim => (hpublished claimId hclaim).elim h.published h.claims)
    (by rw [htoken]; exact nofun) (fun howns => absurd howns (not_owns_of_none hcreates htoken))
    fun claimId hclaim => h.claims (hclaims _ hclaim)

/-- Publishing gives a source its claim, if it is there. -/
theorem publishedClaimId_setPublished {now : Time} {sourceId' claimId' claimId : ℕ}
    (h : (db.setPublished now sourceId' claimId').publishedClaimId sourceId =
      some claimId) :
    db.publishedClaimId sourceId = some claimId ∨ sourceId' = sourceId ∧ claimId' = claimId := by
  simp only [SourceDb.publishedClaimId, SourceDb.setPublished] at h ⊢
  by_cases hsource : sourceId = sourceId'
  · subst hsource
    rw [Sql.Serial.update_self] at h
    cases hrow : db.sources sourceId with
    | none =>
      rw [hrow] at h
      exact absurd h nofun
    | some source =>
      rw [hrow] at h
      exact .inr ⟨rfl, Option.some.inj h⟩
  · rw [Sql.Serial.update_of_ne _ hsource] at h
    exact .inl h

theorem invokes_eq_false (h : p'.creates = none ∨ p'.creates = p.creates) :
    p.invokes sourceId p' = false := by
  unfold Publisher.invokes
  split
  · rcases h with h | h <;> exact absurd h nofun
  · rfl

/-- **Every step of a call keeps the fence**, and counts if it invokes `createClaim`. -/
theorem Fenced.effect {s : PublicationState} {a : PublisherAction}
    (h : Fenced sourceId s.db invoked process) (heffect : PublishEffect s (process i) a db' p') :
    Fenced sourceId db' (invoked + if (process i).invokes sourceId p' then 1 else 0)
      (Function.update process i p') := by
  have hidle : (p'.creates = none ∨ p'.creates = (process i).creates) →
      Fenced sourceId db' invoked (Function.update process i p') →
      Fenced sourceId db' (invoked + if (process i).invokes sourceId p' then 1 else 0)
        (Function.update process i p') := by
    intro hcreates hfenced
    rwa [invokes_eq_false hcreates]
  cases heffect with
  | quiet hcreates hclaims htoken _ _ =>
    refine hidle hcreates (h.keep id (fun attempt hattempt => ⟨attempt, hattempt, rfl⟩)
      (fun _ => h.published) (by rw [htoken]; exact nofun) (fun howns => ?_)
      fun claimId hclaim => ?_)
    · rcases howns with howns | ⟨draft, hdraft, hsource⟩
      · exact absurd (htoken.symm.trans howns) nofun
      · rcases hcreates with hcreates | hcreates
        · exact absurd (hcreates.symm.trans hdraft) nofun
        · exact .inr ⟨draft, hcreates.symm.trans hdraft, hsource⟩
    · rcases hclaims with hclaims | hclaims | ⟨sourceId', claimId', attempt, hclaims, hattempt, hid⟩
      · exact absurd (hclaims.symm.trans hclaim) nofun
      · exact h.claims (hclaims.symm.trans hclaim)
      · obtain ⟨rfl, rfl⟩ := Prod.mk.inj (Option.some.inj (hclaims.symm.trans hclaim))
        exact (attemptClaimId_eq hattempt).trans hid
  | @reserve now draft hp =>
    refine hidle (.inl rfl) ?_
    cases hattempt : s.db.publicationAttempts draft.sourceId with
    | none =>
      have hnew : (reserveSourcePublicationAttempt now s.db draft.sourceId draft.candidateId
          draft.publicationMode).1 = true := by rw [reserveSourcePublicationAttempt, hattempt]
      rw [hnew]
      exact h.reserve hattempt
    | some attempt =>
      have hsame : reserveSourcePublicationAttempt now s.db draft.sourceId draft.candidateId
          draft.publicationMode = (false, s.db) := by rw [reserveSourcePublicationAttempt, hattempt]
      rw [hsame]
      exact h.sources rfl rfl nofun fun _ hclaim => .inl hclaim
  | @invoke now draft hp =>
    have hinvokes : (process i).invokes sourceId (.creating draft) =
        decide (draft.sourceId = sourceId) := by rw [hp]; rfl
    simp only [hinvokes, decide_eq_true_eq]
    exact h.invoke hp
  | ready hp => exact hidle (.inl rfl) (h.ready hp)
  | reconcile hp =>
    refine hidle (.inl rfl) (h.idly (fun attempt => ?_) rfl rfl rfl)
    unfold SourcePublicationAttempt.reconcile
    split <;> rfl
  | display hp =>
    exact hidle (.inl rfl) (h.sources rfl rfl nofun fun _ hclaim =>
      .inl (publishedClaimId_updateStatus.symm.trans hclaim))
  | reject hp =>
    exact hidle (.inl rfl) (h.sources rfl rfl nofun fun _ hclaim =>
      .inl (publishedClaimId_updateStatus.symm.trans hclaim))
  | @mark now sourceId' claimId' hp =>
    have hclaims : (process i).claims = some (sourceId', claimId') := by rw [hp]; rfl
    refine hidle (.inl rfl) (h.sources rfl rfl (fun claim hclaim => ?_) fun claimId hclaim => ?_)
    · exact hclaims.trans hclaim
    · refine (publishedClaimId_setPublished hclaim).imp id ?_
      rintro ⟨rfl, rfl⟩
      exact hclaims
  | @sync now sourceId' claimId' claims hp =>
    have hclaims : (process i).claims = some (sourceId', claimId') := by rw [hp]; rfl
    exact hidle (.inl rfl) (h.keep id (fun attempt hattempt => ⟨attempt, hattempt, rfl⟩)
      (fun _ => h.published) nofun (fun howns => absurd howns (not_owns_of_none rfl rfl))
      fun claimId hclaim => h.claims (hclaims.trans hclaim))
  | complete hp =>
    refine hidle (.inl rfl) (h.idly (fun attempt => ?_) rfl rfl rfl)
    unfold SourcePublicationAttempt.complete
    split <;> rfl

/-! ### Every history -/

variable {O : Operator} {tr : List (PublicationEvent ι)} {c : Config ι PublicationState Publisher}

/-- **Every history keeps the fence.** -/
theorem fenced_of_run (h : (publication O).Run tr c) :
    Fenced sourceId c.shared.db (tr.countP (invokesCreateClaim sourceId)) c.process := by
  refine Processes.Run.history (Q := fun tr c => Fenced sourceId c.shared.db
    (tr.countP (invokesCreateClaim sourceId)) c.process) ?_ ?_ h
  · rintro s ⟨-, hnew⟩
    have hidle : ¬Publisher.Owns sourceId .idle := not_owns_of_none rfl rfl
    refine ⟨Nat.zero_le 1, fun _ => rfl, nofun, fun hi => absurd hi hidle,
      fun hi => absurd hi hidle, nofun, fun hpublished => ?_⟩
    obtain ⟨source, hrow, hid⟩ := Option.bind_eq_some_iff.mp hpublished
    exact absurd ((hnew.sources hrow).1.symm.trans hid) nofun
  · intro tr c l c' _ ih hstep
    rw [List.countP_append, List.countP_singleton]
    cases hstep with
    | @act i a s p hact =>
      have hfenced := ih.effect (Publisher.act_effect hact).1
      simpa only [invokesCreateClaim, Function.update_self] using hfenced
    | env henv =>
      have hout := outlying_of_outside henv
      have hsame : ∀ {db : SourceDb}, db.publicationAttempts = c.shared.db.publicationAttempts →
          db.attemptClaimId sourceId = c.shared.db.attemptClaimId sourceId := by
        intro db heq
        rw [SourceDb.attemptClaimId, heq, SourceDb.attemptClaimId]
      refine ⟨ih.le_one, fun hnone => ih.unreserved (hout.attempts ▸ hnone), ih.token, ih.unique,
        fun hi => ?_, fun hclaim => (hsame hout.attempts).trans (ih.claims hclaim),
        fun hpublished => (hsame hout.attempts).trans (ih.published ?_)⟩
      · rw [hout.attempts]
        exact ih.unset hi
      · rwa [← hout.publishedClaimId_eq]

/-- What is published stays as it is. -/
theorem published_kept_of_step {l : Label ι PublisherAction Outside}
    {c' : Config ι PublicationState Publisher} (h : (publication O).Run tr c)
    (hstep : (publication O).Step c l c') {claimId : ℕ}
    (hpublished : c.shared.db.publishedClaimId sourceId = some claimId) :
    c'.shared.db.publishedClaimId sourceId = some claimId := by
  cases hstep with
  | act hact => exact (fenced_of_run h).published_kept (Publisher.act_effect hact).1 hpublished
  | env henv => exact ((outlying_of_outside henv).publishedClaimId_eq sourceId).trans hpublished

theorem published_kept_of_run (h : (publication O).Run tr c) : ∀ e ∈ tr, ∀ {claimId},
    e.after.shared.db.publishedClaimId sourceId = some claimId →
      c.shared.db.publishedClaimId sourceId = some claimId := by
  induction h with
  | genesis _ => exact fun e he => absurd he List.not_mem_nil
  | snoc hrun hstep ih =>
    intro e he claimId hpublished
    rcases List.mem_append.mp he with he | he
    · exact published_kept_of_step hrun hstep (ih e he hpublished)
    · rwa [List.mem_singleton.mp he] at hpublished

/-- **One claim for a source**: in every interleaving of calls that publish it automatically or
by hand and that reject it, with crashes and failures anywhere, `createClaim` is invoked once at
most; and the claim the source is published with never changes, and is the claim of its
attempt. -/
theorem oneClaim (h : (publication O).Run tr c) (sourceId : ℕ) :
    OneClaim sourceId tr c.shared.db :=
  have hfenced : Fenced sourceId c.shared.db _ c.process := fenced_of_run h
  ⟨hfenced.le_one, published_kept_of_run h, hfenced.published⟩

end

/-! ### A source on the development network -/

/-- `0x0A` opens domain 1 and links the protocol. -/
def openPublication : List (Move Message) :=
  openDomain ++ [send 0x0A 0 (.claimRegistry (.configureProtocolDependencies 0xE0 0xE1))]

theorem openPublication_possible : (playDevnet openPublication).isSome := by decide

/-- `0x0A` signs for everybody, and every claim of the chain is found. -/
def devnetOperator : Operator where
  deployment := devnet
  submittedBy := 0x0A
  resolver := 0x0A
  minimumAuthorBondWei := 0
  readDigest _ := 5
  metadataForSourcePublication _ := "{}"
  syncClaimReadModel w := .ok (List.range' 1 (w.claimRegistry.nextClaimId - 1))

/-- A page that `0xAA` has submitted. -/
def page : SourceRecord where
  canonicalSourceKey := "url:https://example.org/"
  sourceType := .url
  discoveryMode := .userSubmitted
  submittedByActor := some 0xAA
  submittedByAgentId := none
  status := .extracting
  snapshotArtifactKey := some "snapshot"
  extractionArtifactKey := some "extraction"
  publishedClaimId := none
  sourceMetadata :=
    { artifactType := 5, locator := "https://example.org", preview := some "{}", ref := none
      sourceType := .url, sourceVersion := some "{}", title := "A page" }
  createdAt := 0
  updatedAt := 0

/-- What two agents have found in it. -/
def pageCandidate (submissionId reviewerAgentId : String) : SourceExtractionCandidate where
  sourceId := 1
  submissionId := submissionId
  taskId := "task"
  reviewerAgentId := some reviewerAgentId
  statement := "s"
  scope := "c"
  claimType := "t"
  methodology := "m"
  confidenceBps := 9000
  anchors := [⟨"e", "x"⟩]
  createdAt := 0

def pageDb : SourceDb :=
  { SourceDb.empty with
    sources := Sql.Serial.empty.insert page
    artifacts := Sql.Table.empty.set "snapshot" ⟨"snapshot", "text/html", "00"⟩
    candidates :=
      (Sql.Serial.empty.insert (pageCandidate "s1" "a")).insert (pageCandidate "s2" "b") }

/-- The history some actions of calls make, on that network with that page. -/
def playPublication (moves : List (ℕ × PublisherAction)) :
    Option (List (PublicationEvent ℕ) × Config ℕ PublicationState Publisher) :=
  (publication devnetOperator).play moves
    ⟨⟨pageDb, ((playDevnet openPublication).get openPublication_possible).2⟩, fun _ => .idle⟩

theorem unpublished_pageDb : Unpublished pageDb := by
  refine ⟨fun _ => rfl, fun {sourceId source} hsource => ?_⟩
  rcases Sql.Serial.insert_eq_some.mp hsource with ⟨-, rfl⟩ | hsource
  · exact ⟨rfl, nofun, nofun⟩
  · exact absurd hsource nofun

/-- **Played histories are histories of publications.** -/
theorem run_playPublication {moves : List (ℕ × PublisherAction)}
    (h : (playPublication moves).isSome) :
    (publication devnetOperator).Run ((playPublication moves).get h).1
      ((playPublication moves).get h).2 :=
  Processes.run_play (M := publication devnetOperator)
    (s := ⟨pageDb, ((playDevnet openPublication).get openPublication_possible).2⟩)
    ⟨(run_playDevnet openPublication_possible).reachable, unpublished_pageDb⟩ h

/-- A call makes a claim of the page, and is about to show that the page waits for a bond. -/
def claimPage (i : ℕ) (call : PublicationCall) : List (ℕ × PublisherAction) :=
  [.call call, .next 0, .next 0, .next 0, .next 0, .next 0, .mine, .next 0, .next 0, .mine,
    .next 0].map fun a => (i, a)

/-- A call publishes the claim there is, up to the end. -/
def publishPage (i : ℕ) : List (ℕ × PublisherAction) :=
  [.call (.confirmSourcePublication 1 0xAA 2), .next 1, .next 1, .next 1, .next 1, .next 1, .mine,
    .next 1, .next 1, .next 1].map fun a => (i, a)

/-- The page is made a claim of by hand, and published by a second confirmation. -/
def publishedByHand : List (ℕ × PublisherAction) :=
  claimPage 0 (.confirmSourcePublication 1 0xAA 2) ++ (0, .next 0) :: publishPage 1

theorem publishedByHand_possible : (playPublication publishedByHand).isSome := by decide

/-- It is published with the claim of its attempt. -/
theorem oneClaim_publishedByHand :
    (((playPublication publishedByHand).get publishedByHand_possible).2.shared.db.publishedClaimId
        1 = some 1) ∧
      OneClaim 1 ((playPublication publishedByHand).get publishedByHand_possible).1
        ((playPublication publishedByHand).get publishedByHand_possible).2.shared.db :=
  ⟨by decide, oneClaim (run_playPublication publishedByHand_possible) 1⟩

end ScientificProtocol.Sources
