import ScientificProtocol.Sources.Grounding
import ScientificProtocol.Sources.SourceStatus

/-!
# Rejecting a source

A call by hand does not go on with a source that has been rejected. Two things may still undo a
rejection. A call may have looked at the source before; and an automatic call does not look at
the status of a source at all, so that the next extraction an agent submits brings a rejected
source back.

| where a call is when the source is rejected | what it may still do |
|---|---|
| it has not read the source | by hand nothing; automatically anything |
| it has read the source, and not the candidates | anything |
| it goes on with the source | anything, and what it has sent may be mined |
| it completes the attempt, or is over | nothing |

If no call goes on with the source when it is rejected, and none finds a candidate to go on with
while it is, then it stays rejected, and nothing is made of it
(`ScientificProtocol.Sources.rejectionFinal`).
-/

namespace ScientificProtocol.Sources

open Concurrency Evm
open Review (Time)

/-- **A call rejects a source.** -/
def Rejects {ι : Type} (sourceId : ℕ) (e : PublicationEvent ι) : Prop :=
  ∃ i now reason, e.label = .act i (.next now) ∧ e.before.process i = .rejecting sourceId reason

/-- A source is rejected, and has no claim. -/
def IsRejected (sourceId : ℕ) (db : SourceDb) : Prop :=
  ∃ source, db.sources sourceId = some source ∧ source.status = .rejected ∧
    source.publishedClaimId = none

/-- A transaction that creates a claim or publishes one. -/
def PublicationTx.isOfClaim : PublicationTx → Bool
  | .createClaim _ | .publishClaim _ _ => true
  | .addArtifact _ _ => false

/-- **A claim is created or published on the chain** for a source. -/
def TransactsClaim {ι : Type} (O : Operator) (sourceId : ℕ) (e : PublicationEvent ι) : Prop :=
  ∃ i tx w', e.label = .act i .mine ∧ (e.before.process i).inFlight = some tx ∧
    tx.sourceId = sourceId ∧ tx.isOfClaim = true ∧
    World.exec O.deployment (O.message e.before.shared.db tx) e.before.shared.chain.world =
      .ok (.done w')

/-- **A rejection is final**, in a history: from there on the source is rejected and has no claim,
and none is created or published for it. -/
structure RejectionFinal {ι : Type} (O : Operator) (sourceId : ℕ) (tr : List (PublicationEvent ι))
    (db : SourceDb) : Prop where
  stays : ∀ e ∈ tr, Rejects sourceId e → IsRejected sourceId db
  stayed : ∀ {tr₁ e tr₂}, tr = tr₁ ++ e :: tr₂ → Rejects sourceId e →
    ∀ e' ∈ e :: tr₂, IsRejected sourceId e'.after.shared.db
  nothing : ∀ {tr₁ e tr₂}, tr = tr₁ ++ e :: tr₂ → Rejects sourceId e →
    ∀ e' ∈ tr₂, ¬TransactsClaim O sourceId e'

/-- A source is rejected while it has no claim and no call goes on with it. -/
def RejectsAlone {ι : Type} (sourceId : ℕ) (e : PublicationEvent ι) : Prop :=
  Rejects sourceId e → e.before.shared.db.publishedClaimId sourceId = none ∧
    ∀ j, (e.before.process j).engaged sourceId = false

/-- A call has no candidate to go on with. -/
def PublicationCall.FindsNothing (candidates : List (ℕ × SourceExtractionCandidate)) :
    PublicationCall → Prop
  | .attemptSourceAutoPublication _ => candidates = []
  | .confirmSourcePublication _ _ candidateId =>
    ∀ candidate ∈ candidates, candidate.1 ≠ candidateId
  | .rejectSourcePublication .. => True

/-- A call that chooses a candidate of a source that is rejected by now finds none. -/
def StaysOut {ι : Type} (sourceId : ℕ) (e : PublicationEvent ι) : Prop :=
  ∀ i now call source, e.label = .act i (.next now) → e.before.process i = .choosing call source →
    call.sourceId = sourceId → IsRejected sourceId e.before.shared.db →
      call.FindsNothing (readSourceExtractionCandidates e.before.shared.db sourceId)

section

variable {sourceId : ℕ} {db db' : SourceDb} {s s' : PublicationState} {p p' : Publisher}
  {a : PublisherAction} {now : Time}

/-! ### What a call is engaged with -/

/-- **A call becomes engaged by choosing**, and in no other way. -/
theorem PublishEffect.engaged (h : PublishEffect s p a db' p')
    (hengaged : p'.engaged sourceId = true) : p.engaged sourceId = true ∨
      ∃ now call source, a = .next now ∧ p = .choosing call source ∧ call.sourceId = sourceId := by
  cases h with
  | quiet _ _ _ hquiet _ => exact hquiet sourceId hengaged
  | reserve hp | invoke hp | ready hp | reconcile hp | sync hp =>
    rw [hp]
    exact .inl hengaged
  | display | mark | complete | reject => exact absurd hengaged Bool.false_ne_true

/-- A call that finds nothing does not go on. -/
theorem not_engaged_of_findsNothing {candidates : List (ℕ × SourceExtractionCandidate)}
    {source : SourceRecord} {call : PublicationCall} (hnothing : call.FindsNothing candidates)
    (h : Publisher.choose candidates source call = some p') : p'.engaged sourceId = false := by
  cases call with
  | attemptSourceAutoPublication sourceId' =>
    obtain rfl : candidates = [] := hnothing
    obtain rfl := Option.some.inj h
    rfl
  | confirmSourcePublication sourceId' actorAddress candidateId =>
    obtain rfl := Option.some.inj h
    have hnone : candidates.find? (fun candidate => decide (candidate.1 = candidateId)) = none :=
      List.find?_eq_none.mpr fun candidate hmem heq =>
        hnothing candidate hmem (of_decide_eq_true heq)
    rw [hnone]
    rfl
  | rejectSourcePublication => exact absurd h nofun

/-- The choice of a call, as it is made. -/
theorem choose_of_act {O : Operator} {call : PublicationCall} {source : SourceRecord}
    (h : Publisher.act O (.next now) s (.choosing call source) = some (s', p')) :
    Publisher.choose (readSourceExtractionCandidates s.db call.sourceId) source call = some p' := by
  obtain ⟨hnext, -⟩ := Publisher.next_of_act h
  obtain ⟨p'', hchoose, heq⟩ := Option.map_eq_some_iff.mp hnext
  rw [hchoose, (Prod.mk.inj heq).2]

/-! ### A source nobody goes on with -/

/-- The source of another key stays rejected. -/
theorem isRejected_update {sourceId' : ℕ} {f : SourceRecord → SourceRecord}
    (h : IsRejected sourceId db) (hne : sourceId' ≠ sourceId) :
    IsRejected sourceId { db with sources := db.sources.update sourceId' f } := by
  obtain ⟨source, hrow, hstatus⟩ := h
  exact ⟨source, (Sql.Serial.update_of_ne _ hne.symm _).trans hrow, hstatus⟩

/-- Rejecting a source that has no claim. -/
theorem isRejected_of_reject (hsource : (db.sources sourceId).isSome = true)
    (hnone : db.publishedClaimId sourceId = none) :
    IsRejected sourceId (updateSourceRecordStatus now db sourceId .rejected) := by
  obtain ⟨source, hrow⟩ := Option.isSome_iff_exists.mp hsource
  refine ⟨{ source with status := .rejected, updatedAt := now }, ?_, rfl,
    (publishedClaimId_eq hrow).symm.trans hnone⟩
  rw [updateSourceRecordStatus, Sql.Serial.update_self, hrow, Option.map_some]

/-- **A call that has not gone on** leaves a rejected source as it is. -/
theorem IsRejected.effect (h : IsRejected sourceId s.db) (heffect : PublishEffect s p a db' p')
    (hout : p.engaged sourceId = false) : IsRejected sourceId db' := by
  have hne : ∀ {sourceId'}, p.engaged sourceId' = true → sourceId' ≠ sourceId := by
    rintro sourceId' hengaged rfl
    exact absurd (hout.symm.trans hengaged) Bool.false_ne_true
  cases heffect with
  | quiet | invoke | ready | reconcile | sync | complete => exact h
  | reserve =>
    unfold reserveSourcePublicationAttempt
    split <;> exact h
  | display hp => exact isRejected_update h (hne (by rw [hp]; exact decide_eq_true rfl))
  | mark hp => exact isRejected_update h (hne (by rw [hp]; exact decide_eq_true rfl))
  | @reject now sourceId' reason hp =>
    by_cases hsource : sourceId' = sourceId
    · obtain ⟨source, hrow, -, hnone⟩ := h
      rw [hsource]
      exact isRejected_of_reject (Option.isSome_of_eq_some hrow)
        ((publishedClaimId_eq hrow).trans hnone)
    · exact isRejected_update h hsource

theorem isRejected_of_outlying (h : IsRejected sourceId db) (hout : Outlying db db') :
    IsRejected sourceId db' := by
  obtain ⟨source, hrow, hstatus⟩ := h
  exact ⟨source, hout.source hrow, hstatus⟩

variable {ι : Type} [DecidableEq ι] {O : Operator} {tr tr₁ tr₂ : List (PublicationEvent ι)}
  {e : PublicationEvent ι} {c c' : Config ι PublicationState Publisher}
  {l : Label ι PublisherAction Outside}

/-- A source is rejected, and no call goes on with it. -/
structure LeftAlone (sourceId : ℕ) (c : Config ι PublicationState Publisher) : Prop where
  rejected : IsRejected sourceId c.shared.db
  out : ∀ i, (c.process i).engaged sourceId = false

/-- **It stays so** if the calls that choose stay out. -/
theorem LeftAlone.step (h : LeftAlone sourceId c) (hstep : (publication O).Step c l c')
    (hstays : StaysOut sourceId (⟨c, l, c'⟩ : PublicationEvent ι)) : LeftAlone sourceId c' := by
  cases hstep with
  | env henv => exact ⟨isRejected_of_outlying h.rejected (outlying_of_outside henv), h.out⟩
  | @act i a s p hact =>
    have heffect := (Publisher.act_effect hact).1
    refine ⟨h.rejected.effect heffect (h.out i), fun j => ?_⟩
    by_cases hji : j = i
    · subst hji
      simp only [Function.update_self]
      refine Bool.eq_false_iff.mpr fun hengaged => ?_
      rcases heffect.engaged hengaged with hold | ⟨now, call, source, rfl, hp, rfl⟩
      · exact absurd ((h.out j).symm.trans hold) Bool.false_ne_true
      · have hnothing := hstays j now call source rfl hp rfl h.rejected
        rw [hp] at hact
        exact absurd ((not_engaged_of_findsNothing hnothing (choose_of_act hact)).symm.trans
          hengaged) Bool.false_ne_true
    · simp only [Function.update_of_ne hji]
      exact h.out j

/-- **The rejection of a source nobody goes on with.** -/
theorem leftAlone_of_rejects (h : (publication O).Run tr c) (hstep : (publication O).Step c l c')
    (hrejects : Rejects sourceId (⟨c, l, c'⟩ : PublicationEvent ι))
    (halone : RejectsAlone sourceId (⟨c, l, c'⟩ : PublicationEvent ι)) :
    LeftAlone sourceId c' := by
  obtain ⟨hnone, hout⟩ := halone hrejects
  obtain ⟨i, now, reason, hlabel, hp⟩ := hrejects
  change (c.process i) = _ at hp
  obtain rfl : l = _ := hlabel
  cases hstep with
  | @act _ _ s p hact =>
    rw [hp] at hact
    obtain ⟨hdb, rfl⟩ := Prod.mk.inj (Option.some.inj (Publisher.next_of_act hact).1)
    refine ⟨?_, fun j => ?_⟩
    · change IsRejected sourceId s.db
      rw [← hdb]
      have hgrounded := (grounded_of_run h).2 i
      rw [hp] at hgrounded
      exact isRejected_of_reject hgrounded hnone
    · by_cases hji : j = i
      · subst hji
        simp only [Function.update_self]
        rfl
      · simp only [Function.update_of_ne hji]
        exact hout j

/-- After a rejection a source is left alone. -/
theorem leftAlone_of_run (h : (publication O).Run (tr₁ ++ e :: tr₂) c)
    (hrejects : Rejects sourceId e) (halone : RejectsAlone sourceId e)
    (hstays : ∀ e' ∈ tr₂, StaysOut sourceId e') : LeftAlone sourceId c := by
  generalize htr : tr₁ ++ e :: tr₂ = tr at h
  induction h generalizing tr₂ with
  | genesis _ => simp at htr
  | @snoc tr c c' l hrun hstep ih =>
    rcases List.eq_nil_or_concat tr₂ with rfl | ⟨tr₂, e', rfl⟩
    · obtain ⟨rfl, he⟩ := List.append_inj' htr rfl
      obtain rfl := (List.cons.inj he).1
      exact leftAlone_of_rejects hrun hstep hrejects halone
    · rw [List.concat_eq_append, ← List.cons_append, ← List.append_assoc] at htr
      obtain ⟨htr', he⟩ := List.append_inj' htr rfl
      obtain rfl := (List.cons.inj he).1
      rw [List.concat_eq_append] at hstays
      exact (ih (fun e' he' => hstays e' (List.mem_append_left _ he')) htr').step hstep
        (hstays _ (List.mem_append_right tr₂ List.mem_cons_self))

/-- **When a rejection is final**: in any history, if each source is rejected while it has no claim
and no call goes on with it, and if calls that choose a candidate of a rejected source find
none. -/
theorem rejectionFinal (h : (publication O).Run tr c)
    (halone : ∀ e ∈ tr, RejectsAlone sourceId e) (hstays : ∀ e ∈ tr, StaysOut sourceId e) :
    RejectionFinal O sourceId tr c.shared.db := by
  refine ⟨fun e he hrejects => ?_, ?_, ?_⟩
  · obtain ⟨tr₁, tr₂, rfl⟩ := List.append_of_mem he
    exact (leftAlone_of_run h hrejects (halone e he) fun e' he' =>
      hstays e' (List.mem_append_right tr₁ (List.mem_cons_of_mem _ he'))).rejected
  · rintro tr₁ e tr₂ rfl hrejects e' he'
    have halone' := halone e (List.mem_append_right tr₁ List.mem_cons_self)
    rcases List.mem_cons.mp he' with rfl | he'
    · exact (leftAlone_of_run h.upTo hrejects halone' fun _ hmem =>
        absurd hmem List.not_mem_nil).rejected
    · obtain ⟨tr₂₁, tr₂₂, rfl⟩ := List.append_of_mem he'
      rw [← List.cons_append, ← List.append_assoc] at h
      have hrun := h.upTo
      rw [List.append_assoc, List.cons_append] at hrun
      refine (leftAlone_of_run hrun hrejects halone' fun e'' he'' => hstays e'' ?_).rejected
      rcases List.mem_append.mp he'' with he'' | he''
      · exact List.mem_append_right tr₁ (List.mem_cons_of_mem _ (List.mem_append_left _ he''))
      · rw [List.mem_singleton.mp he'']
        exact List.mem_append_right tr₁ (List.mem_cons_of_mem _ he')
  · rintro tr₁ e tr₂ rfl hrejects e' he' ⟨i, tx, w', -, htx, rfl, -⟩
    obtain ⟨tr₂₁, tr₂₂, rfl⟩ := List.append_of_mem he'
    rw [← List.cons_append, ← List.append_assoc] at h
    have hleft := leftAlone_of_run h.split.1 hrejects
      (halone e (List.mem_append_right tr₁ List.mem_cons_self)) fun e'' he'' =>
        hstays e'' (List.mem_append_right tr₁ (List.mem_cons_of_mem _
          (List.mem_append_left _ he'')))
    exact absurd ((hleft.out i).symm.trans (engaged_of_inFlight htx)) Bool.false_ne_true

/-- Who finds no candidates has none to go on with. -/
theorem findsNothing_nil (call : PublicationCall) : call.FindsNothing [] := by
  cases call with
  | attemptSourceAutoPublication => rfl
  | confirmSourcePublication => exact fun candidate hmem => absurd hmem List.not_mem_nil
  | rejectSourcePublication => trivial

end

/-! ### A rejected page -/

/-- A call is about to reject the page. -/
def beginRejection : List (ℕ × PublisherAction) :=
  [(0, .call (.rejectSourcePublication 1 0xAA "")), (0, .next 0)]

/-- An automatic call has read the page when it is rejected, and another one begins after that; a
person confirms a candidate. There is none of the page so far. -/
def rejectedPage : List (ℕ × PublisherAction) :=
  [(2, .call (.attemptSourceAutoPublication 1)), (2, .next 0)] ++ beginRejection ++
    [(0, .next 0), (2, .next 1), (1, .call (.confirmSourcePublication 1 0xAA 2)), (1, .next 1),
      (3, .call (.attemptSourceAutoPublication 1)), (3, .next 2), (3, .next 2)]

def playRejectedPage : Option (List (PublicationEvent ℕ) × Config ℕ PublicationState Publisher) :=
  (publication devnetOperator).play rejectedPage
    ⟨⟨{ pageDb with candidates := .empty },
      ((playDevnet openPublication).get openPublication_possible).2⟩, fun _ => .idle⟩

theorem rejectedPage_possible : playRejectedPage.isSome := by decide

theorem run_rejectedPage : (publication devnetOperator).Run
    (playRejectedPage.get rejectedPage_possible).1
    (playRejectedPage.get rejectedPage_possible).2 :=
  Processes.run_play (M := publication devnetOperator)
    (s := ⟨{ pageDb with candidates := .empty },
      ((playDevnet openPublication).get openPublication_possible).2⟩)
    ⟨(run_playDevnet openPublication_possible).reachable, unpublished_pageDb.attempts,
      unpublished_pageDb.sources⟩ rejectedPage_possible

/-- No call goes on with the page. -/
theorem rejectedPage_engaged : ∀ e ∈ (playRejectedPage.get rejectedPage_possible).1, ∀ j,
    (e.before.process j).engaged 1 = false := by
  intro e he j
  by_cases hj : j < 4
  · have hall : ∀ e ∈ (playRejectedPage.get rejectedPage_possible).1, ∀ j < 4,
        (e.before.process j).engaged 1 = false := by decide
    exact hall e he j hj
  · have hmoves : ∀ move ∈ rejectedPage, move.1 < 4 := by decide
    have hplay : playRejectedPage = some ((playRejectedPage.get rejectedPage_possible).1,
      (playRejectedPage.get rejectedPage_possible).2) :=
        (Option.some_get rejectedPage_possible).symm
    have hnever : ∀ move ∈ rejectedPage, move.1 ≠ j := by
      rintro move hmove rfl
      exact hj (hmoves move hmove)
    have hidle : e.before.process j = .idle :=
      Processes.process_of_play (M := publication devnetOperator) hplay hnever e he
    rw [hidle]
    rfl

/-- **The page stays rejected**: the automatic calls find no candidate, and the person is
refused. -/
theorem rejectionFinal_rejectedPage :
    ((playRejectedPage.get rejectedPage_possible).2.process 1 = .threw "source_rejected" none) ∧
      RejectionFinal devnetOperator 1 (playRejectedPage.get rejectedPage_possible).1
        (playRejectedPage.get rejectedPage_possible).2.shared.db := by
  have hnone : ∀ e ∈ (playRejectedPage.get rejectedPage_possible).1,
      e.before.shared.db.publishedClaimId 1 = none := by decide
  have hcandidates : ∀ e ∈ (playRejectedPage.get rejectedPage_possible).1,
      readSourceExtractionCandidates e.before.shared.db 1 = [] := by decide
  refine ⟨by decide, rejectionFinal run_rejectedPage
    (fun e he _ => ⟨hnone e he, rejectedPage_engaged e he⟩)
    fun e he i now call source _ _ _ _ => ?_⟩
  rw [hcandidates e he]
  exact findsNothing_nil call

/-- Another extraction of the page is submitted after that, and the page is made a claim of. -/
def rejectedInVain : List (ℕ × PublisherAction) :=
  beginRejection ++ (0, .next 0) ::
    (claimPage 1 (.attemptSourceAutoPublication 1) ++ [(1, .next 1)])

theorem rejectedInVain_possible : (playPublication rejectedInVain).isSome := by decide +kernel

/-- **A rejected source is made a claim of**, and shown as ready. -/
theorem rejected_and_claimed :
    ∃ (tr : List (PublicationEvent ℕ)) (c : Config ℕ PublicationState Publisher),
      (publication devnetOperator).Run tr c ∧
        (c.shared.db.sources 1).map SourceRecord.status = some .readyForPublication ∧
        c.shared.db.attemptClaimId 1 = some 1 ∧
        ¬RejectionFinal devnetOperator 1 tr c.shared.db := by
  have hstatus : (((playPublication rejectedInVain).get
      rejectedInVain_possible).2.shared.db.sources 1).map SourceRecord.status =
        some .readyForPublication := by decide +kernel
  have hplay : playPublication rejectedInVain =
      some (((playPublication rejectedInVain).get rejectedInVain_possible).1,
        ((playPublication rejectedInVain).get rejectedInVain_possible).2) :=
    (Option.some_get rejectedInVain_possible).symm
  obtain ⟨tr₁, e, tr₂, htr, hbefore, hlabel⟩ :=
    Processes.play_split (M := publication devnetOperator) hplay
  have hp : ((playPublication beginRejection).map fun r => r.2.process 0) =
      some (.rejecting 1 "Rejected manually from source review.") := by decide
  have hrejects : Rejects 1 e := by
    refine ⟨0, 0, "Rejected manually from source review.", hlabel, ?_⟩
    rw [playPublication, hbefore] at hp
    exact Option.some.inj hp
  refine ⟨_, _, run_playPublication rejectedInVain_possible, hstatus, by decide +kernel,
    fun hfinal => ?_⟩
  obtain ⟨source, hrow, hrejected, -⟩ := hfinal.stays e
    (by rw [htr]; exact List.mem_append_right tr₁ List.mem_cons_self) hrejects
  rw [hrow, Option.map_some, hrejected] at hstatus
  exact absurd hstatus (by decide)

end ScientificProtocol.Sources
