import ScientificProtocol.Sources.OneClaim

/-!
# What the calls are about

Sources and candidates are never deleted, and a candidate stays one of its source. So what a call
has found is there for as long as the call goes on, and the candidate that an attempt was reserved
with is found by whoever goes on with the attempt (`ScientificProtocol.Sources.grounded_of_run`).
-/

namespace ScientificProtocol.Sources

open Concurrency Evm
open Review (Time)

/-- Sources and candidates stay. -/
structure Includes (db db' : SourceDb) : Prop where
  source : ∀ {sourceId}, (db.sources sourceId).isSome = true →
    (db'.sources sourceId).isSome = true
  candidate : ∀ {candidateId candidate}, db.candidates candidateId = some candidate →
    ∃ candidate', db'.candidates candidateId = some candidate' ∧
      candidate'.sourceId = candidate.sourceId

/-- An attempt is of a source that is there, with a candidate of it. -/
def AttemptsGrounded (db : SourceDb) : Prop :=
  ∀ sourceId attempt, db.publicationAttempts sourceId = some attempt →
    (db.sources sourceId).isSome = true ∧
      ∃ candidate, db.candidates attempt.candidateId = some candidate ∧
        candidate.sourceId = sourceId

section

variable {db db' : SourceDb} {s : PublicationState} {p p' : Publisher} {a : PublisherAction}

theorem Publisher.Grounded.mono (h : p.Grounded db) (hincl : Includes db db') : p.Grounded db' := by
  cases p with
  | choosing | rejecting => exact hincl.source h
  | reserving draft =>
    obtain ⟨hsource, candidate, hrow, hat⟩ := h
    obtain ⟨candidate', hrow', hat'⟩ := hincl.candidate hrow
    exact ⟨hincl.source hsource, candidate', hrow', hat'.trans hat⟩
  | _ => trivial

/-- The rows of sources change, and stay. -/
theorem includes_update {sourceId : ℕ} {f : SourceRecord → SourceRecord} :
    Includes db { db with sources := db.sources.update sourceId f } := by
  refine ⟨fun {sourceId'} hsource => ?_, fun hrow => ⟨_, hrow, rfl⟩⟩
  rw [Sql.Serial.update_apply]
  split
  · rwa [Option.isSome_map]
  · exact hsource

theorem PublishEffect.includes (h : PublishEffect s p a db' p') : Includes s.db db' := by
  cases h with
  | quiet | invoke | ready | reconcile | sync | complete => exact ⟨id, fun hrow => ⟨_, hrow, rfl⟩⟩
  | reserve =>
    unfold reserveSourcePublicationAttempt
    split <;> exact ⟨id, fun hrow => ⟨_, hrow, rfl⟩⟩
  | display | mark | reject => exact includes_update

theorem Outlying.includes (h : Outlying db db') : Includes db db' := by
  refine ⟨fun hsource => ?_, h.candidate⟩
  obtain ⟨source, hrow⟩ := Option.isSome_iff_exists.mp hsource
  exact Option.isSome_of_eq_some (h.source hrow)

theorem Publisher.Grounded.effect (h : p.Grounded s.db) (heffect : PublishEffect s p a db' p') :
    p'.Grounded db' := by
  cases heffect with
  | quiet _ _ _ _ hgrounded => exact hgrounded h
  | _ => trivial

theorem AttemptsGrounded.mono (h : AttemptsGrounded db) (hincl : Includes db db')
    (hattempts : ∀ sourceId attempt', db'.publicationAttempts sourceId = some attempt' →
      ∃ attempt, db.publicationAttempts sourceId = some attempt ∧
        attempt.candidateId = attempt'.candidateId) : AttemptsGrounded db' := by
  intro sourceId attempt' hattempt'
  obtain ⟨attempt, hattempt, hid⟩ := hattempts sourceId attempt' hattempt'
  obtain ⟨hsource, candidate, hrow, hat⟩ := h sourceId attempt hattempt
  obtain ⟨candidate', hrow', hat'⟩ := hincl.candidate hrow
  exact ⟨hincl.source hsource, candidate', hid ▸ hrow', hat'.trans hat⟩

/-- An attempt goes on with its candidate. -/
theorem candidateId_of_update {f : SourcePublicationAttempt → SourcePublicationAttempt}
    (hf : ∀ attempt, (f attempt).candidateId = attempt.candidateId) {sourceId' : ℕ} :
    ∀ sourceId attempt', db.publicationAttempts.update sourceId' f sourceId = some attempt' →
      ∃ attempt, db.publicationAttempts sourceId = some attempt ∧
        attempt.candidateId = attempt'.candidateId := by
  intro sourceId attempt' hattempt'
  obtain ⟨attempt, hattempt, rfl⟩ := Sql.Table.update_eq_some.mp hattempt'
  refine ⟨attempt, hattempt, ?_⟩
  split
  · exact (hf attempt).symm
  · rfl

theorem AttemptsGrounded.effect (h : AttemptsGrounded s.db) (hgrounded : p.Grounded s.db)
    (heffect : PublishEffect s p a db' p') : AttemptsGrounded db' := by
  have hincl := heffect.includes
  cases heffect with
  | quiet | invoke => exact h
  | sync | display | mark | reject =>
    exact h.mono hincl fun _ attempt hattempt => ⟨attempt, hattempt, rfl⟩
  | @ready now draft claimId hp =>
    have hkept : ∀ attempt : SourcePublicationAttempt,
      (attempt.ready now claimId).candidateId = attempt.candidateId := fun _ => rfl
    exact h.mono hincl (candidateId_of_update hkept)
  | reconcile =>
    refine h.mono hincl (candidateId_of_update fun attempt => ?_)
    unfold SourcePublicationAttempt.reconcile
    split <;> rfl
  | complete =>
    refine h.mono hincl (candidateId_of_update fun attempt => ?_)
    unfold SourcePublicationAttempt.complete
    split <;> rfl
  | @reserve now draft hp =>
    rw [hp] at hgrounded
    unfold reserveSourcePublicationAttempt
    split
    next => exact h
    next =>
      intro sourceId attempt hattempt
      change s.db.publicationAttempts.set _ _ sourceId = some attempt at hattempt
      rw [Sql.Table.set_apply] at hattempt
      split at hattempt
      next hsource =>
        obtain rfl := Option.some.inj hattempt
        rw [hsource]
        exact hgrounded
      next => exact h sourceId attempt hattempt

variable {ι : Type} [DecidableEq ι] {O : Operator} {tr : List (PublicationEvent ι)}
  {c : Config ι PublicationState Publisher}

/-- **What attempts and calls are about is there**, at the end of every history. -/
theorem grounded_of_run (h : (publication O).Run tr c) :
    AttemptsGrounded c.shared.db ∧ ∀ i, (c.process i).Grounded c.shared.db := by
  refine Processes.Run.owned (I := fun _ s => AttemptsGrounded s.db)
    (O := fun _ s _ p => p.Grounded s.db) ?_ ?_ ?_ h
  · rintro s ⟨-, hnew⟩
    exact ⟨fun sourceId attempt hattempt =>
      absurd ((hnew.attempts sourceId).symm.trans hattempt) nofun, fun _ => trivial⟩
  · intro tr c i a s p _ hattempts hgrounded hact
    have heffect := (Publisher.act_effect hact).1
    exact ⟨hattempts.effect (hgrounded i) heffect, (hgrounded i).effect heffect,
      fun j _ => (hgrounded j).mono heffect.includes⟩
  · intro tr c b s _ hattempts hgrounded henv
    have hout := outlying_of_outside henv
    refine ⟨hattempts.mono hout.includes fun sourceId attempt hattempt => ⟨attempt, ?_, rfl⟩,
      fun j => (hgrounded j).mono hout.includes⟩
    rwa [← hout.attempts]

end

end ScientificProtocol.Sources
