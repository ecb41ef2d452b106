import ScientificProtocol.Claims.History
import ScientificProtocol.Escrow.Conservation

/-!
# The publication gate

What one step of the protocol does to the record of one claim is little
(`ScientificProtocol.ClaimChange`): it leaves it alone, it writes it for the first time, or it
moves its status. The first writing puts the claim in `Draft`, asks for at least the bond
governance asks for at that moment, and never changes that amount again. The way out of
`Draft` is through the bond check of `setClaimStatus`, or directly to `Deprecated`: the other
function that moves a status, `finalizeClaimResolution`, derives it from a resolution, and no
resolution says `Published`.

So whatever a claim has been since, a bond of at least the required amount was in the escrow
when it was published. The escrow may have given the bond back or lost it to a slash in the
meantime; nothing here says that it is still there.
-/

namespace ScientificProtocol

open Evm

/-- The minimum of the author bond governance asks for. -/
def minimumAuthorBond (D : Deployment) (w : World) : ℕ :=
  w.protocolParameters.getUintParameter (ClaimRegistry.minAuthorBondParameterKey D)

/-- The bond of the author of a claim that is in the escrow. -/
def escrowedBond (w : World) (id : ℕ) : ℕ := w.bondEscrow.authorBondBalances id

/-! ### What a step does to one claim -/

/-- **What a step from the world `w` does to the claim numbered `id`.** -/
inductive ClaimChange (D : Deployment) (w : World) (id : ℕ) : ClaimRecord → Prop
  | unchanged : ClaimChange D w id (w.claimRegistry.claims id)
  | created {record : ClaimRecord} :
      id = w.claimRegistry.nextClaimId → record.claimId = id → record.status = .draft →
      minimumAuthorBond D w ≤ record.requiredAuthorBond →
      (record.revisionOfClaimId = 0 ∨
        ((w.claimRegistry.claims record.revisionOfClaimId).claimId ≠ 0 ∧
          (w.claimRegistry.claims record.revisionOfClaimId).summary.author =
            record.summary.author)) →
      ClaimChange D w id record
  | moved {status : ClaimStatus} :
      (w.claimRegistry.claims id).claimId ≠ 0 →
      ClaimRegistry.isAllowedTransition (w.claimRegistry.claims id).status status = true →
      (status = .published →
        (w.claimRegistry.claims id).requiredAuthorBond ≤ escrowedBond w id) →
      ClaimChange D w id { w.claimRegistry.claims id with status }

/-- No resolution says that a claim is published. -/
theorem ne_published_of_getClaimStatusForResolution {status : ResolutionStatus}
    {claimStatus : ClaimStatus}
    (h : ClaimRegistry.getClaimStatusForResolution status = .ok claimStatus) :
    claimStatus ≠ .published := by
  rintro rfl
  cases status <;> simp [ClaimRegistry.getClaimStatusForResolution] at h

/-- The check before publication asks for the bond to be in the escrow. -/
theorem le_escrowedBond_of_requireAuthorBond {w : World} {id : ℕ}
    (h : w.claimRegistry.requireAuthorBond (w.bondEscrow.toIBondEscrow w.claimRegistry) id =
      .ok ()) : (w.claimRegistry.claims id).requiredAuthorBond ≤ escrowedBond w id := by
  simp only [ClaimRegistry.requireAuthorBond, BondEscrow.toIBondEscrow,
    BondEscrow.isAuthorBondSatisfied, ClaimRegistry.getRequiredAuthorBond,
    ClaimRegistry.requireExistingClaim, bind_eq_ok, revertIf_eq_ok, pure_eq_ok,
    Except.ok.injEq] at h
  obtain ⟨-, -, satisfied, ⟨required, ⟨record, ⟨-, -, rfl⟩, rfl⟩, rfl⟩, hsatisfied⟩ := h
  simpa [escrowedBond] using hsatisfied

section

variable {D : Deployment} {a : Action Message Suspended} {c : Config World Suspended}
  {tr : List ProtocolEvent} {w w' : World}

/-- **A call of the claim registry changes every claim in one of these ways.** -/
theorem ClaimRegistry.Step.claimChange {m : Message} {call : Call} {s : ClaimRegistry}
    (h : Step (w.context D m) w.protocolParameters w.resolutionModuleRegistry
      w.replicationRegistry (w.bondEscrow.toIBondEscrow w.claimRegistry) w.claimRegistry call s)
    (id : ℕ) : ClaimChange D w id (s.claims id) := by
  -- A new claim is in the next slot, and every other slot is left alone.
  have hcreated : ∀ {summary amount prior module},
      w.claimRegistry.Creatable (w.context D m) w.protocolParameters w.resolutionModuleRegistry
        summary amount module →
      (prior = 0 ∨ ((w.claimRegistry.claims prior).claimId ≠ 0 ∧
        (w.claimRegistry.claims prior).summary.author = summary.author)) →
      ClaimChange D w id ((created (w.context D m) w.resolutionModuleRegistry w.claimRegistry
        summary amount prior module).claims id) := by
    intro summary amount prior module hcreatable hprior
    by_cases hid : id = w.claimRegistry.nextClaimId
    · rw [hid]
      simp only [created, Mapping.set_self]
      exact .created rfl rfl rfl hcreatable.minimumBond_le hprior
    · simp only [created, Mapping.set_of_ne _ hid]
      exact .unchanged
  cases h with
  | configureProtocolDependencies | requestServed => exact .unchanged
  | createClaim _ hcreatable | createClaimOnBehalf _ _ hcreatable
  | createClaimOnBehalfWithRequestHash _ _ _ _ hcreatable =>
    exact hcreated hcreatable (.inl rfl)
  | reviseClaim hexists hauthor howner _ hcreatable =>
    exact hcreated hcreatable (.inr ⟨hexists, howner.trans hauthor.symm⟩)
  | @setClaimStatus claimId newStatus _ _ hexists _ hallowed hbond =>
    by_cases hid : id = claimId
    · subst hid
      simp only [Mapping.set_self]
      exact .moved hexists hallowed fun hpublished =>
        le_escrowedBond_of_requireAuthorBond (hbond hpublished)
    · simp only [Mapping.set_of_ne _ hid]
      exact .unchanged
  | @finalizeClaimResolution claimId r decision _ _ _ _ hexists _ _ _ _ hstatus _ hdecision =>
    have hclaim : decision.claimId = claimId := by
      rw [hdecision]
      rfl
    by_cases hid : id = decision.claimId
    · subst hid
      by_cases htakes : w.claimRegistry.TakesEffect decision.claimId decision.claimStatus
      · rw [(w.claimRegistry.withDecision_of_takesEffect htakes).1]
        rcases htakes with hallowed | ⟨hconfirms, -⟩
        · exact .moved (hclaim ▸ hexists) hallowed fun hpublished =>
            absurd hpublished (ne_published_of_getClaimStatusForResolution hstatus)
        -- A decision that confirms the status writes back what is there.
        · rw [hconfirms]
          exact .unchanged
      · rw [(w.claimRegistry.withDecision_of_not_takesEffect htakes).1]
        exact .unchanged
    · rw [w.claimRegistry.withDecision_claims_of_ne hid]
      exact .unchanged

theorem claimChange_of_effect (h : (protocol D).Effect a w w') (id : ℕ) :
    ClaimChange D w id (w'.claimRegistry.claims id) := by
  rcases (World.step_of_effect h).claimRegistry_cases with heq | ⟨m, call, -, -, hstep⟩
  · rw [heq]
    exact .unchanged
  · exact hstep.claimChange id

/-! ### What never changes of a claim -/

/-- A claim keeps everything but its status. -/
def ClaimKept (record record' : ClaimRecord) : Prop :=
  record.claimId ≠ 0 → record' = { record with status := record'.status }

theorem ClaimKept.refl (record : ClaimRecord) : ClaimKept record record := fun _ => rfl

theorem ClaimKept.trans {r₁ r₂ r₃ : ClaimRecord} (h₁₂ : ClaimKept r₁ r₂) (h₂₃ : ClaimKept r₂ r₃) :
    ClaimKept r₁ r₃ := fun hexists => by
  have h₁ := h₁₂ hexists
  have h₂ := h₂₃ (by rw [h₁]; exact hexists)
  rw [h₂, h₁]

theorem claimKept_of_effect (hc : (protocol D).Reachable c)
    (h : (protocol D).Effect a c.world w') (id : ℕ) :
    ClaimKept (c.world.claimRegistry.claims id) (w'.claimRegistry.claims id) := by
  rcases (World.step_of_effect h).claimRegistry_cases with heq | ⟨m, call, -, -, hstep⟩
  · rw [heq]
    exact .refl _
  · exact fun hexists => hstep.claim_kept (registries_indexed hc).1 hexists

/-- Both sides of every step of a history are kept to its end. -/
theorem claimKept_of_run (h : (protocol D).Run tr c) (id : ℕ) :
    ∀ e ∈ tr, ClaimKept (e.before.claimRegistry.claims id) (c.world.claimRegistry.claims id) ∧
      ClaimKept (e.after.claimRegistry.claims id) (c.world.claimRegistry.claims id) :=
  h.event_relation (R := fun w w' => ClaimKept (w.claimRegistry.claims id)
    (w'.claimRegistry.claims id)) (fun _ => .refl _) .trans
    fun hrun heffect => claimKept_of_effect hrun.reachable heffect id

/-! ### The gate -/

/-- The claim has been published and is not deprecated. -/
def isPublicStatus : ClaimStatus → Bool
  | .published | .underReplication | .provisionallySupported | .qualified | .refuted
  | .fraudulent => true
  | .draft | .deprecated => false

/-- The step creates the claim. -/
def CreatesClaim (id : ℕ) (e : ProtocolEvent) : Prop :=
  (e.before.claimRegistry.claims id).claimId = 0 ∧ (e.after.claimRegistry.claims id).claimId ≠ 0

/-- **The step takes the claim through the gate**: out of `Draft`, to `Published`, with the
bond of its author in the escrow. -/
structure PassesGate (id : ℕ) (e : ProtocolEvent) : Prop where
  exists_before : (e.before.claimRegistry.claims id).claimId ≠ 0
  draft : (e.before.claimRegistry.claims id).status = .draft
  published : (e.after.claimRegistry.claims id).status = .published
  bonded : (e.before.claimRegistry.claims id).requiredAuthorBond ≤ escrowedBond e.before id

/-- A step that creates a claim puts it in `Draft` and asks for the minimum at least. -/
theorem ClaimChange.of_creates {id : ℕ} {record : ClaimRecord} (h : ClaimChange D w id record)
    (hblank : (w.claimRegistry.claims id).claimId = 0) (hexists : record.claimId ≠ 0) :
    record.status = .draft ∧ minimumAuthorBond D w ≤ record.requiredAuthorBond := by
  cases h with
  | unchanged => exact absurd hblank hexists
  | created _ _ hdraft hminimum => exact ⟨hdraft, hminimum⟩
  | moved hexists' => exact absurd hblank hexists'

/-- **Two ways lead out of `Draft`**: through the check, or to `Deprecated`. -/
theorem ClaimChange.of_leaves {id : ℕ} {record : ClaimRecord} (h : ClaimChange D w id record)
    (hdraft : (w.claimRegistry.claims id).status = .draft) (hleaves : record.status ≠ .draft) :
    record.status = .deprecated ∨
      ((w.claimRegistry.claims id).claimId ≠ 0 ∧ record.status = .published ∧
        (w.claimRegistry.claims id).requiredAuthorBond ≤ escrowedBond w id) := by
  cases h with
  | unchanged => exact absurd hdraft hleaves
  | created _ _ hdraft' => exact absurd hdraft' hleaves
  | @moved status hexists hallowed hbond =>
    rw [hdraft] at hallowed
    rcases of_decide_eq_true hallowed with hpublished | hdeprecated
    · exact .inr ⟨hexists, hpublished, hbond hpublished⟩
    · exact .inl hdeprecated

/-- A claim that is public after a step was public before it, or passed the gate in it. -/
theorem public_or_passesGate (h : (protocol D).Effect a w w') {id : ℕ}
    (hpublic : isPublicStatus (w'.claimRegistry.claims id).status = true) :
    isPublicStatus (w.claimRegistry.claims id).status = true ∨ PassesGate id ⟨w, a, w'⟩ := by
  have hchange := claimChange_of_effect h id
  have hnot : (w'.claimRegistry.claims id).status ≠ .draft := fun hdraft => by
    rw [hdraft] at hpublic
    exact Bool.false_ne_true hpublic
  rcases hstatus : (w.claimRegistry.claims id).status with _ | _ | _ | _ | _ | _ | _ | _
  case draft =>
    rcases hchange.of_leaves hstatus hnot with hdeprecated | ⟨hexists, hpublished, hbond⟩
    · rw [hdeprecated] at hpublic
      exact absurd hpublic Bool.false_ne_true
    · exact .inr ⟨hexists, hstatus, hpublished, hbond⟩
  -- Nothing leaves `Deprecated`.
  case deprecated =>
    generalize w'.claimRegistry.claims id = record at hchange hpublic hnot
    cases hchange with
    | unchanged =>
      rw [hstatus] at hpublic
      exact absurd hpublic Bool.false_ne_true
    | created _ _ hdraft => exact absurd hdraft hnot
    | moved _ hallowed =>
      rw [hstatus] at hallowed
      exact absurd hallowed Bool.false_ne_true
  all_goals exact .inl rfl

theorem exists_createsClaim (h : (protocol D).Run tr c) (id : ℕ)
    (hexists : (c.world.claimRegistry.claims id).claimId ≠ 0) : ∃ e ∈ tr, CreatesClaim id e := by
  revert hexists
  refine h.history (Q := fun tr w => (w.claimRegistry.claims id).claimId ≠ 0 →
    ∃ e ∈ tr, CreatesClaim id e) ?_ fun {tr c a w'} hrun ih heffect hexists => ?_
  · rintro _ ⟨now, hasRole, -, -, rfl⟩ hexists
    exact absurd rfl hexists
  · by_cases hbefore : (c.world.claimRegistry.claims id).claimId = 0
    · exact ⟨_, List.mem_append_right tr (List.mem_singleton_self _), hbefore, hexists⟩
    · obtain ⟨e, he, hcreates⟩ := ih hbefore
      exact ⟨e, List.mem_append_left _ he, hcreates⟩

/-- **Every public claim has passed the gate.** -/
theorem exists_passesGate (h : (protocol D).Run tr c) {id : ℕ}
    (hpublic : isPublicStatus (c.world.claimRegistry.claims id).status = true) :
    ∃ e ∈ tr, PassesGate id e := by
  revert hpublic
  refine h.history (Q := fun tr w => isPublicStatus (w.claimRegistry.claims id).status = true →
    ∃ e ∈ tr, PassesGate id e) ?_ fun {tr c a w'} hrun ih heffect hpublic => ?_
  · rintro _ ⟨now, hasRole, -, -, rfl⟩ hpublic
    exact absurd hpublic Bool.false_ne_true
  · rcases public_or_passesGate heffect hpublic with hbefore | hpasses
    · obtain ⟨e, he, hpasses⟩ := ih hbefore
      exact ⟨e, List.mem_append_left _ he, hpasses⟩
    · exact ⟨_, List.mem_append_right tr (List.mem_singleton_self _), hpasses⟩

/-- **What a history tells of publication**, up to the world `w` it has reached. -/
structure PublicationGated (D : Deployment) (tr : List ProtocolEvent) (w : World) : Prop where
  /-- Every claim was created by some step, -/
  created : ∀ id, (w.claimRegistry.claims id).claimId ≠ 0 → ∃ e ∈ tr, CreatesClaim id e
  /-- in `Draft`, and with the bond governance asked for at least, -/
  minimum : ∀ e ∈ tr, ∀ id, CreatesClaim id e →
    (e.after.claimRegistry.claims id).status = .draft ∧
      minimumAuthorBond D e.before ≤ (e.after.claimRegistry.claims id).requiredAuthorBond
  /-- and its required bond is the one it was created with. -/
  required_kept : ∀ e ∈ tr, ∀ id, (e.after.claimRegistry.claims id).claimId ≠ 0 →
    (w.claimRegistry.claims id).requiredAuthorBond =
      (e.after.claimRegistry.claims id).requiredAuthorBond
  /-- Whatever takes it out of `Draft` takes it through the gate or to `Deprecated`. -/
  leaves : ∀ e ∈ tr, ∀ id, (e.before.claimRegistry.claims id).status = .draft →
    (e.after.claimRegistry.claims id).status ≠ .draft →
    (e.after.claimRegistry.claims id).status = .deprecated ∨ PassesGate id e
  /-- A claim that is public has passed the gate, -/
  passed : ∀ id, isPublicStatus (w.claimRegistry.claims id).status = true →
    ∃ g ∈ tr, PassesGate id g
  /-- and one that was public had passed it by then. -/
  passed_before : ∀ past e rest, tr = past ++ e :: rest → ∀ id,
    isPublicStatus (e.before.claimRegistry.claims id).status = true → ∃ g ∈ past, PassesGate id g

/-- **Publication is gated in every history**, in the middle of a call too. -/
theorem publication_gated (h : (protocol D).Run tr c) : PublicationGated D tr c.world where
  created := exists_createsClaim h
  minimum e he id hcreates := by
    obtain ⟨heffect, -⟩ := h.event_effect e he
    exact (claimChange_of_effect heffect id).of_creates hcreates.1 hcreates.2
  required_kept e he id hexists :=
    by rw [(claimKept_of_run h id e he).2 hexists]
  leaves e he id hdraft hleaves := by
    obtain ⟨heffect, -⟩ := h.event_effect e he
    rcases (claimChange_of_effect heffect id).of_leaves hdraft hleaves with
      hdeprecated | ⟨hexists, hpublished, hbond⟩
    · exact .inl hdeprecated
    · exact .inr ⟨hexists, hdraft, hpublished, hbond⟩
  passed id hpublic := exists_passesGate h hpublic
  passed_before past e rest htr id hpublic := by
    subst htr
    obtain ⟨-, fs, hrun⟩ := h.split
    exact exists_passesGate hrun hpublic

/-- Governance asks for a bond of 3, and the author `0xAA` deposits 6 for a claim that
requires 5. It is published, and most of the bond is refunded. -/
def bondedPublication : List (Move Message) :=
  [send 0x0A 0 (.resolutionModuleRegistry (.registerModule 0xC0 "")),
    send 0x0A 0 (.claimRegistry (.configureProtocolDependencies 0xE0 0xE1)),
    send 0x0A 0 (.protocolParameters (.setUintParameter
      0x4d550da678d2e8c9ab52d783f9f54d45f3d894024f9c31314fa9e6095b10e591 3)),
    send 0xAA 0 (.claimRegistry
      (.createClaim { (default : ClaimSummary) with author := 0xAA } 5 0xC0)),
    send 0xAA 6 (.bondEscrow (.depositAuthorBond 1)),
    send 0x0A 0 (.claimRegistry (.setClaimStatus 1 .published)),
    send 0x0A 0 (.bondEscrow (.refundAuthorBond 1 4))]

theorem playDevnet_bondedPublication : (playDevnet bondedPublication).isSome := by
  decide

/-- That claim has passed the gate, although its bond is not in the escrow any more. -/
theorem publication_gated_bondedPublication :
    ∃ g ∈ ((playDevnet bondedPublication).get playDevnet_bondedPublication).1,
      PassesGate 1 g :=
  (publication_gated (run_playDevnet playDevnet_bondedPublication)).passed 1 (by decide)

end

end ScientificProtocol
