import ScientificProtocol.Claims.Publication

/-!
# Artifacts are appended, and stay

`ArtifactRegistry` has one function that changes anything. It takes the next number, writes
the commitment under it and puts the number at the end of the list of its claim, which has
to exist. So the numbers on a list are numbers of commitments
(`ScientificProtocol.ArtifactsIndexed`), no commitment changes, and no number leaves a list
(`ScientificProtocol.ArtifactsKept`).
-/

namespace ScientificProtocol

open Evm

/-- **A step that adds an artifact** to a claim, under the next number. -/
structure AddsArtifact (w w' : World) (claimId : ℕ) (artifact : ArtifactCommitment) : Prop where
  claim_exists : (w.claimRegistry.claims claimId).claimId ≠ 0
  claimRegistry : w'.claimRegistry = w.claimRegistry
  artifactId : artifact.artifactId = w.artifactRegistry.nextArtifactId
  nextArtifactId : w'.artifactRegistry.nextArtifactId = w.artifactRegistry.nextArtifactId + 1
  artifacts : w'.artifactRegistry.artifacts =
    w.artifactRegistry.artifacts.set w.artifactRegistry.nextArtifactId artifact
  claimArtifacts : w'.artifactRegistry.claimArtifacts = w.artifactRegistry.claimArtifacts.set
    claimId (w.artifactRegistry.claimArtifacts claimId ++ [w.artifactRegistry.nextArtifactId])

section

variable {D : Deployment} {a : Action Message Suspended} {c : Config World Suspended}
  {w w' : World}

/-- What a message that adds an artifact does. -/
theorem addsArtifact_of_exec {m : Message} {o : Outcome World Suspended} {claimId : ℕ}
    {artifactType : ArtifactType} {contentDigest metadataHash : Bytes32} {uri : String}
    (htarget : m.target = .artifactRegistry
      (.addArtifact claimId artifactType contentDigest uri metadataHash))
    (h : World.exec D m w = .ok o) :
    AddsArtifact w o.state claimId
        { artifactId := w.artifactRegistry.nextArtifactId, claimId, artifactType, contentDigest,
          uri, metadataHash, submitter := m.sender, createdAt := w.now } ∧
      o.state.artifactRegistry.logs = w.artifactRegistry.logs ++
        [.artifactAdded w.artifactRegistry.nextArtifactId claimId artifactType contentDigest uri
          m.sender] := by
  simp only [World.exec, htarget, map_eq_ok] at h
  obtain ⟨s, hexec, rfl⟩ := h
  simp only [ArtifactRegistry.exec, ArtifactRegistry.addArtifact, bind_eq_ok, map_eq_ok,
    revertIf_eq_ok, checkedAdd_eq_ok, pure_eq_ok, Except.ok.injEq, ClaimRegistry.claimExists,
    decide_eq_true_eq, not_not] at hexec
  obtain ⟨-, -, _, ⟨-, hexists, next, ⟨-, rfl⟩, rfl⟩, rfl⟩ := hexec
  exact ⟨⟨hexists, rfl, rfl, rfl, rfl, rfl⟩, rfl⟩

/-- **How the artifacts move in a step**: they stand still, or one is added. -/
theorem World.Step.artifacts_cases (h : World.Step D a w w') :
    w'.artifactRegistry = w.artifactRegistry ∨
      ∃ m claimId artifactType contentDigest uri metadataHash artifact, a = .exec m ∧
        m.target = .artifactRegistry
          (.addArtifact claimId artifactType contentDigest uri metadataHash) ∧
        artifact.contentDigest = contentDigest ∧ artifact.uri = uri ∧
        AddsArtifact w w' claimId artifact := by
  cases h with
  | @artifactRegistry _ m call s htarget hexec =>
    obtain ⟨claimId, artifactType, contentDigest, uri, metadataHash⟩ := call
    have hmessage : World.exec D m w = .ok (.done { w with artifactRegistry := s }) := by
      simp only [World.exec, htarget, hexec, map_ok]
    exact .inr ⟨m, claimId, artifactType, contentDigest, uri, metadataHash, _, rfl, htarget, rfl,
      rfl, (addsArtifact_of_exec htarget hmessage).1⟩
  | resume p w => cases p <;> exact .inl rfl
  | _ => exact .inl rfl

/-! ### The lists -/

/-- **The numbers on the list of a claim are numbers of commitments**, and only claims that
exist have any. -/
structure ArtifactsIndexed (w : World) : Prop where
  listed_lt : ∀ claimId, ∀ id ∈ w.artifactRegistry.claimArtifacts claimId,
    id < w.artifactRegistry.nextArtifactId
  claim_exists : ∀ claimId, w.artifactRegistry.claimArtifacts claimId ≠ [] →
    (w.claimRegistry.claims claimId).claimId ≠ 0

/-- A claim that does not exist has no artifacts. -/
theorem ArtifactsIndexed.eq_nil (h : ArtifactsIndexed w) {claimId : ℕ}
    (hclaim : (w.claimRegistry.claims claimId).claimId = 0) :
    w.artifactRegistry.claimArtifacts claimId = [] := by
  by_contra hne
  exact h.claim_exists claimId hne hclaim

/-- Only the next number is new on a list. -/
theorem AddsArtifact.mem_claimArtifacts {claimId : ℕ} {artifact : ArtifactCommitment}
    (h : AddsArtifact w w' claimId artifact) {claimId' id : ℕ}
    (hid : id ∈ w'.artifactRegistry.claimArtifacts claimId') :
    id ∈ w.artifactRegistry.claimArtifacts claimId' ∨
      id = w.artifactRegistry.nextArtifactId ∧ claimId' = claimId := by
  rw [h.claimArtifacts, Mapping.set_apply] at hid
  split at hid
  next heq =>
    subst heq
    rcases List.mem_append.mp hid with hold | hnew
    · exact .inl hold
    · exact .inr ⟨List.mem_singleton.mp hnew, rfl⟩
  next => exact .inl hid

/-- A claim that exists goes on existing. -/
theorem claimId_ne_zero_of_effect (hc : (protocol D).Reachable c)
    (h : (protocol D).Effect a c.world w') {claimId : ℕ}
    (hexists : (c.world.claimRegistry.claims claimId).claimId ≠ 0) :
    (w'.claimRegistry.claims claimId).claimId ≠ 0 := by
  rw [claimKept_of_effect hc h claimId hexists]
  exact hexists

theorem artifactsIndexed_of_effect (hc : (protocol D).Reachable c)
    (heffect : (protocol D).Effect a c.world w') (h : ArtifactsIndexed c.world) :
    ArtifactsIndexed w' := by
  have hexists : ∀ claimId, c.world.artifactRegistry.claimArtifacts claimId ≠ [] →
      (w'.claimRegistry.claims claimId).claimId ≠ 0 := fun claimId hne =>
    claimId_ne_zero_of_effect hc heffect (h.claim_exists claimId hne)
  rcases (World.step_of_effect heffect).artifacts_cases with heq |
    ⟨_, claimId, _, _, _, _, _, -, -, -, -, hadds⟩
  · exact ⟨fun claimId => by rw [heq]; exact h.listed_lt claimId,
      fun claimId => by rw [heq]; exact hexists claimId⟩
  · refine ⟨fun claimId' id hid => ?_, fun claimId' hne => ?_⟩
    · rw [hadds.nextArtifactId]
      rcases hadds.mem_claimArtifacts hid with hold | ⟨rfl, -⟩
      · exact (h.listed_lt claimId' id hold).trans (Nat.lt_succ_self _)
      · exact Nat.lt_succ_self _
    · obtain ⟨id, hid⟩ := List.exists_mem_of_ne_nil _ hne
      rcases hadds.mem_claimArtifacts hid with hold | ⟨-, rfl⟩
      · exact hexists claimId' (List.ne_nil_of_mem hold)
      · exact claimId_ne_zero_of_effect hc heffect hadds.claim_exists

/-- The lists are well formed at every observable moment. -/
theorem artifactsIndexed_of_reachable (h : (protocol D).Reachable c) :
    ArtifactsIndexed c.world := by
  refine h.invariant ?_ fun hc hI heffect => artifactsIndexed_of_effect hc heffect hI
  rintro _ ⟨now, hasRole, -, -, rfl⟩
  exact ⟨fun _ id hid => absurd hid List.not_mem_nil, fun _ hne => absurd rfl hne⟩

/-- **What is on a list stays**, with its commitment. -/
def ArtifactsKept (w w' : World) : Prop :=
  ∀ claimId, ∀ id ∈ w.artifactRegistry.claimArtifacts claimId,
    id ∈ w'.artifactRegistry.claimArtifacts claimId ∧
      w'.artifactRegistry.artifacts id = w.artifactRegistry.artifacts id

theorem ArtifactsKept.refl (w : World) : ArtifactsKept w w := fun _ _ hid => ⟨hid, rfl⟩

/-- A commitment is not overwritten. -/
theorem AddsArtifact.artifacts_of_lt {claimId : ℕ} {artifact : ArtifactCommitment}
    (h : AddsArtifact w w' claimId artifact) {id : ℕ}
    (hid : id < w.artifactRegistry.nextArtifactId) :
    w'.artifactRegistry.artifacts id = w.artifactRegistry.artifacts id := by
  rw [h.artifacts]
  exact Mapping.set_of_ne _ (Nat.ne_of_lt hid) _

theorem artifactsKept_of_effect (hc : (protocol D).Reachable c)
    (heffect : (protocol D).Effect a c.world w') : ArtifactsKept c.world w' := by
  have hindexed := artifactsIndexed_of_reachable hc
  intro claimId' id hid
  rcases (World.step_of_effect heffect).artifacts_cases with heq |
    ⟨_, claimId, _, _, _, _, _, -, -, -, -, hadds⟩
  · rw [heq]
    exact ⟨hid, rfl⟩
  · refine ⟨?_, hadds.artifacts_of_lt (hindexed.listed_lt claimId' id hid)⟩
    rw [hadds.claimArtifacts, Mapping.set_apply]
    split
    next heq =>
      subst heq
      exact List.mem_append_left _ hid
    next => exact hid

end

end ScientificProtocol
