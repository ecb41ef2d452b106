import ScientificProtocol.Submission.ClaimCreation

/-!
# A request makes one claim, and one artifact if its attempts keep apart

The contract itself serves a request once, so the claim is made once however the attempts
overlap. Nothing does that for the artifact: two attempts that have both looked for it in
vain both attach it (`ScientificProtocol.Submission.artifact_attached_twice`).

If no attempt looks in vain while another that has may still attach it, and nobody else
attaches it (`ScientificProtocol.Submission.Separate`), it is attached once
(`ScientificProtocol.Submission.createdOnce_of_run`): at most one attempt may attach it at a
time, and while one may, the claim has no such artifact.
-/

namespace ScientificProtocol.Submission

open Evm Concurrency

/-- The request gets its claim in this step. -/
def ClaimRequest.binds {ι : Type} (request : ClaimRequest) (e : SagaEvent ι) : Bool :=
  decide (request.claimOf e.before.shared.world = 0 ∧ request.claimOf e.after.shared.world ≠ 0)

/-- **A request is served once**, in a history of attempts. -/
structure CreatedOnce {ι : Type} (request : ClaimRequest) (tr : List (SagaEvent ι))
    (c : Config ι (Evm.Config World Suspended) ClaimAttempt) : Prop where
  /-- The request gets a claim once, and keeps it, -/
  bound_once : tr.countP request.binds ≤ 1
  bound_kept : ∀ e ∈ tr, request.claimOf e.after.shared.world ≠ 0 →
    request.claimOf c.shared.world = request.claimOf e.after.shared.world
  /-- and the attempts make no other. -/
  created : ∀ e ∈ tr, ∀ i a, e.label = .act i a → request.binds e = false →
    e.after.shared.world.claimRegistry = e.before.shared.world.claimRegistry
  /-- The claim has one artifact of the request at most. -/
  attached_once : (request.found c.shared.world).length ≤ 1
  /-- An attempt that returns reports the claim and the artifact. -/
  returned : ∀ i claimId artifactId, c.process i = .returned claimId artifactId →
    claimId ≠ 0 ∧ claimId = request.claimOf c.shared.world ∧
      request.found c.shared.world = [artifactId]

/-- **A step that keeps the attempts apart**: no attempt looks for the artifact in vain while
another may still attach it, and nobody else attaches it to the claim of the request. -/
def Separate {ι : Type} (request : ClaimRequest) (e : SagaEvent ι) : Prop :=
  match e.label with
  | .act i .next => ∀ claimId, e.before.process i = .checkpointed claimId →
    request.artifactsOn e.before.shared.world claimId = [] →
      ∀ j, (e.before.process j).mayAttach request e.before.shared.world = false
  | .env (.exec m) => ¬request.Attaches (request.claimOf e.before.shared.world) m
  | _ => True

section

variable {ι : Type} {D : Deployment} {request : ClaimRequest} {tr : List (SagaEvent ι)}
  {c c' : Config ι (Evm.Config World Suspended) ClaimAttempt}
  {l : Label ι SagaAction (Action Message Suspended)}

/-! ### At most one attempt may attach -/

/-- **At most one attempt may attach the artifact**, and the claim has none while it may. -/
structure Apart (request : ClaimRequest)
    (c : Config ι (Evm.Config World Suspended) ClaimAttempt) : Prop where
  alone : ∀ i j, (c.process i).mayAttach request c.shared.world = true →
    (c.process j).mayAttach request c.shared.world = true → i = j
  vain : ∀ i, (c.process i).mayAttach request c.shared.world = true →
    request.found c.shared.world = []
  once : (request.found c.shared.world).length ≤ 1

/-- Attempts are apart if none of them may attach. -/
theorem Apart.of_none (hnone : ∀ i, (c.process i).mayAttach request c.shared.world = false)
    (honce : (request.found c.shared.world).length ≤ 1) : Apart request c where
  alone i _ hi _ := absurd (hnone i) (by rw [hi]; exact Bool.noConfusion)
  vain i hi := absurd (hnone i) (by rw [hi]; exact Bool.noConfusion)
  once := honce

/-- Attempts stay apart if none comes to attach and nothing is attached. -/
theorem Apart.of_imp (h : Apart request c)
    (hattach : ∀ i, (c'.process i).mayAttach request c'.shared.world = true →
      (c.process i).mayAttach request c.shared.world = true)
    (hsame : request.found c'.shared.world = request.found c.shared.world) : Apart request c' where
  alone i j hi hj := h.alone i j (hattach i hi) (hattach j hj)
  vain i hi := by rw [hsame]; exact h.vain i (hattach i hi)
  once := by rw [hsame]; exact h.once

/-- **The chain moves**, and no attempt comes to attach by that. -/
theorem Apart.of_change {a : Action Message Suspended} (h : Apart request c)
    (haccurate : ∀ i, (c.process i).Accurate request c.shared.world)
    (hattach : ∀ i, (c'.process i).mayAttach request c'.shared.world = true →
      (c.process i).mayAttach request c.shared.world = true)
    (hchange : RequestChange request a c.shared.world c'.shared.world)
    (hattached : ∀ m, a = .exec m → request.Attaches (request.claimOf c.shared.world) m →
      request.found c.shared.world = [] ∧
        ∀ i, (c'.process i).mayAttach request c'.shared.world = false) :
    Apart request c' := by
  cases hchange with
  | unchanged _ hsame => exact h.of_imp hattach hsame
  | bound hfree _ hnil =>
    -- Whoever may attach knows the claim of the request, which there was not.
    refine .of_none (fun i => Bool.eq_false_iff.mpr fun hi => ?_)
      (by rw [hnil]; exact Nat.zero_le 1)
    exact (haccurate i).claimOf_ne_zero (hattach i hi) hfree
  | attached _ _ hsnoc ha hm =>
    obtain ⟨hnil, hnone⟩ := hattached _ ha hm
    refine .of_none hnone ?_
    rw [hsnoc, hnil]
    exact le_rfl

variable [DecidableEq ι]

/-! ### What holds of every history -/

/-- In a step of a history the chain stands still, or takes a step of its own. -/
theorem forward_of_step (h : (claimCreation D request).Step c l c') :
    c'.shared = c.shared ∨ ∃ a, (protocol D).Forward c.shared a c'.shared := by
  cases h with
  | act hact =>
    rcases (ClaimAttempt.act_effect hact).forward with heq | ⟨tx, hforward⟩
    · exact .inl heq
    · exact .inr ⟨_, hforward⟩
  | env henv => exact .inr ⟨_, henv⟩

theorem reachable_of_run (h : (claimCreation D request).Run tr c) :
    (protocol D).Reachable c.shared := by
  induction h with
  | genesis hgen => exact hgen.1
  | snoc _ hstep ih =>
    rcases forward_of_step hstep with heq | ⟨a, hforward⟩
    · rw [heq]
      exact ih
    · exact ih.forward hforward

/-- What is known of a request stays, in every step of a history. -/
theorem kept_of_step (hchain : (protocol D).Reachable c.shared)
    (h : (claimCreation D request).Step c l c') :
    (request.claimOf c.shared.world ≠ 0 →
        request.claimOf c'.shared.world = request.claimOf c.shared.world) ∧
      ArtifactsKept c.shared.world c'.shared.world := by
  rcases forward_of_step h with heq | ⟨a, hforward⟩
  · rw [heq]
    exact ⟨fun _ => rfl, .refl _⟩
  · exact ⟨fun hbound => request_kept_of_effect hforward.effect hbound,
      artifactsKept_of_effect hchain hforward.effect⟩

/-- **Attempts are told what is so**, however they overlap. -/
theorem accurate_of_run (h : (claimCreation D request).Run tr c) (i : ι) :
    (c.process i).Accurate request c.shared.world := by
  induction h with
  | genesis _ => trivial
  | @snoc tr c c' l hrun hstep ih =>
    have hchain := reachable_of_run hrun
    obtain ⟨hclaim, hkept⟩ := kept_of_step hchain hstep
    have hothers := ih.kept hclaim hkept
    cases hstep with
    | @act j a chain' p' hact =>
      by_cases hij : i = j
      · subst hij
        simp only [Function.update_self]
        have heffect := ClaimAttempt.act_effect hact
        generalize c.process i = p at heffect ih
        cases heffect with
        | next hnext => exact ih.next hnext
        | mined _ hinFlight hexec hp' =>
          rcases hp' with rfl | rfl
          · trivial
          · exact ih.received hchain hinFlight hexec
        | «over» hinFlight => exact ih.over hinFlight
      · simp only [Function.update_of_ne hij]
        exact hothers
    | env _ => exact hothers

/-- The request gets its claim once. -/
theorem countP_binds (h : (claimCreation D request).Run tr c) :
    tr.countP request.binds = if request.claimOf c.shared.world = 0 then 0 else 1 := by
  induction h with
  | genesis hgen => simp [hgen.2]
  | @snoc tr c c' l hrun hstep ih =>
    have hclaim := (kept_of_step (reachable_of_run hrun) hstep).1
    rw [List.countP_append, ih, List.countP_singleton]
    by_cases hfree : request.claimOf c.shared.world = 0
    · by_cases hfree' : request.claimOf c'.shared.world = 0 <;>
        simp [ClaimRequest.binds, hfree, hfree']
    · simp [ClaimRequest.binds, hfree, hclaim hfree]

/-- What is bound to the request stays bound to it. -/
theorem claimOf_kept (h : (claimCreation D request).Run tr c) :
    ∀ e ∈ tr, request.claimOf e.after.shared.world ≠ 0 →
      request.claimOf c.shared.world = request.claimOf e.after.shared.world := by
  induction h with
  | genesis _ => exact fun e he => absurd he List.not_mem_nil
  | @snoc tr c c' l hrun hstep ih =>
    intro e he hbound
    rcases List.mem_append.mp he with he | he
    · have hold := ih e he hbound
      have hclaim := (kept_of_step (reachable_of_run hrun) hstep).1
      rw [hclaim (by rw [hold]; exact hbound), hold]
    · rw [List.mem_singleton.mp he]

/-- **An attempt makes a claim only by giving the request its claim.** -/
theorem claimRegistry_of_act {i : ι} {a : SagaAction} (hchain : (protocol D).Reachable c.shared)
    (h : (claimCreation D request).Step c (.act i a) c')
    (hbinds : request.binds (⟨c, .act i a, c'⟩ : SagaEvent ι) = false) :
    c'.shared.world.claimRegistry = c.shared.world.claimRegistry := by
  cases h with
  | act hact =>
    have heffect := ClaimAttempt.act_effect hact
    generalize c.process i = p at heffect
    cases heffect with
    | next _ | «over» _ => rfl
    | @mined tx w' _ _ _ hexec _ =>
      cases tx with
      | addArtifact claimId => exact (addsArtifact_of_exec rfl hexec).1.claimRegistry
      | createClaim =>
        rcases (World.step_of_exec hexec).delegated ⟨rfl⟩ with ⟨-, heq⟩ | ⟨hfree, -⟩
        · rw [Outcome.state_done] at heq
          rw [heq]
        · have hbound := (claimOf_of_createClaim hchain hexec).1
          have hzero : request.claimOf c.shared.world = 0 := not_not.mp (of_decide_eq_false hfree)
          exact absurd hbinds (by simp [ClaimRequest.binds, hzero, hbound])

/-! ### One artifact -/

/-- **Every step that keeps attempts apart.** -/
theorem Apart.step (h : Apart request c) (hrun : (claimCreation D request).Run tr c)
    (hstep : (claimCreation D request).Step c l c') (hseparate : Separate request ⟨c, l, c'⟩) :
    Apart request c' := by
  have hchain := reachable_of_run hrun
  have haccurate := accurate_of_run hrun
  have hkept := (kept_of_step hchain hstep).2
  cases hstep with
  | @env a chain' henv =>
    refine h.of_change haccurate (fun i hi => (haccurate i).mayAttach_of_kept hkept hi)
      (requestChange_of_effect hchain henv.effect) fun m ha hm => ?_
    subst ha
    exact absurd hm hseparate
  | @act i a chain' p' hact =>
    have heffect := ClaimAttempt.act_effect hact
    generalize hp : c.process i = p at heffect
    -- What the others may do, they could do before.
    have hattach : (p'.mayAttach request chain'.world = true →
        p.mayAttach request c.shared.world = true) → ∀ j,
          (Function.update c.process i p' j).mayAttach request chain'.world = true →
            (c.process j).mayAttach request c.shared.world = true := by
      intro hacting j hj
      by_cases hji : j = i
      · subst hji
        rw [Function.update_self] at hj
        rw [hp]
        exact hacting hj
      · rw [Function.update_of_ne hji] at hj
        exact (haccurate j).mayAttach_of_kept hkept hj
    cases heffect with
    | next hnext =>
      by_cases hvain : ∃ claimId, p = .checkpointed claimId ∧
          request.artifactsOn c.shared.world claimId = []
      -- It looks in vain, and nobody may attach.
      · obtain ⟨claimId, rfl, hnil⟩ := hvain
        have hnobody := hseparate claimId hp hnil
        have halone : ∀ j, (Function.update c.process i p' j).mayAttach request
            c.shared.world = true → j = i := by
          intro j hj
          by_contra hji
          rw [Function.update_of_ne hji, hnobody j] at hj
          exact absurd hj Bool.false_ne_true
        have hIs : request.IsClaim c.shared.world claimId := by
          have hi := haccurate i
          rwa [hp] at hi
        exact {
          alone := fun j k hj hk => (halone j hj).trans (halone k hk).symm
          vain := fun _ _ => by rw [ClaimRequest.found, hIs.2, hnil]
          once := h.once }
      · refine h.of_imp (hattach fun hacting => ?_) rfl
        exact (ClaimAttempt.mayAttach_next hnext hacting).resolve_right hvain
    | «over» hinFlight =>
      exact h.of_imp (hattach (ClaimAttempt.mayAttach_over hinFlight)) rfl
    | @mined tx w' p' hframes hinFlight hexec hp' =>
      have hdone : p'.mayAttach request w' = false := by
        rcases hp' with rfl | rfl
        · rfl
        · exact ClaimAttempt.mayAttach_received
      have hexec' : (protocol D).Effect (.exec (request.message D tx)) c.shared.world w' :=
        Machine.Effect.exec (o := .done w') hexec
      refine h.of_change haccurate (hattach fun hacting => ?_)
        (requestChange_of_effect hchain hexec') fun m ha hm => ?_
      · exact absurd (hdone.symm.trans hacting) Bool.false_ne_true
      -- What is attached is what this attempt had in flight, so it was the only one.
      · obtain rfl := Action.exec.inj ha
        have hi : (c.process i).mayAttach request c.shared.world = true := by
          rw [hp]
          exact ClaimAttempt.mayAttach_of_attaches hinFlight hm
        refine ⟨h.vain i hi, fun j => Bool.eq_false_iff.mpr fun hj => ?_⟩
        by_cases hji : j = i
        · subst hji
          simp only [Function.update_self, hdone] at hj
          exact absurd hj Bool.false_ne_true
        · simp only [Function.update_of_ne hji] at hj
          exact hji (h.alone j i ((haccurate j).mayAttach_of_kept hkept hj) hi)

/-- **A request is served once**, in every history whose steps keep its attempts apart. -/
theorem createdOnce_of_run (h : (claimCreation D request).Run tr c)
    (hseparate : ∀ e ∈ tr, Separate request e) : CreatedOnce request tr c := by
  have hapart : Apart request c := by
    induction h with
    | @genesis chain hgen =>
      have hindexed := artifactsIndexed_of_reachable hgen.1
      have hblank := (registries_indexed hgen.1).1.claims.blank 0 (.inl rfl)
      have hnil : request.found chain.world = [] := by
        rw [ClaimRequest.found, hgen.2, ClaimRequest.artifactsOn,
          ArtifactRegistry.getClaimArtifactIds, hindexed.eq_nil (by rw [hblank]; rfl),
          List.filter_nil]
      exact .of_none (fun _ => rfl) (by rw [hnil]; exact Nat.zero_le 1)
    | @snoc tr c c' l hrun hstep ih =>
      exact (ih fun e he => hseparate e (List.mem_append_left _ he)).step hrun hstep
        (hseparate _ (List.mem_append_right tr List.mem_cons_self))
  exact {
    bound_once := by
      rw [countP_binds h]
      split <;> omega
    bound_kept := claimOf_kept h
    created := by
      intro e he i a hlabel hbinds
      obtain ⟨tr₁, tr₂, rfl⟩ := List.append_of_mem he
      obtain ⟨hrun, hstep⟩ := h.split
      obtain ⟨before, label, after⟩ := e
      obtain rfl : label = .act i a := hlabel
      exact claimRegistry_of_act (reachable_of_run hrun) hstep hbinds
    attached_once := hapart.once
    returned := by
      intro i claimId artifactId hreturned
      have haccurate := accurate_of_run h i
      rw [hreturned] at haccurate
      obtain ⟨⟨hne, hclaim⟩, hon⟩ := haccurate
      rw [← hclaim] at hon
      obtain ⟨id, hid⟩ := List.length_eq_one_iff.mp
        (Nat.le_antisymm hapart.once (List.length_pos_of_mem hon))
      refine ⟨hne, hclaim.symm, ?_⟩
      rw [ClaimRequest.found] at hid ⊢
      rw [hid] at hon ⊢
      rw [List.mem_singleton.mp hon] }

end

/-! ### Two attachments -/

/-- `0x0A` registers the module, as the default of domain 1. -/
def openDomain : List (Move Message) :=
  [send 0x0A 0 (.resolutionModuleRegistry (.registerModule 0xC0 "")),
    send 0x0A 0 (.resolutionModuleRegistry (.setDomainModule 1 0xC0))]

theorem openDomain_possible : (playDevnet openDomain).isSome := by decide

/-- The network once claims can be created in domain 1. -/
def openDomainChain : Evm.Config World Suspended :=
  ((playDevnet openDomain).get openDomain_possible).2

/-- A request of the author `0xAA`. -/
def devnetRequest : ClaimRequest where
  submittedBy := 0x0A
  authorAddress := 0xAA
  statement := "s"
  methodology := "production-methodology"
  scope := "production-scope"
  metadata := "production-metadata"
  predictionHooks := "production-hooks"
  domainId := 1
  artifactType := .codeArchive
  authorBond := 0
  artifactUri := "ar://a"
  contentDigest := 5
  requestHash := 7

/-- The history some actions of attempts make, on that network. -/
def playAttempts (moves : List (ℕ × SagaAction)) : Option (List (SagaEvent ℕ) ×
    Config ℕ (Evm.Config World Suspended) ClaimAttempt) :=
  (claimCreation devnet devnetRequest).play moves ⟨openDomainChain, fun _ => .idle⟩

/-- **Played histories are histories of attempts.** -/
theorem run_playAttempts {moves : List (ℕ × SagaAction)} (h : (playAttempts moves).isSome) :
    (claimCreation devnet devnetRequest).Run ((playAttempts moves).get h).1
      ((playAttempts moves).get h).2 :=
  Processes.run_play (M := claimCreation devnet devnetRequest)
    ⟨(run_playDevnet openDomain_possible).reachable, by decide⟩ h

/-- An attempt creates the claim, and crashes while its artifact is in flight. The transaction is
mined, and a second attempt finds the claim and the artifact. -/
def foundArtifact : List (ℕ × SagaAction) :=
  [(0, .next), (0, .next), (0, .mine), (0, .next), (0, .next), (0, .next), (0, .next), (0, .next),
    (0, .crash), (0, .mine), (1, .next), (1, .next), (1, .next), (1, .next), (1, .next)]

theorem foundArtifact_possible : (playAttempts foundArtifact).isSome := by decide +kernel

/-- Of two attempts none looks in vain while the other one may attach. -/
def keepsApart (e : SagaEvent ℕ) : Bool :=
  match e.label with
  | .act i .next => match e.before.process i with
    | .checkpointed claimId =>
      !decide (devnetRequest.artifactsOn e.before.shared.world claimId = []) ||
        [0, 1].all fun j => !(e.before.process j).mayAttach devnetRequest e.before.shared.world
    | _ => true
  | .env _ => false
  | _ => true

theorem foundArtifact_separate :
    ∀ e ∈ ((playAttempts foundArtifact).get foundArtifact_possible).1,
      Separate devnetRequest e := by
  have hall : ((playAttempts foundArtifact).get foundArtifact_possible).1.all keepsApart =
      true := by decide +kernel
  intro e he
  have hidle : ∀ j, 2 ≤ j → e.before.process j = .idle := fun j hj =>
    Processes.process_of_play (Option.some_get foundArtifact_possible).symm
      (by simp [foundArtifact]; omega) e he
  have hapart := List.all_eq_true.mp hall e he
  unfold keepsApart at hapart
  unfold Separate
  split at hapart
  next i heq =>
    rw [heq]
    intro claimId hchecked hnone j
    rw [hchecked] at hapart
    simp only [hnone, decide_true, Bool.not_true, Bool.false_or] at hapart
    by_cases hj : 2 ≤ j
    · rw [hidle j hj]
      rfl
    · have hj := List.all_eq_true.mp hapart j (by simp; omega)
      rwa [Bool.not_eq_true'] at hj
  next => exact absurd hapart Bool.false_ne_true
  next hnext henv =>
    split
    next heq => exact absurd heq (hnext _)
    next heq => exact absurd heq (henv _)
    next => trivial

/-- The second attempt returns claim 1 and artifact 1. -/
theorem createdOnce_of_run_foundArtifact :
    devnetRequest.found ((playAttempts foundArtifact).get
      foundArtifact_possible).2.shared.world = [1] :=
  ((createdOnce_of_run (run_playAttempts foundArtifact_possible) foundArtifact_separate).returned
    1 1 1 (by decide +kernel)).2.2

/-- An attempt crashes while its artifact is in flight; another finds the claim, but not yet
the artifact, and attaches it, and then the first transaction is mined. -/
def overlappingAttempts : List (ℕ × SagaAction) :=
  [(0, .next), (0, .next), (0, .mine), (0, .next), (0, .next), (0, .next), (0, .next), (0, .next),
    (0, .crash), (1, .next), (1, .next), (1, .next), (1, .next), (1, .next), (1, .mine), (1, .next),
    (0, .mine)]

theorem overlappingAttempts_possible : (playAttempts overlappingAttempts).isSome := by
  decide

/-- **The artifact may be attached twice**, if it is in flight while another attempt looks. -/
theorem artifact_attached_twice :
    ∃ (tr : List (SagaEvent ℕ)) (c : Config ℕ (Evm.Config World Suspended) ClaimAttempt),
      (claimCreation devnet devnetRequest).Run tr c ∧
        devnetRequest.found c.shared.world = [1, 2] ∧ ¬CreatedOnce devnetRequest tr c := by
  have hfound : devnetRequest.found ((playAttempts overlappingAttempts).get
      overlappingAttempts_possible).2.shared.world = [1, 2] := by decide
  refine ⟨_, _, run_playAttempts overlappingAttempts_possible, hfound, fun honce => ?_⟩
  have hle := honce.attached_once
  rw [hfound] at hle
  exact absurd hle (by decide)

end ScientificProtocol.Submission
