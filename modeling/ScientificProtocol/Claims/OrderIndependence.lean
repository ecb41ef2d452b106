import ScientificProtocol.Claims.History
import ScientificProtocol.Order.KeepHigher

/-!
# In which order replications are finalized

A claim under replication, and a list of its resolved replications: does the
status the claim ends at depend on the order in which they are finalized? Every
finalization moves the status to the derived one if that stands higher
(`Ranked.keepHigher`), and keeping the higher of two does not depend
on the order – as long as no two statuses stand equally high.

Two do. No transition leads from `Refuted` to `Fraudulent` or back, and the claim
stays at whichever of the two comes first. So the order is immaterial for every
list without results of both kinds
(`ScientificProtocol.finalization_order_independent`), and the two orders of a
refutation and a fraud signal end differently
(`ScientificProtocol.finalization_order_dependent`).
-/

namespace ScientificProtocol

open Evm Ranked

/-! ### One finalization -/

namespace ClaimRegistry

/-- **Above `Published`, a decision is allowed exactly if it stands higher.** -/
theorem isAllowedTransition_iff_rank_lt {source target : ClaimStatus} (hsource : 2 ≤ rank source)
    (htarget : target = .underReplication ∨ isResolutionDerivedStatus target = true) :
    isAllowedTransition source target = true ↔ rank source < rank target := by
  revert hsource htarget
  cases source <;> cases target <;> decide

/-- The status a resolved replication derives for its claim. -/
def derivedStatus (replicationRegistry : ReplicationRegistry) (r : ℕ) : ClaimStatus :=
  match getClaimStatusForResolution (replicationRegistry.replications r).resolutionStatus with
  | .ok claimStatus => claimStatus
  | .error _ => .underReplication

theorem derivedStatus_cases (replicationRegistry : ReplicationRegistry) (r : ℕ) :
    derivedStatus replicationRegistry r = .underReplication ∨
      isResolutionDerivedStatus (derivedStatus replicationRegistry r) = true := by
  unfold derivedStatus
  split
  next h => exact claimStatus_cases h
  next => exact .inl rfl

/-- What a replication derives stands below deprecation. -/
theorem rank_derivedStatus_le (replicationRegistry : ReplicationRegistry) (r : ℕ) :
    rank (derivedStatus replicationRegistry r) ≤ 5 := by
  have hcases := derivedStatus_cases replicationRegistry r
  revert hcases
  cases derivedStatus replicationRegistry r <;> decide

end ClaimRegistry

/-- The message by which `sender` finalizes a replication of a claim. -/
def finalizeMessage (sender : Address) (claimId r : ℕ) : Message :=
  { sender, value := 0, reply := default,
    target := .claimRegistry (.finalizeClaimResolution claimId r) }

/-- Finalizing a list of replications of a claim, one after another; `caller r` is
who finalizes replication `r`. -/
def finalizeAll (D : Deployment) (caller : ℕ → Address) (claimId : ℕ) :
    List ℕ → World → Option World
  | [], w => some w
  | r :: rs, w => match World.exec D (finalizeMessage (caller r) claimId r) w with
    | .ok (.done w') => finalizeAll D caller claimId rs w'
    | _ => none

/-- The status a list of finalizations leaves the claim at, if all of them
succeed. -/
def statusAfter (D : Deployment) (caller : ℕ → Address) (claimId : ℕ) (rs : List ℕ) (w : World) :
    Option ClaimStatus :=
  (finalizeAll D caller claimId rs w).map fun w' => (w'.claimRegistry.claims claimId).status

/-- What a replication needs to be finalized by `sender`. -/
structure Finalizable (w : World) (sender : Address) (claimId r : ℕ) : Prop where
  role : w.hasRole .resolver sender = true
  configured : w.claimRegistry.requireProtocolDependencies = .ok ()
  claim_exists : (w.claimRegistry.claims claimId).claimId ≠ 0
  replication_exists : (w.replicationRegistry.replications r).replicationId ≠ 0
  claimId_eq : (w.replicationRegistry.replications r).claimId = claimId
  resolved : (w.replicationRegistry.replications r).resolvedAt ≠ 0
  undecided : w.claimRegistry.replicationDecisionId r = 0
  decides : ∃ claimStatus, ClaimRegistry.getClaimStatusForResolution
    (w.replicationRegistry.replications r).resolutionStatus = .ok claimStatus

/-- What a list of replications needs to be finalized, one after another, in any
order: nothing that the finalization of one could take from another. -/
structure AllFinalizable (w : World) (caller : ℕ → Address) (claimId : ℕ) (rs : List ℕ) :
    Prop where
  nodup : rs.Nodup
  each : ∀ r ∈ rs, Finalizable w (caller r) claimId r
  numbers : rs ≠ [] → w.claimRegistry.nextResolutionDecisionId + rs.length < uint256Size

theorem AllFinalizable.perm {w : World} {caller : ℕ → Address} {claimId : ℕ} {rs rs' : List ℕ}
    (h : AllFinalizable w caller claimId rs) (hperm : rs.Perm rs') :
    AllFinalizable w caller claimId rs' where
  nodup := hperm.nodup_iff.mp h.nodup
  each r hr := h.each r (hperm.mem_iff.mpr hr)
  numbers hne := hperm.length_eq ▸ h.numbers fun heq =>
    hne (List.nil_perm.mp (heq ▸ hperm))

/-- What one finalization changes, of what the next ones depend on. -/
structure Finalized (claimId r : ℕ) (w w' : World) : Prop where
  hasRole : w'.hasRole = w.hasRole
  replicationRegistry : w'.replicationRegistry = w.replicationRegistry
  configured : w'.claimRegistry.requireProtocolDependencies =
    w.claimRegistry.requireProtocolDependencies
  claim : (w'.claimRegistry.claims claimId).claimId = (w.claimRegistry.claims claimId).claimId
  status : 2 ≤ ClaimRegistry.rank (w.claimRegistry.claims claimId).status →
    (w'.claimRegistry.claims claimId).status = keepHigher ClaimRegistry.rank
      (w.claimRegistry.claims claimId).status
      (ClaimRegistry.derivedStatus w.replicationRegistry r)
  decided : w'.claimRegistry.replicationDecisionId = w.claimRegistry.replicationDecisionId.set r
    w.claimRegistry.nextResolutionDecisionId
  next : w'.claimRegistry.nextResolutionDecisionId = w.claimRegistry.nextResolutionDecisionId + 1

section

variable {D : Deployment} {caller : ℕ → Address} {claimId r : ℕ} {w w' : World}

/-- Where the claim is under replication or beyond, a decision leaves the higher of
the two statuses. -/
theorem ClaimRegistry.status_withDecision {self : ClaimRegistry} {decision : ResolutionDecision}
    (hstatus : 2 ≤ rank (self.claims decision.claimId).status)
    (hdecision : decision.claimStatus = .underReplication ∨
      isResolutionDerivedStatus decision.claimStatus = true) :
    ((self.withDecision decision).claims decision.claimId).status =
      keepHigher rank (self.claims decision.claimId).status decision.claimStatus := by
  have hiff := isAllowedTransition_iff_rank_lt hstatus hdecision
  by_cases htakes : self.TakesEffect decision.claimId decision.claimStatus
  · rw [(self.withDecision_of_takesEffect htakes).1]
    rcases htakes with hallowed | ⟨hconfirms, -⟩
    · exact (if_pos (hiff.mp hallowed)).symm
    · simp [keepHigher, hconfirms]
  · rw [(self.withDecision_of_not_takesEffect htakes).1]
    exact (if_neg fun hlt => htakes (.inl (hiff.mpr hlt))).symm

/-- A decision does not touch the identifier of any claim. -/
theorem ClaimRegistry.claimId_withDecision (self : ClaimRegistry) (decision : ResolutionDecision)
    (id : ℕ) : ((self.withDecision decision).claims id).claimId = (self.claims id).claimId := by
  by_cases hclaim : id = decision.claimId
  · subst hclaim
    by_cases htakes : self.TakesEffect decision.claimId decision.claimStatus
    · rw [(self.withDecision_of_takesEffect htakes).1]
    · rw [(self.withDecision_of_not_takesEffect htakes).1]
  · rw [self.withDecision_claims_of_ne hclaim]

/-- **A finalization succeeds only if it may**, and changes only what it should. -/
theorem finalized_of_exec
    (h : World.exec D (finalizeMessage (caller r) claimId r) w = .ok (.done w')) :
    Finalizable w (caller r) claimId r ∧
      w.claimRegistry.nextResolutionDecisionId + 1 < uint256Size ∧ Finalized claimId r w w' := by
  obtain ⟨s, hexec, heq⟩ := map_eq_ok.mp h
  obtain rfl := Outcome.done.inj heq
  have hstep := ClaimRegistry.step_of_exec hexec
  simp only [ClaimRegistry.Call.linked] at hstep
  cases hstep with
  | @finalizeClaimResolution _ _ decision _ hrole hescrow hregistry hclaim hexists hmatch
      hresolved hundecided hstatus hnext hdecision =>
    have hclaimId : decision.claimId = claimId := by rw [hdecision]; rfl
    have hreplication : decision.replicationId = r := by rw [hdecision]; rfl
    have hid : decision.decisionId = w.claimRegistry.nextResolutionDecisionId := by
      rw [hdecision]; rfl
    have hderived : ClaimRegistry.derivedStatus w.replicationRegistry r = decision.claimStatus := by
      rw [ClaimRegistry.derivedStatus, hstatus]
    subst hclaimId hreplication
    refine ⟨⟨hrole, ?_, hclaim, hexists, hmatch, hresolved, hundecided, _, hstatus⟩, hnext, rfl,
      rfl, rfl, ?_, fun hrank => ?_, ?_, rfl⟩
    · exact revertIf_of_not (not_or.mpr ⟨hescrow, hregistry⟩)
    · exact w.claimRegistry.claimId_withDecision decision _
    · rw [hderived]
      exact ClaimRegistry.status_withDecision hrank (ClaimRegistry.claimStatus_cases hstatus)
    · rw [← hid]
      rfl

/-- **A finalization that may succeed does.** -/
theorem exec_of_finalizable (h : Finalizable w (caller r) claimId r)
    (hnext : w.claimRegistry.nextResolutionDecisionId + 1 < uint256Size) :
    ∃ w', World.exec D (finalizeMessage (caller r) claimId r) w = .ok (.done w') := by
  obtain ⟨hrole, hconfigured, hclaim, hexists, rfl, hresolved, hundecided, claimStatus, hstatus⟩ :=
    h
  obtain ⟨res, hfinalize⟩ : ∃ res, w.claimRegistry.finalizeClaimResolution
      (w.context D (finalizeMessage (caller r) (w.replicationRegistry.replications r).claimId r))
      w.replicationRegistry (w.replicationRegistry.replications r).claimId r = .ok res :=
    ClaimRegistry.finalizeClaimResolution_of_checks hrole hconfigured hclaim hexists hresolved
      hundecided hstatus hnext
  refine ⟨{ w with claimRegistry := res.2 }, ?_⟩
  have hpayable : (w.context D (finalizeMessage (caller r)
      (w.replicationRegistry.replications r).claimId r)).nonPayable = .ok () :=
    (Ctx.nonPayable_eq_ok _).mpr rfl
  simp only [finalizeMessage] at hfinalize hpayable
  simp only [World.exec, finalizeMessage, ClaimRegistry.Call.linked, ClaimRegistry.exec, hpayable,
    ok_bind, hfinalize, map_ok]

/-- A finalization takes nothing from another replication, if it numbers its
decision at all. -/
theorem Finalized.finalizable_iff (h : Finalized claimId r w w')
    (hpos : 0 < w.claimRegistry.nextResolutionDecisionId) {sender : Address} {r' : ℕ} :
    Finalizable w' sender claimId r' ↔ r' ≠ r ∧ Finalizable w sender claimId r' := by
  have hundecided : w'.claimRegistry.replicationDecisionId r' = 0 ↔
      r' ≠ r ∧ w.claimRegistry.replicationDecisionId r' = 0 := by
    rw [h.decided, Mapping.set_apply]
    split
    next heq => simp [heq, hpos.ne']
    next hne => simp [hne]
  constructor
  · rintro ⟨hrole, hconfigured, hclaim, hexists, hmatch, hresolved, hun, hdecides⟩
    rw [h.hasRole] at hrole
    rw [h.configured] at hconfigured
    rw [h.claim] at hclaim
    rw [h.replicationRegistry] at hexists hmatch hresolved hdecides
    obtain ⟨hne, hun⟩ := hundecided.mp hun
    exact ⟨hne, hrole, hconfigured, hclaim, hexists, hmatch, hresolved, hun, hdecides⟩
  · rintro ⟨hne, hrole, hconfigured, hclaim, hexists, hmatch, hresolved, hun, hdecides⟩
    refine ⟨?_, ?_, ?_, ?_, ?_, ?_, hundecided.mpr ⟨hne, hun⟩, ?_⟩
    · rwa [h.hasRole]
    · rwa [h.configured]
    · rwa [h.claim]
    all_goals rwa [h.replicationRegistry]

/-! ### A list of finalizations -/

/-- The first of a list of finalizations, and the others. -/
theorem finalizeAll_cons {rs : List ℕ} :
    finalizeAll D caller claimId (r :: rs) w = some w' ↔
      ∃ w₁, World.exec D (finalizeMessage (caller r) claimId r) w = .ok (.done w₁) ∧
        finalizeAll D caller claimId rs w₁ = some w' := by
  rw [finalizeAll]
  split
  next w₁ hexec => simp [hexec]
  next hnot => simpa using fun w₁ hexec => absurd hexec (hnot w₁)

/-- **Which lists can be finalized**: those whose members can, all of them
different. The order does not matter. -/
theorem finalizeAll_isSome_iff {rs : List ℕ}
    (hpos : 0 < w.claimRegistry.nextResolutionDecisionId) :
    (∃ w', finalizeAll D caller claimId rs w = some w') ↔ AllFinalizable w caller claimId rs := by
  -- The induction hypothesis is about the others, from the world the first leaves behind.
  induction rs generalizing w with
  | nil => exact ⟨fun _ => ⟨.nil, by simp, fun hne => absurd rfl hne⟩, fun _ => ⟨w, rfl⟩⟩
  | cons r rs ih =>
    simp only [finalizeAll_cons]
    constructor
    · rintro ⟨w', w₁, hexec, hrest⟩
      obtain ⟨hr, hnext, hfinalized⟩ := finalized_of_exec hexec
      obtain ⟨hnodup, heach, hnumbers⟩ := (ih (hfinalized.next ▸ Nat.succ_pos _)).mp ⟨w', hrest⟩
      have hothers : ∀ r' ∈ rs, r' ≠ r ∧ Finalizable w (caller r') claimId r' := fun r' hr' =>
        (hfinalized.finalizable_iff hpos).mp (heach r' hr')
      refine ⟨List.nodup_cons.mpr ⟨fun hmem => (hothers r hmem).1 rfl, hnodup⟩, ?_, fun _ => ?_⟩
      · intro r' hr'
        rcases List.mem_cons.mp hr' with heq | hr'
        · exact heq ▸ hr
        · exact (hothers r' hr').2
      · rcases eq_or_ne rs [] with rfl | hne
        · exact hnext
        · have hlt := hnumbers hne
          rw [hfinalized.next] at hlt
          rw [List.length_cons]
          omega
    · rintro ⟨hnodup, heach, hnumbers⟩
      obtain ⟨hfresh, hnodup⟩ := List.nodup_cons.mp hnodup
      have hlt := hnumbers (List.cons_ne_nil r rs)
      rw [List.length_cons] at hlt
      obtain ⟨w₁, hexec⟩ := exec_of_finalizable (D := D) (heach r List.mem_cons_self) (by omega)
      obtain ⟨-, -, hfinalized⟩ := finalized_of_exec hexec
      have hall : AllFinalizable w₁ caller claimId rs := by
        refine ⟨hnodup, fun r' hr' => (hfinalized.finalizable_iff hpos).mpr
          ⟨fun heq => hfresh (heq ▸ hr'), heach r' (List.mem_cons_of_mem r hr')⟩, fun _ => ?_⟩
        rw [hfinalized.next]
        omega
      obtain ⟨w', hrest⟩ := (ih (hfinalized.next ▸ Nat.succ_pos _)).mpr hall
      exact ⟨w', w₁, hexec, hrest⟩

/-- **Where a list of finalizations takes the status of the claim**: to the highest
it meets. -/
theorem status_finalizeAll {rs : List ℕ}
    (hstatus : 2 ≤ ClaimRegistry.rank (w.claimRegistry.claims claimId).status)
    (h : finalizeAll D caller claimId rs w = some w') :
    (w'.claimRegistry.claims claimId).status =
      (rs.map (ClaimRegistry.derivedStatus w.replicationRegistry)).foldl
        (keepHigher ClaimRegistry.rank) (w.claimRegistry.claims claimId).status := by
  induction rs generalizing w with
  | nil =>
    obtain rfl := Option.some.inj h
    rfl
  | cons r rs ih =>
    obtain ⟨w₁, hexec, hrest⟩ := finalizeAll_cons.mp h
    obtain ⟨-, -, hfinalized⟩ := finalized_of_exec hexec
    have hkept := hfinalized.status hstatus
    have hstatus₁ : 2 ≤ ClaimRegistry.rank (w₁.claimRegistry.claims claimId).status := by
      rw [hkept]
      exact hstatus.trans (rank_le_keepHigher _ _)
    rw [ih hstatus₁ hrest, hkept, hfinalized.replicationRegistry, List.map_cons, List.foldl_cons]

/-- **The status after a list of finalizations**, and when there is one. -/
theorem statusAfter_eq_some_iff {rs : List ℕ} {status : ClaimStatus}
    (hpos : 0 < w.claimRegistry.nextResolutionDecisionId)
    (hstatus : 2 ≤ ClaimRegistry.rank (w.claimRegistry.claims claimId).status) :
    statusAfter D caller claimId rs w = some status ↔
      AllFinalizable w caller claimId rs ∧
        (rs.map (ClaimRegistry.derivedStatus w.replicationRegistry)).foldl
          (keepHigher ClaimRegistry.rank) (w.claimRegistry.claims claimId).status = status := by
  rw [← finalizeAll_isSome_iff (D := D) hpos]
  simp only [statusAfter, Option.map_eq_some_iff]
  constructor
  · rintro ⟨w', hall, rfl⟩
    exact ⟨⟨w', hall⟩, (status_finalizeAll hstatus hall).symm⟩
  · rintro ⟨⟨w', hall⟩, rfl⟩
    exact ⟨w', hall, status_finalizeAll hstatus hall⟩

/-- Of what replications say about claims, only refutation and fraud stand equally
high. -/
theorem ClaimRegistry.eq_of_rank_eq {t t' : ClaimStatus} (h : rank t = rank t')
    (hrefuted : ¬(t = .refuted ∧ t' = .fraudulent)) (hfraud : ¬(t = .fraudulent ∧ t' = .refuted)) :
    t = t' := by
  revert h hrefuted hfraud
  cases t <;> cases t' <;> decide

/-- The two statuses that no result of a replication replaces. -/
def ClaimRegistry.isIrreplaceable (status : ClaimStatus) : Bool :=
  decide (status = .refuted ∨ status = .fraudulent)

/-- **The first irreplaceable status is kept.** -/
theorem ClaimRegistry.foldl_keepHigher_of_find? {ts : List ClaimStatus} {s t : ClaimStatus}
    (hs : rank s < 5) (hts : ∀ t ∈ ts, rank t ≤ 5)
    (h : ts.find? isIrreplaceable = some t) : ts.foldl (keepHigher rank) s = t := by
  induction ts generalizing s with
  | nil => exact absurd h (by simp)
  | cons t' ts ih =>
    have hts' : ∀ t ∈ ts, rank t ≤ 5 := fun t ht => hts t (List.mem_cons_of_mem t' ht)
    have hlow : isIrreplaceable t' = false → rank t' ≤ 5 → rank t' < 5 := by cases t' <;> decide
    have hhigh : isIrreplaceable t' = true → rank t' = 5 := by cases t' <;> decide
    rw [List.foldl_cons]
    -- Once an irreplaceable status is reached, nothing in the list stands higher.
    rcases hterm : isIrreplaceable t' with _ | _
    · rw [List.find?_cons_of_neg (by simp [hterm])] at h
      refine ih ?_ hts' h
      unfold keepHigher
      split
      · exact hlow hterm (hts t' List.mem_cons_self)
      · exact hs
    · rw [List.find?_cons_of_pos hterm] at h
      obtain rfl := Option.some.inj h
      have hrank := hhigh hterm
      rw [show keepHigher rank s t' = t' from if_pos (by omega)]
      exact foldl_keepHigher_eq_self fun t ht => hrank ▸ hts' t ht

/-- **In which order replications are finalized matters only between a refutation and
a fraud signal.** Any two orders of a list of replications of a claim under
replication succeed or fail together. The status after them is the highest of the
derived ones, whatever the order, unless the list has results of both kinds, and
then it is the one of these two that comes first. -/
theorem finalization_order_independent {c : Config World Suspended}
    (h : (protocol D).Reachable c)
    (hstatus : (c.world.claimRegistry.claims claimId).status = .underReplication)
    {rs rs' : List ℕ} (hperm : rs.Perm rs') :
    ((statusAfter D caller claimId rs c.world).isSome =
      (statusAfter D caller claimId rs' c.world).isSome) ∧
    (¬((∃ r ∈ rs, ClaimRegistry.derivedStatus c.world.replicationRegistry r = .refuted) ∧
        ∃ r ∈ rs, ClaimRegistry.derivedStatus c.world.replicationRegistry r = .fraudulent) →
      statusAfter D caller claimId rs c.world = statusAfter D caller claimId rs' c.world) ∧
    ∀ status, statusAfter D caller claimId rs c.world = some status →
      (status = .underReplication ∨
        ∃ r ∈ rs, ClaimRegistry.derivedStatus c.world.replicationRegistry r = status) ∧
      (∀ r ∈ rs, ClaimRegistry.rank (ClaimRegistry.derivedStatus c.world.replicationRegistry r) ≤
        ClaimRegistry.rank status) ∧
      ∀ first, (rs.map (ClaimRegistry.derivedStatus c.world.replicationRegistry)).find?
        ClaimRegistry.isIrreplaceable = some first → status = first := by
  have hpos := (registries_indexed h).1.decisions.next_pos
  have hrank : ClaimRegistry.rank (c.world.claimRegistry.claims claimId).status = 2 := by
    rw [hstatus]
    rfl
  have hiff : ∀ {rs : List ℕ} {status : ClaimStatus}, statusAfter D caller claimId rs c.world =
      some status ↔ _ := statusAfter_eq_some_iff hpos hrank.ge
  have hall : AllFinalizable c.world caller claimId rs ↔
      AllFinalizable c.world caller claimId rs' :=
    ⟨fun h => h.perm hperm, fun h => h.perm hperm.symm⟩
  refine ⟨?_, fun hmixed => ?_, fun status hafter => ?_⟩
  · refine Bool.eq_iff_iff.mpr ?_
    simp only [Option.isSome_iff_exists, hiff, exists_and_left, exists_eq', and_true, hall]
  · have hfold := foldl_keepHigher_perm ClaimRegistry.rank
      (hperm.map (ClaimRegistry.derivedStatus c.world.replicationRegistry)) ?_
      (c.world.claimRegistry.claims claimId).status
    · refine Option.ext fun status => ?_
      rw [hiff, hiff, hall, hfold]
    · -- Two statuses of equal rank differ only where the list is mixed.
      intro t ht t' ht' heq
      obtain ⟨r, hr, rfl⟩ := List.mem_map.mp ht
      obtain ⟨r', hr', rfl⟩ := List.mem_map.mp ht'
      exact ClaimRegistry.eq_of_rank_eq heq
        (fun hboth => hmixed ⟨⟨r, hr, hboth.1⟩, r', hr', hboth.2⟩)
        (fun hboth => hmixed ⟨⟨r', hr', hboth.2⟩, r, hr, hboth.1⟩)
  · obtain ⟨-, rfl⟩ := hiff.mp hafter
    refine ⟨?_, fun r hr => ?_, fun first hfirst => ?_⟩
    · rcases foldl_keepHigher_mem ClaimRegistry.rank
        (rs.map (ClaimRegistry.derivedStatus c.world.replicationRegistry))
        (c.world.claimRegistry.claims claimId).status with heq | hmem
      · exact .inl (heq.trans hstatus)
      · exact .inr (List.mem_map.mp hmem)
    · exact (rank_le_foldl_keepHigher _ _).2 _ (List.mem_map_of_mem hr)
    · refine ClaimRegistry.foldl_keepHigher_of_find? (by omega) (fun t ht => ?_) hfirst
      obtain ⟨r, -, rfl⟩ := List.mem_map.mp ht
      exact ClaimRegistry.rank_derivedStatus_le _ _

end

/-- A history in which one replication refutes claim 1 and another finds it
fraudulent. -/
def refutedAndFraudulent : List (Move Message) :=
  opening ++
  [send 0xBB 0 (.replicationRegistry (.submitReplication 1 1 2 3 0)),
    send 0xBB 0 (.replicationRegistry (.submitReplication 1 1 2 3 0)),
    send 0x0A 0 (.replicationRegistry (.resolveReplicationOutcome 1 (devnetResult .refuted))),
    send 0x0A 0 (.replicationRegistry (.resolveReplicationOutcome 2 (devnetResult .fraudSignal)))]

theorem playDevnet_refutedAndFraudulent : (playDevnet refutedAndFraudulent).isSome := by
  decide

/-- **Between a refutation and a fraud signal the first one decides**: the two orders
of the same two finalizations end differently. -/
theorem finalization_order_dependent :
    let w := ((playDevnet refutedAndFraudulent).get playDevnet_refutedAndFraudulent).2.world
    (w.claimRegistry.claims 1).status = .underReplication ∧
      statusAfter devnet (fun _ => 0x0A) 1 [1, 2] w = some .refuted ∧
      statusAfter devnet (fun _ => 0x0A) 1 [2, 1] w = some .fraudulent := by
  decide

/-- The two orders of the two finalizations succeed together. -/
theorem finalization_order_independent_refutedAndFraudulent :
    (statusAfter devnet (fun _ => 0x0A) 1 [1, 2] ((playDevnet refutedAndFraudulent).get
        playDevnet_refutedAndFraudulent).2.world).isSome =
      (statusAfter devnet (fun _ => 0x0A) 1 [2, 1] ((playDevnet refutedAndFraudulent).get
        playDevnet_refutedAndFraudulent).2.world).isSome :=
  (finalization_order_independent (run_playDevnet playDevnet_refutedAndFraudulent).reachable
    (by decide) (List.Perm.swap 2 1 [])).1

end ScientificProtocol
