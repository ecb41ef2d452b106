import ScientificProtocol.RewardPolicy.Targets

/-!
# Settling a group

The loop of a run over the candidates of one group, when every settlement succeeds
(`PolicyLoop.settleGroup`). It charges an item at most once, for what its target exceeds what is
recorded; afterwards the target is recorded. A run that is not stopped by `maxSettlements` leaves
every item with the larger of the two (`ScientificProtocol.RewardPolicy.settles_settleGroup`).

A run of a group is a function of the pool and of what is recorded (`groupRun`), since qualities and
pressure are given. As targets only shrink with the pool, no later run finds anything to pay that a
complete run would have paid.
-/

namespace ScientificProtocol.RewardPolicy

/-! ### The loop over a group -/

namespace PolicyLoop

/-- The loop that is about to go through a group whose pool has been read. -/
def enter (loop : PolicyLoop) (attentionPressureBps : ℕ) (candidates : List PolicyCandidate)
    (poolBalanceWei : ℕ) (workKind : ClaimRewardWorkKind) : PolicyLoop :=
  let derivedTargets :=
    deriveRewardTargetsForGroup attentionPressureBps candidates poolBalanceWei workKind
  if poolBalanceWei = 0 ∨ derivedTargets.distributablePoolWei = 0 then loop
  else { loop with targets := derivedTargets.allocations, candidates }

/-- The option stops the loop. -/
def IsCapped (loop : PolicyLoop) : Prop :=
  loop.maxSettlements ≠ 0 ∧ loop.settlements ≥ loop.maxSettlements

instance (loop : PolicyLoop) : Decidable loop.IsCapped := inferInstanceAs (Decidable (_ ∧ _))

/-- The rest of a group, when every settlement succeeds: the loop afterwards, and what it has
charged. -/
def settleGroup : List PolicyCandidate → PolicyLoop → PolicyLoop × List Charge
  | [], loop => ({ loop with candidates := [] }, [])
  | candidate :: candidates, loop =>
    if loop.IsCapped then ({ loop with candidates := [] }, [])
    else match loop.chargeFor candidate with
      | none => settleGroup candidates { loop with candidates }
      | some charge =>
        let rest := settleGroup candidates ({ loop with candidates }.record charge)
        (rest.1, charge :: rest.2)

variable {loop loop' : PolicyLoop} {charge : Charge}

section

variable {attentionPressureBps poolBalanceWei : ℕ} {candidates : List PolicyCandidate}
  {workKind : ClaimRewardWorkKind}

theorem enter_of_nothing (h : poolBalanceWei = 0 ∨
    distributablePool attentionPressureBps poolBalanceWei workKind = 0) :
    loop.enter attentionPressureBps candidates poolBalanceWei workKind = loop :=
  if_pos h

theorem enter_of_something (h : ¬(poolBalanceWei = 0 ∨
    distributablePool attentionPressureBps poolBalanceWei workKind = 0)) :
    loop.enter attentionPressureBps candidates poolBalanceWei workKind = { loop with
      targets := candidates.map fun candidate => (candidate.itemId,
        targetTotal attentionPressureBps candidates poolBalanceWei workKind candidate)
      candidates } := by
  rw [← allocations_eq]
  exact if_neg h

end

/-- A run that reads a pool enters its group. -/
theorem readPool_eq_enter {w : World} {attentionPressureBps claimId : ℕ}
    {workKind : ClaimRewardWorkKind} {group : List PolicyCandidate}
    {groups : List ((ℕ × ClaimRewardWorkKind) × List PolicyCandidate)}
    (hcandidates : loop.candidates = [])
    (hgroups : loop.groups = ((claimId, workKind), group) :: groups) :
    loop.readPool w attentionPressureBps = some ({ loop with groups }.enter attentionPressureBps
      (applyCandidateQualityDiscounts group)
      (w.claimRewardVault.claimRewardPools claimId workKind.code) workKind) := by
  rw [readPool, hcandidates, hgroups]
  dsimp only [enter]
  split <;> rfl

/-- A candidate who is passed over changes nothing. -/
theorem settleGroup_of_pass (h : loop.consider = some (loop', none)) :
    settleGroup loop.candidates loop = settleGroup loop'.candidates loop' := by
  rw [consider] at h
  split at h
  next => cases h
  next candidate candidates hcandidates =>
    rw [hcandidates, settleGroup]
    split at h
    next hcapped =>
      obtain ⟨rfl, -⟩ := Prod.mk.inj (Option.some.inj h)
      rw [if_pos (show loop.IsCapped from hcapped)]
      rfl
    next hcapped =>
      obtain ⟨rfl, hcharge⟩ := Prod.mk.inj (Option.some.inj h)
      rw [if_neg (show ¬loop.IsCapped from hcapped), hcharge]

/-- **A candidate who is charged for** is recorded, and then the loop goes on. -/
theorem settleGroup_of_charge (h : loop.consider = some (loop', some charge)) :
    settleGroup loop.candidates loop =
      ((settleGroup (loop'.record charge).candidates (loop'.record charge)).1,
        charge :: (settleGroup (loop'.record charge).candidates (loop'.record charge)).2) := by
  rw [consider] at h
  split at h
  next => cases h
  next candidate candidates hcandidates =>
    rw [hcandidates, settleGroup]
    split at h
    next => cases (Prod.mk.inj (Option.some.inj h)).2
    next hcapped =>
      obtain ⟨rfl, hcharge⟩ := Prod.mk.inj (Option.some.inj h)
      rw [if_neg (show ¬loop.IsCapped from hcapped), hcharge]
      rfl

/-- What a run has recorded is what the next one reads. -/
theorem accruedByItem_record_eq {rows rows' : List WorkRewardSettlementRow}
    {row : WorkRewardSettlementRow} {policyVersion : String}
    (hinsert : insertWorkRewardSettlement rows row = some rows')
    (hversion : row.policyVersion = policyVersion) (hitem : row.itemId = charge.itemId)
    (hamount : row.amountWei = charge.deltaWei)
    (hloop : loop.accruedByItem = readAccruedRewardTotals rows policyVersion)
    (hexisting : charge.existing = loop.accruedByItem charge.itemId)
    (hlt : charge.existing.accruedWei < charge.targetTotalWei) :
    (loop.record charge).accruedByItem = readAccruedRewardTotals rows' policyVersion := by
  funext itemId
  by_cases heq : charge.itemId = itemId
  · subst heq
    have hrows := rowsOf_insert_self hinsert hversion
    rw [hitem] at hrows
    have hread : charge.existing = readAccruedRewardTotals rows policyVersion charge.itemId := by
      rw [hexisting, hloop]
    rw [accruedByItem_record_self, readAccruedRewardTotals, hrows]
    simp only [List.map_append, List.map_singleton, List.sum_append, List.sum_singleton,
      List.length_append, List.length_singleton, AccruedTotal.mk.injEq, hamount, Charge.deltaWei]
    rw [hread] at hlt ⊢
    dsimp only [readAccruedRewardTotals] at hlt ⊢
    omega
  · rw [accruedByItem_record_of_ne heq, hloop, readAccruedRewardTotals, readAccruedRewardTotals,
      rowsOf_insert_of_ne hinsert fun hrow => heq (hitem ▸ hrow.2)]

end PolicyLoop

/-! ### What the loop charges -/

/-- **What settling a group does**: it charges some of the items, once each, for what their targets
exceed what is recorded, and leaves those targets recorded; and it passes over nobody who is owed
anything, if it is not stopped. -/
structure Settles (loop : PolicyLoop) (candidates : List PolicyCandidate)
    (result : PolicyLoop × List Charge) : Prop where
  nodup : (result.2.map Charge.itemId).Nodup
  charged : ∀ charge ∈ result.2, charge.candidate ∈ candidates ∧
    loop.chargeFor charge.candidate = some charge
  recorded : ∀ charge ∈ result.2, result.1.accruedByItem charge.itemId =
    { accruedWei := charge.targetTotalWei, count := charge.existing.count + 1 }
  others : ∀ itemId, itemId ∉ result.2.map Charge.itemId →
    result.1.accruedByItem itemId = loop.accruedByItem itemId
  complete : loop.maxSettlements = 0 ∨ loop.settlements + result.2.length < loop.maxSettlements →
    ∀ candidate ∈ candidates, result.1.chargeFor candidate = none
  targets_eq : result.1.targets = loop.targets

section

variable {loop : PolicyLoop} {candidate : PolicyCandidate} {charge : Charge}

/-- What is charged is for the candidate. -/
theorem chargeFor_candidate (h : loop.chargeFor candidate = some charge) :
    charge.candidate = candidate := by
  rw [PolicyLoop.chargeFor] at h
  split at h
  next => cases h
  next => exact (Option.some.inj h) ▸ rfl

/-- **Nobody is owed what is recorded.** -/
theorem chargeFor_eq_none_iff : loop.chargeFor candidate = none ↔
    (Js.mapGet loop.targets candidate.itemId).getD 0 ≤
      (loop.accruedByItem candidate.itemId).accruedWei := by
  rw [PolicyLoop.chargeFor]
  split
  next hnone =>
    refine iff_of_true rfl ?_
    rcases hnone with hzero | hle
    · rw [hzero]
      exact Nat.zero_le _
    · exact hle
  next hsome => exact iff_of_false (Option.some_ne_none _) fun hle => hsome (.inr hle)

/-- The candidates are charged from what is recorded of their own items. -/
theorem chargeFor_congr {loop' : PolicyLoop} (htargets : loop'.targets = loop.targets)
    (haccrued : loop'.accruedByItem candidate.itemId = loop.accruedByItem candidate.itemId) :
    loop'.chargeFor candidate = loop.chargeFor candidate := by
  rw [PolicyLoop.chargeFor, PolicyLoop.chargeFor, htargets, haccrued]

/-- An item is charged once. -/
theorem chargeFor_record_self (h : loop.chargeFor candidate = some charge)
    {candidate' : PolicyCandidate} (hitem : candidate'.itemId = charge.itemId) :
    (loop.record charge).chargeFor candidate' = none := by
  obtain ⟨htarget, -, -⟩ := PolicyLoop.chargeFor_eq_some h
  rw [chargeFor_eq_none_iff, hitem, PolicyLoop.accruedByItem_record_self]
  exact Nat.le_of_eq (congrArg (Option.getD · 0) htarget)

/-- Who is owed nothing is owed nothing when more is recorded. -/
theorem chargeFor_eq_none_of_le {loop' : PolicyLoop} (htargets : loop'.targets = loop.targets)
    (hle : (loop.accruedByItem candidate.itemId).accruedWei ≤
      (loop'.accruedByItem candidate.itemId).accruedWei)
    (h : loop.chargeFor candidate = none) : loop'.chargeFor candidate = none := by
  rw [chargeFor_eq_none_iff, htargets]
  exact (chargeFor_eq_none_iff.mp h).trans hle

variable {candidates : List PolicyCandidate} {result : PolicyLoop × List Charge}

/-- **Nothing that is recorded is taken back.** -/
theorem Settles.accruedWei_le (h : Settles loop candidates result) (itemId : String) :
    (loop.accruedByItem itemId).accruedWei ≤ (result.1.accruedByItem itemId).accruedWei := by
  by_cases hmem : itemId ∈ result.2.map Charge.itemId
  · obtain ⟨charge, hcharge, rfl⟩ := List.mem_map.mp hmem
    obtain ⟨-, hexisting, hlt⟩ := PolicyLoop.chargeFor_eq_some (h.charged charge hcharge).2
    rw [h.recorded charge hcharge, ← hexisting]
    exact Nat.le_of_lt hlt
  · rw [h.others itemId hmem]

/-- **The loop settles a group.** -/
theorem settles_settleGroup (loop : PolicyLoop) (candidates : List PolicyCandidate) :
    Settles loop candidates (PolicyLoop.settleGroup candidates loop) := by
  induction candidates generalizing loop with
  | nil => exact ⟨List.nodup_nil, nofun, nofun, fun _ _ => rfl, fun _ => nofun, rfl⟩
  | cons candidate candidates ih =>
    rw [PolicyLoop.settleGroup]
    split
    next hcapped =>
      refine ⟨List.nodup_nil, nofun, nofun, fun _ _ => rfl, fun hopen => ?_, rfl⟩
      obtain ⟨hne, hge⟩ := hcapped
      rcases hopen with hzero | hlt
      · exact absurd hzero hne
      · exact absurd hlt (Nat.not_lt.mpr hge)
    next =>
      split
      next hnone =>
        have hrest := ih { loop with candidates }
        refine ⟨hrest.nodup, fun charge hmem => ?_, hrest.recorded, hrest.others, fun hopen => ?_,
          hrest.targets_eq⟩
        · obtain ⟨hcandidate, hcharge⟩ := hrest.charged charge hmem
          exact ⟨List.mem_cons_of_mem _ hcandidate, hcharge⟩
        · exact List.forall_mem_cons.mpr ⟨chargeFor_eq_none_of_le hrest.targets_eq
            (hrest.accruedWei_le _) hnone, hrest.complete hopen⟩
      next charge hcharge =>
        have hrest := ih ({ loop with candidates }.record charge)
        have hrecord : ∀ {candidate' : PolicyCandidate}, candidate'.itemId = charge.itemId →
            ({ loop with candidates }.record charge).chargeFor candidate' = none :=
          fun hitem => chargeFor_record_self hcharge hitem
        -- The item of this candidate is not charged again.
        have hne : ∀ charge' ∈ (PolicyLoop.settleGroup candidates
            ({ loop with candidates }.record charge)).2, charge'.itemId ≠ charge.itemId := by
          intro charge' hmem hitem
          have hcharge' := (hrest.charged charge' hmem).2
          rw [hrecord hitem] at hcharge'
          cases hcharge'
        have hnotMem : charge.itemId ∉ (PolicyLoop.settleGroup candidates
            ({ loop with candidates }.record charge)).2.map Charge.itemId := by
          intro hmem
          obtain ⟨charge', hmem', hitem⟩ := List.mem_map.mp hmem
          exact hne charge' hmem' hitem
        refine ⟨List.nodup_cons.mpr ⟨hnotMem, hrest.nodup⟩, List.forall_mem_cons.mpr ⟨?_, ?_⟩,
          List.forall_mem_cons.mpr ⟨?_, hrest.recorded⟩, fun itemId hitem => ?_, fun hopen => ?_,
          hrest.targets_eq⟩
        · obtain rfl := chargeFor_candidate hcharge
          exact ⟨List.mem_cons_self, hcharge⟩
        · intro charge' hmem
          obtain ⟨hcandidate, hcharge'⟩ := hrest.charged charge' hmem
          have hsame : ({ loop with candidates }.record charge).chargeFor charge'.candidate =
              loop.chargeFor charge'.candidate :=
            chargeFor_congr rfl (PolicyLoop.accruedByItem_record_of_ne (hne charge' hmem).symm)
          exact ⟨List.mem_cons_of_mem _ hcandidate, hsame ▸ hcharge'⟩
        · rw [hrest.others _ hnotMem]
          exact PolicyLoop.accruedByItem_record_self
        · obtain ⟨hother, hothers⟩ := not_or.mp fun hor => hitem (List.mem_cons.mpr hor)
          rw [hrest.others itemId hothers]
          exact PolicyLoop.accruedByItem_record_of_ne (Ne.symm hother)
        · have hopen' : loop.maxSettlements = 0 ∨ loop.settlements + 1 + (PolicyLoop.settleGroup
              candidates ({ loop with candidates }.record charge)).2.length <
                loop.maxSettlements := by
            rw [List.length_cons] at hopen
            omega
          refine List.forall_mem_cons.mpr ⟨?_, hrest.complete hopen'⟩
          refine chargeFor_eq_none_of_le hrest.targets_eq (hrest.accruedWei_le _) (hrecord ?_)
          rw [Charge.itemId, chargeFor_candidate hcharge]

end

/-! ### Runs of a group -/

/-- What a run of a group starts from: its pool, and what is recorded for each item. -/
structure GroupState where
  poolBalanceWei : ℕ
  accruedByItem : String → AccruedTotal

section

variable (attentionPressureBps : ℕ) (candidates : List PolicyCandidate)
  (workKind : ClaimRewardWorkKind) (maxSettlements : ℕ) (s : GroupState)

/-- The loop of a run that has read the pool of its only group. -/
def groupLoop : PolicyLoop :=
  PolicyLoop.enter
    { maxSettlements
      settlements := 0
      accruedByItem := s.accruedByItem
      groups := []
      targets := []
      candidates := [] } attentionPressureBps candidates s.poolBalanceWei workKind

/-- **A run of a group**, and what it has charged. -/
def groupRun : GroupState × List Charge :=
  let loop := groupLoop attentionPressureBps candidates workKind maxSettlements s
  let settled := loop.settleGroup loop.candidates
  ({ poolBalanceWei := s.poolBalanceWei - (settled.2.map Charge.deltaWei).sum
     accruedByItem := settled.1.accruedByItem }, settled.2)

/-- The target of an item: that of the last candidate for it. -/
def itemTarget (poolBalanceWei : ℕ) (itemId : String) : ℕ :=
  (Js.mapGet (candidates.map fun candidate => (candidate.itemId,
    targetTotal attentionPressureBps candidates poolBalanceWei workKind candidate)) itemId).getD 0

/-- **What a run of a group does**, whether or not there is anything to distribute. -/
structure GroupSettled (result : GroupState × List Charge) : Prop where
  nodup : (result.2.map Charge.itemId).Nodup
  charged : ∀ charge ∈ result.2, charge.candidate ∈ candidates ∧
    charge.targetTotalWei =
      itemTarget attentionPressureBps candidates workKind s.poolBalanceWei charge.itemId ∧
    charge.existing = s.accruedByItem charge.itemId ∧
    charge.existing.accruedWei < charge.targetTotalWei
  recorded : ∀ charge ∈ result.2, result.1.accruedByItem charge.itemId =
    { accruedWei := charge.targetTotalWei, count := charge.existing.count + 1 }
  others : ∀ itemId, itemId ∉ result.2.map Charge.itemId →
    result.1.accruedByItem itemId = s.accruedByItem itemId
  complete : maxSettlements = 0 ∨ result.2.length < maxSettlements → ∀ candidate ∈ candidates,
    itemTarget attentionPressureBps candidates workKind s.poolBalanceWei candidate.itemId ≤
      (result.1.accruedByItem candidate.itemId).accruedWei
  pool_eq : result.1.poolBalanceWei =
    s.poolBalanceWei - (result.2.map Charge.deltaWei).sum

end

section

variable {attentionPressureBps : ℕ} {candidates : List PolicyCandidate}
  {workKind : ClaimRewardWorkKind} {maxSettlements : ℕ} {s : GroupState}

/-- **The target of an item grows with the pool.** -/
theorem itemTarget_mono {poolBalanceWei poolBalanceWei' : ℕ} (h : poolBalanceWei ≤ poolBalanceWei')
    (itemId : String) :
    itemTarget attentionPressureBps candidates workKind poolBalanceWei itemId ≤
      itemTarget attentionPressureBps candidates workKind poolBalanceWei' itemId := by
  unfold itemTarget
  rw [Js.mapGet_map_key, Js.mapGet_map_key]
  cases (candidates.filter (·.itemId = itemId)).getLast? with
  | none => exact Nat.le_refl _
  | some candidate => exact targetTotal_mono h

/-- If nothing is distributed, no item has a target. -/
theorem itemTarget_eq_zero {poolBalanceWei : ℕ}
    (h : distributablePool attentionPressureBps poolBalanceWei workKind = 0) (itemId : String) :
    itemTarget attentionPressureBps candidates workKind poolBalanceWei itemId = 0 := by
  rw [itemTarget, Js.mapGet_map_key]
  cases (candidates.filter (·.itemId = itemId)).getLast? with
  | none => rfl
  | some candidate =>
    rw [Option.map_some, Option.getD_some, targetTotal, h, ProRata.share_zero_left]

/-- **A run of a group settles it.** -/
theorem groupSettled_groupRun : GroupSettled attentionPressureBps candidates workKind
    maxSettlements s (groupRun attentionPressureBps candidates workKind maxSettlements s) := by
  by_cases hnothing : s.poolBalanceWei = 0 ∨
    distributablePool attentionPressureBps s.poolBalanceWei workKind = 0
  · -- The group is not entered, and nobody has a target in it.
    have hrun : groupRun attentionPressureBps candidates workKind maxSettlements s = (s, []) := by
      rw [groupRun, groupLoop, PolicyLoop.enter_of_nothing hnothing]
      rfl
    have hzero : distributablePool attentionPressureBps s.poolBalanceWei workKind = 0 := by
      rcases hnothing with hpool | hzero
      · exact Nat.le_zero.mp (hpool ▸ distributablePool_le)
      · exact hzero
    rw [hrun]
    exact ⟨List.nodup_nil, nofun, nofun, fun _ _ => rfl,
      fun _ candidate _ => (itemTarget_eq_zero hzero _).le.trans (Nat.zero_le _), rfl⟩
  · have hloop : groupLoop attentionPressureBps candidates workKind maxSettlements s =
        { maxSettlements, settlements := 0, accruedByItem := s.accruedByItem, groups := []
          targets := candidates.map fun candidate => (candidate.itemId,
            targetTotal attentionPressureBps candidates s.poolBalanceWei workKind candidate)
          candidates } :=
      PolicyLoop.enter_of_something hnothing
    have hsettles := settles_settleGroup
      (groupLoop attentionPressureBps candidates workKind maxSettlements s)
      (groupLoop attentionPressureBps candidates workKind maxSettlements s).candidates
    unfold groupRun
    rw [hloop] at hsettles ⊢
    refine ⟨hsettles.nodup, fun charge hmem => ?_, hsettles.recorded, hsettles.others,
      fun hopen candidate hmem => ?_, rfl⟩
    · obtain ⟨hcandidate, hcharge⟩ := hsettles.charged charge hmem
      obtain ⟨htarget, hexisting, hlt⟩ := PolicyLoop.chargeFor_eq_some hcharge
      exact ⟨hcandidate, (congrArg (Option.getD · 0) htarget).symm, hexisting, hlt⟩
    · have hnone := hsettles.complete (by simpa using hopen) candidate hmem
      rw [chargeFor_eq_none_iff, hsettles.targets_eq] at hnone
      exact hnone

variable {result : GroupState × List Charge}

/-- **A run of a group never takes back what is recorded**, and records no more than the target of
an item. -/
theorem GroupSettled.accruedWei_le
    (h : GroupSettled attentionPressureBps candidates workKind maxSettlements s result)
    (itemId : String) : (s.accruedByItem itemId).accruedWei ≤
      (result.1.accruedByItem itemId).accruedWei ∧
      (result.1.accruedByItem itemId).accruedWei ≤ max (s.accruedByItem itemId).accruedWei
        (itemTarget attentionPressureBps candidates workKind s.poolBalanceWei itemId) := by
  by_cases hmem : itemId ∈ result.2.map Charge.itemId
  · obtain ⟨charge, hcharge, rfl⟩ := List.mem_map.mp hmem
    obtain ⟨-, htarget, hexisting, hlt⟩ := h.charged charge hcharge
    rw [h.recorded charge hcharge, ← hexisting, ← htarget]
    exact ⟨Nat.le_of_lt hlt, Nat.le_max_right _ _⟩
  · rw [h.others itemId hmem]
    exact ⟨Nat.le_refl _, Nat.le_max_left _ _⟩

/-- **After a run that is not stopped** every item has the larger of what was recorded and of its
target. -/
theorem GroupSettled.accruedWei_eq
    (h : GroupSettled attentionPressureBps candidates workKind maxSettlements s result)
    (hopen : maxSettlements = 0 ∨ result.2.length < maxSettlements) {candidate : PolicyCandidate}
    (hmem : candidate ∈ candidates) : (result.1.accruedByItem candidate.itemId).accruedWei =
      max (s.accruedByItem candidate.itemId).accruedWei
        (itemTarget attentionPressureBps candidates workKind s.poolBalanceWei candidate.itemId) := by
  obtain ⟨hle, hge⟩ := h.accruedWei_le candidate.itemId
  exact Nat.le_antisymm hge (Nat.max_le.mpr ⟨hle, h.complete hopen candidate hmem⟩)

/-- **A run charges no more than the distributable pool.** -/
theorem GroupSettled.sum_deltaWei_le
    (h : GroupSettled attentionPressureBps candidates workKind maxSettlements s result) :
    (result.2.map Charge.deltaWei).sum ≤
      distributablePool attentionPressureBps s.poolBalanceWei workKind := by
  have hitems := Js.sum_mapGet_le (candidates.map fun candidate => (candidate.itemId,
    targetTotal attentionPressureBps candidates s.poolBalanceWei workKind candidate)) h.nodup
  rw [List.map_map, List.map_map] at hitems
  calc (result.2.map Charge.deltaWei).sum
      ≤ (result.2.map fun charge => itemTarget attentionPressureBps candidates workKind
          s.poolBalanceWei charge.itemId).sum := by
        refine List.sum_le_sum fun charge hmem => ?_
        rw [← (h.charged charge hmem).2.1]
        exact Nat.sub_le _ _
    _ ≤ (candidates.map
          (targetTotal attentionPressureBps candidates s.poolBalanceWei workKind)).sum := hitems
    _ ≤ _ := sum_targetTotal_le _ _ _ _

/-- A run that charges takes something from the pool. -/
theorem GroupSettled.pool_lt
    (h : GroupSettled attentionPressureBps candidates workKind maxSettlements s result)
    (hcharges : result.2 ≠ []) : result.1.poolBalanceWei < s.poolBalanceWei := by
  obtain ⟨charge, charges, heq⟩ := List.exists_cons_of_ne_nil hcharges
  obtain ⟨-, -, -, hlt⟩ := h.charged charge (heq ▸ List.mem_cons_self)
  have hsum := h.sum_deltaWei_le.trans distributablePool_le
  have hpool := h.pool_eq
  rw [heq, List.map_cons, List.sum_cons, Charge.deltaWei] at hsum hpool
  omega

theorem GroupSettled.pool_le
    (h : GroupSettled attentionPressureBps candidates workKind maxSettlements s result) :
    result.1.poolBalanceWei ≤ s.poolBalanceWei :=
  h.pool_eq ▸ Nat.sub_le _ _

/-- **A run that finds nothing to pay changes nothing.** -/
theorem GroupSettled.eq_of_nil
    (h : GroupSettled attentionPressureBps candidates workKind maxSettlements s result)
    (hcharges : result.2 = []) : result = (s, []) := by
  obtain ⟨s', charges⟩ := result
  obtain rfl : charges = [] := hcharges
  obtain ⟨poolBalanceWei, accruedByItem⟩ := s'
  obtain ⟨poolBalanceWei₀, accruedByItem₀⟩ := s
  obtain rfl : poolBalanceWei = poolBalanceWei₀ := h.pool_eq
  obtain rfl : accruedByItem = accruedByItem₀ := funext fun itemId => h.others itemId List.not_mem_nil
  rfl

/-- Nothing is paid when every target is recorded. -/
theorem groupRun_of_recorded (h : ∀ candidate ∈ candidates,
    itemTarget attentionPressureBps candidates workKind s.poolBalanceWei candidate.itemId ≤
      (s.accruedByItem candidate.itemId).accruedWei) :
    groupRun attentionPressureBps candidates workKind maxSettlements s = (s, []) := by
  have hsettled : GroupSettled attentionPressureBps candidates workKind maxSettlements s
      (groupRun attentionPressureBps candidates workKind maxSettlements s) := groupSettled_groupRun
  refine hsettled.eq_of_nil (List.eq_nil_iff_forall_not_mem.mpr fun charge hmem => ?_)
  obtain ⟨hcandidate, htarget, hexisting, hlt⟩ := hsettled.charged charge hmem
  have hle := h charge.candidate hcandidate
  rw [hexisting, htarget] at hlt
  exact Nat.not_le.mpr hlt hle

end

end ScientificProtocol.RewardPolicy
