import ScientificProtocol.RewardPolicy.Policy
import ScientificProtocol.Order.ProRata

/-!
# The targets of a group

What `deriveRewardTargetsForGroup` makes of a pool. Every base reward is a multiple of the scale
that qualities and pressures are divided by, so that the raw targets of a group are its qualities
times one number, and no rounding tells two markets apart: the targets are the distributable pool,
split among the candidates that meet the quality floor, by quality
(`ScientificProtocol.RewardPolicy.allocations_eq`). The market pressure cancels out. What remains of
it is in the distributable pool, which grows with the pool.

The exported function takes any pressure, or none (`deriveRewardTargets`); the loop of a run passes
one that has been clamped.
-/

namespace ScientificProtocol.RewardPolicy

open ProRata

/-! ### Clamps -/

section

variable {value value' min max : ℕ}

theorem clampInteger_le (h : min ≤ max) : clampInteger value min max ≤ max := by
  unfold clampInteger
  split
  · exact h
  · split <;> omega

theorem le_clampInteger (h : min ≤ max) : min ≤ clampInteger value min max := by
  unfold clampInteger
  split
  · exact Nat.le_refl _
  · split <;> omega

/-- A clamp keeps the order, of the values and of the upper bounds. -/
theorem clampInteger_mono {max' : ℕ} (hvalue : value ≤ value') (hmax : max ≤ max')
    (h : min ≤ max) : clampInteger value min max ≤ clampInteger value' min max' := by
  unfold clampInteger
  split <;> split <;> (try split) <;> (try split) <;> omega

end

/-! ### Weights -/

/-- What a candidate counts for: nothing, below the quality floor. -/
def qualityWeight (workKind : ClaimRewardWorkKind) (candidate : PolicyCandidate) : ℕ :=
  if candidate.qualityBps < (policyConfig workKind).minimumQualityBps then 0
  else candidate.qualityBps

/-- The pressure the raw targets of a group are multiplied by. -/
def groupMarketPressure (attentionPressureBps poolBalanceWei : ℕ)
    (workKind : ClaimRewardWorkKind) : ℕ :=
  clampInteger (marketPressureBps poolBalanceWei (policyConfig workKind).fundingTargetWei *
    attentionPressureBps / 10000) 5000 25000

/-- What is distributed of a pool. -/
def distributablePool (attentionPressureBps poolBalanceWei : ℕ)
    (workKind : ClaimRewardWorkKind) : ℕ :=
  clampInteger (poolBalanceWei * (policyConfig workKind).distributionFractionBps / 10000 *
    attentionPressureBps / 10000) 0 poolBalanceWei

section

variable {workKind : ClaimRewardWorkKind} {candidates : List PolicyCandidate}
  {candidate candidate' : PolicyCandidate} {attentionPressureBps poolBalanceWei : ℕ}

/-- **Every base reward is a multiple of the scale.** -/
theorem exists_baseRewardWei_eq (workKind : ClaimRewardWorkKind) :
    ∃ unit, 0 < unit ∧ (policyConfig workKind).baseRewardWei = 10000 * 10000 * unit := by
  cases workKind
  case challenge => exact ⟨80000000, by decide, rfl⟩
  case forecast => exact ⟨40000000, by decide, rfl⟩
  case maintenance => exact ⟨30000000, by decide, rfl⟩
  case replication => exact ⟨100000000, by decide, rfl⟩
  case review => exact ⟨50000000, by decide, rfl⟩
  case synthesis => exact ⟨60000000, by decide, rfl⟩

/-- **A raw target is the weight, times a number that all of the group have in common.** -/
theorem exists_rawTarget_eq (workKind : ClaimRewardWorkKind) (marketPressure : ℕ)
    (hpressure : 0 < marketPressure) :
    ∃ unit, 0 < unit ∧ ∀ candidate, rawTarget (policyConfig workKind) marketPressure candidate =
      unit * qualityWeight workKind candidate := by
  obtain ⟨unit, hunit, hbase⟩ := exists_baseRewardWei_eq workKind
  refine ⟨unit * marketPressure, Nat.mul_pos hunit hpressure, fun candidate => ?_⟩
  unfold rawTarget qualityWeight
  split
  · rw [Nat.mul_zero]
  · rw [hbase, Nat.mul_assoc, Nat.mul_assoc, Nat.mul_div_cancel_left _ (by decide)]
    rw [Nat.mul_comm candidate.qualityBps, Nat.mul_assoc]

theorem groupMarketPressure_pos :
    0 < groupMarketPressure attentionPressureBps poolBalanceWei workKind :=
  Nat.lt_of_lt_of_le (by decide) (le_clampInteger (by decide))

theorem sum_map_mul_left {α : Type} (c : ℕ) (f : α → ℕ) (l : List α) :
    (l.map fun a => c * f a).sum = c * (l.map f).sum := by
  induction l with
  | nil => rfl
  | cons a l ih => rw [List.map_cons, List.sum_cons, ih, List.map_cons, List.sum_cons, Nat.mul_add]

/-- **The target of a candidate**: its share of the distributable pool, by quality. -/
def targetTotal (attentionPressureBps : ℕ) (candidates : List PolicyCandidate)
    (poolBalanceWei : ℕ) (workKind : ClaimRewardWorkKind) (candidate : PolicyCandidate) : ℕ :=
  share (distributablePool attentionPressureBps poolBalanceWei workKind)
    (candidates.map (qualityWeight workKind)).sum (qualityWeight workKind candidate)

/-- **The targets of a group are shares by quality.** -/
theorem allocations_eq (attentionPressureBps : ℕ) (candidates : List PolicyCandidate)
    (poolBalanceWei : ℕ) (workKind : ClaimRewardWorkKind) :
    (deriveRewardTargetsForGroup attentionPressureBps candidates poolBalanceWei
      workKind).allocations = candidates.map fun candidate => (candidate.itemId,
        targetTotal attentionPressureBps candidates poolBalanceWei workKind candidate) := by
  obtain ⟨unit, hunit, hraw⟩ := exists_rawTarget_eq workKind
    (groupMarketPressure attentionPressureBps poolBalanceWei workKind) groupMarketPressure_pos
  have hsum : (candidates.map (rawTarget (policyConfig workKind)
      (groupMarketPressure attentionPressureBps poolBalanceWei workKind))).sum =
        unit * (candidates.map (qualityWeight workKind)).sum := by
    rw [← sum_map_mul_left]
    exact congrArg List.sum (List.map_congr_left fun candidate _ => hraw candidate)
  refine List.map_congr_left fun candidate _ => ?_
  change (candidate.itemId, if distributablePool attentionPressureBps poolBalanceWei workKind = 0 ∨
    (candidates.map (rawTarget (policyConfig workKind) (groupMarketPressure attentionPressureBps
      poolBalanceWei workKind))).sum = 0 then 0 else _) = _
  refine Prod.ext rfl ?_
  split
  next hnone =>
    -- Nothing is distributed, or nobody meets the floor: then every share is nothing, too.
    rcases hnone with hpool | hzero
    · simp only [targetTotal, hpool, share_zero_left]
    · rw [hsum] at hzero
      have hweights := (Nat.mul_eq_zero.mp hzero).resolve_left (Nat.ne_of_gt hunit)
      simp only [targetTotal, hweights, share, Nat.div_zero]
  next =>
    change distributablePool attentionPressureBps poolBalanceWei workKind *
      rawTarget (policyConfig workKind) (groupMarketPressure attentionPressureBps poolBalanceWei
        workKind) candidate / (candidates.map (rawTarget (policyConfig workKind)
          (groupMarketPressure attentionPressureBps poolBalanceWei workKind))).sum = _
    rw [hsum, hraw]
    exact share_mul_left hunit

/-- The part of a pool that is distributed. -/
theorem distributablePool_le :
    distributablePool attentionPressureBps poolBalanceWei workKind ≤ poolBalanceWei :=
  clampInteger_le (Nat.zero_le _)

/-- **More is distributed of a larger pool.** -/
theorem distributablePool_mono {poolBalanceWei' : ℕ} (h : poolBalanceWei ≤ poolBalanceWei') :
    distributablePool attentionPressureBps poolBalanceWei workKind ≤
      distributablePool attentionPressureBps poolBalanceWei' workKind := by
  refine clampInteger_mono ?_ h (Nat.zero_le _)
  exact Nat.div_le_div_right (Nat.mul_le_mul_right _ (Nat.div_le_div_right
    (Nat.mul_le_mul_right _ h)))

/-- **A target grows with the pool.** -/
theorem targetTotal_mono {poolBalanceWei' : ℕ} (h : poolBalanceWei ≤ poolBalanceWei') :
    targetTotal attentionPressureBps candidates poolBalanceWei workKind candidate ≤
      targetTotal attentionPressureBps candidates poolBalanceWei' workKind candidate :=
  share_mono_amount (distributablePool_mono h)

/-- A candidate below the floor has no target. -/
theorem targetTotal_of_lt
    (h : candidate.qualityBps < (policyConfig workKind).minimumQualityBps) :
    targetTotal attentionPressureBps candidates poolBalanceWei workKind candidate = 0 := by
  rw [targetTotal, qualityWeight, if_pos h, share_zero_right]

/-- **A target grows with the quality.** -/
theorem targetTotal_le_of_quality (h : candidate.qualityBps ≤ candidate'.qualityBps) :
    targetTotal attentionPressureBps candidates poolBalanceWei workKind candidate ≤
      targetTotal attentionPressureBps candidates poolBalanceWei workKind candidate' := by
  refine share_mono_weight ?_
  unfold qualityWeight
  split
  · exact Nat.zero_le _
  · split <;> omega

/-- The targets of a group. -/
theorem sum_targetTotal_le (attentionPressureBps : ℕ) (candidates : List PolicyCandidate)
    (poolBalanceWei : ℕ) (workKind : ClaimRewardWorkKind) :
    (candidates.map (targetTotal attentionPressureBps candidates poolBalanceWei workKind)).sum ≤
      distributablePool attentionPressureBps poolBalanceWei workKind := by
  have h := sum_share_le (distributablePool attentionPressureBps poolBalanceWei workKind)
    (candidates.map (qualityWeight workKind))
  rwa [List.map_map] at h

/-- A candidate counts exactly if it meets the floor. -/
theorem qualityWeight_pos : 0 < qualityWeight workKind candidate ↔
    (policyConfig workKind).minimumQualityBps ≤ candidate.qualityBps := by
  have hfloor : 0 < (policyConfig workKind).minimumQualityBps := by
    cases workKind <;> decide
  unfold qualityWeight
  split <;> omega

/-- **What is left of the distributable pool**, if somebody meets the floor. -/
theorem distributablePool_sub_lt (attentionPressureBps poolBalanceWei : ℕ)
    (h : ∃ candidate ∈ candidates,
      (policyConfig workKind).minimumQualityBps ≤ candidate.qualityBps) :
    distributablePool attentionPressureBps poolBalanceWei workKind -
      (candidates.map (targetTotal attentionPressureBps candidates poolBalanceWei workKind)).sum <
        candidates.countP fun candidate =>
          (policyConfig workKind).minimumQualityBps ≤ candidate.qualityBps := by
  obtain ⟨candidate, hmem, hfloor⟩ := h
  have hpos : 0 < (candidates.map (qualityWeight workKind)).sum :=
    Nat.lt_of_lt_of_le (qualityWeight_pos.mpr hfloor)
      (List.single_le_sum (fun _ _ => Nat.zero_le _) _ (List.mem_map_of_mem hmem))
  have hlt := amount_sub_sum_lt
    (distributablePool attentionPressureBps poolBalanceWei workKind) hpos
  rw [List.map_map, List.countP_map] at hlt
  refine hlt.trans_eq (List.countP_congr fun candidate _ => ?_)
  simp only [Function.comp_apply, decide_eq_true_eq]
  exact qualityWeight_pos

end

/-! ### The exported function -/

/-- `clampInteger`, on big integers. -/
def clampBigint (value min max : ℤ) : ℤ :=
  if value < min then min else if value > max then max else value

/-- `marketPressureBps`, on big integers, which are divided towards zero. -/
def marketPressureBigint (poolBalanceWei fundingTargetWei : ℤ) : ℤ :=
  if fundingTargetWei ≤ 0 then 10000
  else clampBigint ((poolBalanceWei * 10000).tdiv fundingTargetWei) 5000 20000

/-- What `deriveRewardTargetsForGroup` returns. -/
structure RewardTargets where
  /-- The target of each item, in the order of the candidates. -/
  allocations : List (String × ℤ)
  distributablePoolWei : ℤ
  marketPressureBps : ℤ
  deriving DecidableEq

def rawTargetBigint (config : PolicyConfig) (marketPressure : ℤ) (candidate : PolicyCandidate) :
    ℤ :=
  if candidate.qualityBps < config.minimumQualityBps then 0
  else
    let rawTarget : ℤ := ((config.baseRewardWei : ℤ) * candidate.qualityBps * marketPressure).tdiv
      (10000 * 10000)
    if rawTarget > 0 then rawTarget else 0

/-- `deriveRewardTargetsForGroup` with every pressure it accepts, and without one. -/
def deriveRewardTargets (attentionPressureBps : Option ℤ) (candidates : List PolicyCandidate)
    (poolBalanceWei : ℤ) (workKind : ClaimRewardWorkKind) : RewardTargets :=
  let config := policyConfig workKind
  let poolPressure := marketPressureBigint poolBalanceWei config.fundingTargetWei
  let attentionPressure := attentionPressureBps.getD 10000
  let marketPressure := clampBigint ((poolPressure * attentionPressure).tdiv 10000) 5000 25000
  let distributablePoolWei :=
    clampBigint (((poolBalanceWei * config.distributionFractionBps).tdiv 10000 *
      attentionPressure).tdiv 10000) 0 poolBalanceWei
  let rawTargetSum := (candidates.map (rawTargetBigint config marketPressure)).sum
  { allocations := candidates.map fun candidate => (candidate.itemId,
      if distributablePoolWei = 0 ∨ rawTargetSum = 0 then 0
      else (distributablePoolWei * rawTargetBigint config marketPressure candidate).tdiv
        rawTargetSum)
    distributablePoolWei
    marketPressureBps := marketPressure }

section

variable {workKind : ClaimRewardWorkKind} {candidates : List PolicyCandidate}
  {attentionPressureBps : Option ℤ} {poolBalanceWei : ℕ}

theorem clampBigint_natCast (value min max : ℕ) :
    clampBigint value min max = (clampInteger value min max : ℕ) := by
  unfold clampBigint clampInteger
  split <;> split <;> (try split) <;> (try split) <;> omega

/-- A pressure below zero is clamped as zero is. -/
theorem clampBigint_mul_tdiv (value min max : ℕ) (pressure : ℤ) :
    clampBigint ((value * pressure).tdiv 10000) min max =
      (clampInteger (value * pressure.toNat / 10000) min max : ℕ) := by
  rcases Int.le_total 0 pressure with hpressure | hpressure
  · obtain ⟨n, rfl⟩ := Int.eq_ofNat_of_zero_le hpressure
    rw [Int.toNat_natCast, ← clampBigint_natCast]
    rfl
  · obtain ⟨n, hn⟩ := Int.eq_ofNat_of_zero_le (Int.neg_nonneg_of_nonpos hpressure)
    obtain rfl : pressure = -(n : ℤ) := by omega
    have hquotient : (value * -(n : ℤ)).tdiv 10000 = -((value * n / 10000 : ℕ) : ℤ) := by
      rw [Int.mul_neg, Int.neg_tdiv]
      rfl
    rw [hquotient, Int.toNat_of_nonpos hpressure, Nat.mul_zero, Nat.zero_div]
    unfold clampBigint clampInteger
    split <;> split <;> (try split) <;> (try split) <;> omega

theorem marketPressureBigint_natCast {fundingTargetWei : ℕ} :
    marketPressureBigint poolBalanceWei fundingTargetWei =
      (marketPressureBps poolBalanceWei fundingTargetWei : ℕ) := by
  unfold marketPressureBigint marketPressureBps
  split <;> split
  · rfl
  · omega
  · omega
  · exact clampBigint_natCast _ 5000 20000

theorem rawTargetBigint_natCast {config : PolicyConfig} {marketPressure : ℕ}
    {candidate : PolicyCandidate} : rawTargetBigint config marketPressure candidate =
      (rawTarget config marketPressure candidate : ℕ) := by
  unfold rawTargetBigint rawTarget
  split
  · rfl
  · have hquotient : ((config.baseRewardWei : ℤ) * candidate.qualityBps * marketPressure).tdiv
        (10000 * 10000) = ((config.baseRewardWei * candidate.qualityBps * marketPressure /
          (10000 * 10000) : ℕ) : ℤ) := rfl
    dsimp only
    rw [hquotient]
    split <;> omega

theorem sum_map_natCast {α : Type} {f : α → ℤ} {g : α → ℕ} (h : ∀ a, f a = g a) (l : List α) :
    (l.map f).sum = ((l.map g).sum : ℕ) := by
  induction l with
  | nil => rfl
  | cons a l ih =>
    rw [List.map_cons, List.sum_cons, List.map_cons, List.sum_cons, h, ih, Nat.cast_add]

/-- **The targets of the exported function** are those of the loop, at the pressure a run would
have passed. -/
theorem deriveRewardTargets_eq : deriveRewardTargets attentionPressureBps candidates poolBalanceWei
    workKind =
      { allocations := candidates.map fun candidate => (candidate.itemId,
          (targetTotal (attentionPressureBps.getD 10000).toNat candidates poolBalanceWei workKind
            candidate : ℤ))
        distributablePoolWei :=
          distributablePool (attentionPressureBps.getD 10000).toNat poolBalanceWei workKind
        marketPressureBps :=
          groupMarketPressure (attentionPressureBps.getD 10000).toNat poolBalanceWei workKind } := by
  unfold deriveRewardTargets
  generalize attentionPressureBps.getD 10000 = pressure
  have hmarket : clampBigint ((marketPressureBigint poolBalanceWei
      (policyConfig workKind).fundingTargetWei * pressure).tdiv 10000) 5000 25000 =
        groupMarketPressure pressure.toNat poolBalanceWei workKind := by
    rw [marketPressureBigint_natCast]
    exact clampBigint_mul_tdiv _ 5000 25000 pressure
  have hpool : clampBigint ((((poolBalanceWei : ℤ) * (policyConfig workKind).distributionFractionBps
      ).tdiv 10000 * pressure).tdiv 10000) 0 poolBalanceWei =
        distributablePool pressure.toNat poolBalanceWei workKind :=
    clampBigint_mul_tdiv (poolBalanceWei * (policyConfig workKind).distributionFractionBps / 10000)
      0 poolBalanceWei pressure
  simp only [hmarket, hpool, RewardTargets.mk.injEq, and_true]
  rw [sum_map_natCast fun _ => rawTargetBigint_natCast]
  -- The two functions now agree term by term.
  have htargets := allocations_eq pressure.toNat candidates poolBalanceWei workKind
  refine List.map_congr_left fun candidate hmem => Prod.ext rfl ?_
  have htarget := (Prod.mk.inj (List.map_inj_left.mp htargets candidate hmem)).2
  simp only [rawTargetBigint_natCast, ← htarget, Nat.cast_eq_zero]
  change (if distributablePool pressure.toNat poolBalanceWei workKind = 0 ∨ (candidates.map
    (rawTarget (policyConfig workKind) (groupMarketPressure pressure.toNat poolBalanceWei
      workKind))).sum = 0 then (0 : ℤ) else _) = ((if distributablePool pressure.toNat poolBalanceWei
        workKind = 0 ∨ (candidates.map (rawTarget (policyConfig workKind) (groupMarketPressure
          pressure.toNat poolBalanceWei workKind))).sum = 0 then 0 else _ : ℕ) : ℤ)
  split <;> rfl

end

end ScientificProtocol.RewardPolicy
