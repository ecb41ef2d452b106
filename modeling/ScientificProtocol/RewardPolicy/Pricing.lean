import ScientificProtocol.RewardPolicy.Settlement
import ScientificProtocol.Js.Map
import Mathlib.Data.List.Sort

/-!
# What a piece of work is worth

The arithmetic of `src/rewards/policy.ts`: the candidates of one claim and one kind of
work share what the policy distributes of their pool, by quality, and quality is
discounted where several candidates have the same operator, agent or recipient.

The qualities themselves are computed in floating point and are given here. Everything
after them is exact: amounts are big integers, and the one rounding, of a discounted
quality, is of a number a double holds exactly enough.
-/

namespace ScientificProtocol.RewardPolicy

open Evm

/-- A candidate of the policy. -/
structure PolicyCandidate where
  agentId : Option ℕ
  budgetTopUpBps : UInt16
  claimId : ℕ
  itemId : String
  operator : Option Address
  qualityBps : ℕ
  recipient : Option Address
  workKind : ClaimRewardWorkKind
  deriving DecidableEq

/-! ### The configuration -/

/-- `POLICY_CONFIG` of one kind of work. -/
structure PolicyConfig where
  baseRewardWei : ℕ
  distributionFractionBps : ℕ
  fundingTargetWei : ℕ
  minimumQualityBps : ℕ
  deriving DecidableEq

/-- `parseEther`, of a number of thousandths. -/
def milliEther (thousandths : ℕ) : ℕ := thousandths * 10 ^ 15

/-- `POLICY_CONFIG`. -/
def policyConfig : ClaimRewardWorkKind → PolicyConfig
  | .challenge => {
      baseRewardWei := milliEther 8
      distributionFractionBps := 6000
      fundingTargetWei := milliEther 80
      minimumQualityBps := 6500 }
  | .forecast => {
      baseRewardWei := milliEther 4
      distributionFractionBps := 4000
      fundingTargetWei := milliEther 40
      minimumQualityBps := 6000 }
  | .maintenance => {
      baseRewardWei := milliEther 3
      distributionFractionBps := 5000
      fundingTargetWei := milliEther 30
      minimumQualityBps := 7000 }
  | .replication => {
      baseRewardWei := milliEther 10
      distributionFractionBps := 7000
      fundingTargetWei := milliEther 100
      minimumQualityBps := 7500 }
  | .review => {
      baseRewardWei := milliEther 5
      distributionFractionBps := 6000
      fundingTargetWei := milliEther 50
      minimumQualityBps := 6000 }
  | .synthesis => {
      baseRewardWei := milliEther 6
      distributionFractionBps := 5000
      fundingTargetWei := milliEther 60
      minimumQualityBps := 7500 }

/-! ### Targets -/

def clampInteger (value min max : ℕ) : ℕ :=
  if value < min then min else if value > max then max else value

def marketPressureBps (poolBalanceWei fundingTargetWei : ℕ) : ℕ :=
  if fundingTargetWei = 0 then 10000
  else clampInteger (poolBalanceWei * 10000 / fundingTargetWei) 5000 20000

/-- What the targets of a group are computed from and to. -/
structure GroupTargets where
  /-- The target of each item, in the order of the candidates. -/
  allocations : List (String × ℕ)
  distributablePoolWei : ℕ
  deriving DecidableEq

def rawTarget (config : PolicyConfig) (marketPressure : ℕ) (candidate : PolicyCandidate) : ℕ :=
  if candidate.qualityBps < config.minimumQualityBps then 0
  else config.baseRewardWei * candidate.qualityBps * marketPressure / (10000 * 10000)

def deriveRewardTargetsForGroup (attentionPressureBps : ℕ) (candidates : List PolicyCandidate)
    (poolBalanceWei : ℕ) (workKind : ClaimRewardWorkKind) : GroupTargets :=
  let config := policyConfig workKind
  let poolPressure := marketPressureBps poolBalanceWei config.fundingTargetWei
  let marketPressure := clampInteger (poolPressure * attentionPressureBps / 10000) 5000 25000
  let distributablePoolWei :=
    clampInteger (poolBalanceWei * config.distributionFractionBps / 10000 * attentionPressureBps /
      10000) 0 poolBalanceWei
  let rawTargetSum := (candidates.map (rawTarget config marketPressure)).sum
  { allocations := candidates.map fun candidate => (candidate.itemId,
      if distributablePoolWei = 0 ∨ rawTargetSum = 0 then 0
      else distributablePoolWei * rawTarget config marketPressure candidate / rawTargetSum)
    distributablePoolWei }

/-! ### Discounts -/

/-- What candidates are counted together by. -/
inductive BucketKey where
  | all
  | account (account : Address)
  | agent (agentId : ℕ)
  | unassigned (itemId : String)
  deriving DecidableEq

/-- `Math.round` of the quality at so many basis points. -/
def discountedBps (qualityBps discountBps : ℕ) : ℕ := (qualityBps * discountBps + 5000) / 10000

/-- A bucket from the highest quality to the lowest, each candidate discounted by its place. -/
def rankBucket (stepBps minimumBps : ℕ) (bucket : List PolicyCandidate) : List PolicyCandidate :=
  (bucket.insertionSort fun left right => right.qualityBps ≤ left.qualityBps).mapIdx
    fun index candidate => { candidate with
      qualityBps := discountedBps candidate.qualityBps (max minimumBps (10000 - index * stepBps)) }

def applyRankDiscounts (bucketKey : PolicyCandidate → BucketKey) (stepBps minimumBps : ℕ)
    (candidates : List PolicyCandidate) : List PolicyCandidate :=
  let adjusted := (Js.groupBy bucketKey candidates).flatMap fun bucket =>
    (rankBucket stepBps minimumBps bucket.2).map fun candidate => (candidate.itemId, candidate)
  candidates.filterMap fun candidate => Js.mapGet adjusted candidate.itemId

/-- The account, or else the item alone. -/
def accountKey (account : Option Address) (itemId : String) : BucketKey :=
  match account with
  | some account => .account account
  | none => .unassigned itemId

def applyRedundancyDiscounts (candidates : List PolicyCandidate) : List PolicyCandidate :=
  applyRankDiscounts (fun _ => .all) 1500 5500 candidates

def applyRecipientConcentrationDiscounts (candidates : List PolicyCandidate) :
    List PolicyCandidate :=
  let operatorAdjusted := applyRankDiscounts
    (fun candidate => accountKey candidate.operator candidate.itemId) 1250 6000 candidates
  let identityAdjusted := applyRankDiscounts
    (fun candidate => match candidate.agentId with
      | some (agentId + 1) => .agent (agentId + 1)
      | _ => accountKey candidate.recipient candidate.itemId) 1500 5000 operatorAdjusted
  applyRankDiscounts
    (fun candidate => accountKey candidate.recipient candidate.itemId) 2000 4500 identityAdjusted

def applyCandidateQualityDiscounts (candidates : List PolicyCandidate) : List PolicyCandidate :=
  applyRecipientConcentrationDiscounts (applyRedundancyDiscounts candidates)

/-! ### What the discounts leave alone -/

/-- The candidate, apart from its quality. -/
def PolicyCandidate.Same (candidate candidate' : PolicyCandidate) : Prop :=
  ∃ qualityBps, candidate = { candidate' with qualityBps }

theorem PolicyCandidate.Same.trans {a b c : PolicyCandidate} (hab : a.Same b) (hbc : b.Same c) :
    a.Same c := by
  obtain ⟨q, rfl⟩ := hab
  obtain ⟨q', rfl⟩ := hbc
  exact ⟨q, rfl⟩

/-- **A ranking changes qualities only.** -/
theorem same_of_mem_rankDiscounts {bucketKey : PolicyCandidate → BucketKey}
    {stepBps minimumBps : ℕ} {candidates : List PolicyCandidate} {candidate : PolicyCandidate}
    (h : candidate ∈ applyRankDiscounts bucketKey stepBps minimumBps candidates) :
    ∃ original ∈ candidates, candidate.Same original := by
  obtain ⟨_, -, hget⟩ := List.mem_filterMap.mp h
  obtain ⟨⟨key, bucket⟩, hbucket, hentry⟩ := List.mem_flatMap.mp (Js.mem_of_mapGet hget)
  obtain ⟨ranked, hranked, heq⟩ := List.mem_map.mp hentry
  obtain ⟨-, rfl⟩ := Prod.mk.inj heq
  -- The ranked bucket is the bucket in another order, up to the qualities.
  obtain ⟨index, hindex, rfl⟩ := List.mem_mapIdx.mp hranked
  have hmem := (List.perm_insertionSort _ bucket).mem_iff.mp (List.getElem_mem hindex)
  exact ⟨_, (Js.mem_of_mem_groupBy hbucket hmem).1, _, rfl⟩

/-- **The discounts change qualities only.** -/
theorem same_of_mem_discounts {candidates : List PolicyCandidate} {candidate : PolicyCandidate}
    (h : candidate ∈ applyCandidateQualityDiscounts candidates) :
    ∃ original ∈ candidates, candidate.Same original := by
  obtain ⟨c₁, h₁, hsame₁⟩ := same_of_mem_rankDiscounts h
  obtain ⟨c₂, h₂, hsame₂⟩ := same_of_mem_rankDiscounts h₁
  obtain ⟨c₃, h₃, hsame₃⟩ := same_of_mem_rankDiscounts h₂
  obtain ⟨c₄, h₄, hsame₄⟩ := same_of_mem_rankDiscounts h₃
  exact ⟨c₄, h₄, ((hsame₁.trans hsame₂).trans hsame₃).trans hsame₄⟩

end ScientificProtocol.RewardPolicy
