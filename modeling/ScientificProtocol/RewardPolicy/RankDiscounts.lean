import Mathlib.Data.List.Forall2
import ScientificProtocol.RewardPolicy.Pricing

/-!
# Does the order of the candidates matter?

A discount by rank sorts the candidates of a bucket by their qualities, and the sort leaves
candidates of one quality as they come. So the first of two equal candidates gets more, as the
tests of the policy want it (`ScientificProtocol.RewardPolicy.tie_by_position`), and the next
stage, which ranks them anew, goes on from there.

Where no stage tells such candidates apart (`ScientificProtocol.RewardPolicy.TiesAgree`) the order
of the candidates does not matter, for the qualities and for the targets that come of them.
Whatever the order, no candidate is lost or moved, and none gets better.
-/

namespace ScientificProtocol.RewardPolicy

/-! ### One stage -/

/-- A discount by rank: what is counted together, how much each place costs, and the least that
is left. -/
structure RankStage where
  bucketKey : PolicyCandidate → BucketKey
  stepBps : ℕ
  minimumBps : ℕ
  minimum_le : minimumBps ≤ 10000

/-- What the stage makes of the candidates. -/
def RankStage.run (stage : RankStage) (candidates : List PolicyCandidate) :
    List PolicyCandidate :=
  applyRankDiscounts stage.bucketKey stage.stepBps stage.minimumBps candidates

/-- The bucket of a candidate, from the highest quality to the lowest. -/
def RankStage.ranking (stage : RankStage) (candidates : List PolicyCandidate)
    (candidate : PolicyCandidate) : List PolicyCandidate :=
  (candidates.filter (stage.bucketKey · = stage.bucketKey candidate)).insertionSort
    fun left right => right.qualityBps ≤ left.qualityBps

/-- The quality of a candidate at a place of its bucket. -/
def RankStage.qualityAt (stage : RankStage) (index : ℕ) (qualityBps : ℕ) : ℕ :=
  discountedBps qualityBps (max stage.minimumBps (10000 - index * stage.stepBps))

/-- One candidate comes out as another one: it has a place in its bucket, and is discounted by
that place. -/
def RankStage.ComesOut (stage : RankStage) (candidates : List PolicyCandidate)
    (candidate adjusted : PolicyCandidate) : Prop :=
  ∃ index, (stage.ranking candidates candidate)[index]? = some candidate ∧
    adjusted = { candidate with qualityBps := stage.qualityAt index candidate.qualityBps }

/-- Candidates that tie in their bucket come out equal. -/
def RankStage.TiesAgree (stage : RankStage) (candidates : List PolicyCandidate) : Prop :=
  ∀ entry ∈ candidates.zip (stage.run candidates), ∀ entry' ∈ candidates.zip (stage.run candidates),
    stage.bucketKey entry.1 = stage.bucketKey entry'.1 → entry.1.qualityBps = entry'.1.qualityBps →
      entry.2.qualityBps = entry'.2.qualityBps

/-- No discount makes a quality better. -/
theorem discountedBps_le {qualityBps discountBps : ℕ} (h : discountBps ≤ 10000) :
    discountedBps qualityBps discountBps ≤ qualityBps := by
  have hmul : qualityBps * discountBps ≤ qualityBps * 10000 := Nat.mul_le_mul_left _ h
  rw [discountedBps]
  omega

section

variable {stage : RankStage} {candidates candidates' : List PolicyCandidate}
  {candidate adjusted adjusted' : PolicyCandidate}

theorem mem_ranking {other : PolicyCandidate} : other ∈ stage.ranking candidates candidate ↔
    other ∈ candidates ∧ stage.bucketKey other = stage.bucketKey candidate := by
  rw [RankStage.ranking, List.mem_insertionSort, List.mem_filter, decide_eq_true_eq]

/-- A stage keeps the candidate, but for its quality. -/
theorem RankStage.ComesOut.same (h : stage.ComesOut candidates candidate adjusted) :
    adjusted.Same candidate := by
  obtain ⟨index, -, rfl⟩ := h
  exact ⟨_, rfl⟩

theorem RankStage.ComesOut.le (h : stage.ComesOut candidates candidate adjusted) :
    adjusted.qualityBps ≤ candidate.qualityBps := by
  obtain ⟨index, -, rfl⟩ := h
  refine discountedBps_le (max_le stage.minimum_le ?_)
  omega

/-- The one entry of an item in the map of a stage. -/
theorem comesOut_of_mapGet (hnodup : (candidates.map PolicyCandidate.itemId).Nodup)
    (hmem : candidate ∈ candidates)
    (h : Js.mapGet ((Js.groupBy stage.bucketKey candidates).flatMap fun bucket =>
      (rankBucket stage.stepBps stage.minimumBps bucket.2).map fun c => (c.itemId, c))
        candidate.itemId = some adjusted) : stage.ComesOut candidates candidate adjusted := by
  obtain ⟨⟨key, bucket⟩, hbucket, hentry⟩ := List.mem_flatMap.mp (Js.mem_of_mapGet h)
  obtain ⟨ranked, hranked, heq⟩ := List.mem_map.mp hentry
  obtain ⟨hitem, rfl⟩ := Prod.mk.inj heq
  obtain ⟨index, hindex, rfl⟩ := List.mem_mapIdx.mp hranked
  have hplace := List.getElem_mem hindex
  obtain ⟨horiginal, hkey⟩ := Js.mem_of_mem_groupBy hbucket
    ((List.mem_insertionSort _).mp hplace)
  obtain ⟨key', -, hgroup⟩ := List.mem_map.mp hbucket
  obtain ⟨rfl, rfl⟩ := Prod.mk.inj hgroup
  -- No other candidate has the item.
  have hsame := List.inj_on_of_nodup_map hnodup horiginal hmem hitem
  refine ⟨index, ?_, congrArg (fun c : PolicyCandidate =>
    { c with qualityBps := stage.qualityAt index c.qualityBps }) hsame⟩
  rw [← hsame, RankStage.ranking, hkey]
  exact List.getElem?_eq_getElem hindex

/-- Every item has an entry. -/
theorem exists_mapGet (stage : RankStage) (hmem : candidate ∈ candidates) :
    ∃ adjusted, Js.mapGet ((Js.groupBy stage.bucketKey candidates).flatMap fun bucket =>
      (rankBucket stage.stepBps stage.minimumBps bucket.2).map fun c => (c.itemId, c))
        candidate.itemId = some adjusted := by
  have hbucket : (stage.bucketKey candidate, candidates.filter
      (stage.bucketKey · = stage.bucketKey candidate)) ∈
        Js.groupBy stage.bucketKey candidates :=
    List.mem_map.mpr ⟨_, List.mem_eraseDups.mpr (List.mem_map_of_mem hmem), rfl⟩
  have hplace : candidate ∈ stage.ranking candidates candidate := mem_ranking.mpr ⟨hmem, rfl⟩
  obtain ⟨index, hindex, hget⟩ := List.mem_iff_getElem.mp hplace
  have hranked : { candidate with qualityBps := stage.qualityAt index candidate.qualityBps } ∈
      rankBucket stage.stepBps stage.minimumBps
        (candidates.filter (stage.bucketKey · = stage.bucketKey candidate)) := by
    refine List.mem_mapIdx.mpr ⟨index, hindex, ?_⟩
    exact congrArg (fun c : PolicyCandidate =>
      { c with qualityBps := stage.qualityAt index c.qualityBps }) hget
  have hentry : (candidate.itemId, { candidate with
      qualityBps := stage.qualityAt index candidate.qualityBps }) ∈
      (Js.groupBy stage.bucketKey candidates).flatMap fun bucket =>
        (rankBucket stage.stepBps stage.minimumBps bucket.2).map fun c => (c.itemId, c) :=
    List.mem_flatMap.mpr ⟨_, hbucket, List.mem_map.mpr ⟨_, hranked, rfl⟩⟩
  rw [Js.mapGet]
  refine Option.isSome_iff_exists.mp (List.getLast?_isSome.mpr ?_)
  refine List.ne_nil_of_mem (List.mem_map_of_mem (List.mem_filter.mpr ⟨hentry, ?_⟩))
  exact decide_eq_true rfl

/-- A list that is read through a map which has something for each entry. -/
theorem forall₂_filterMap {α β : Type} {R : α → β → Prop} {f : α → Option β} {xs : List α}
    (h : ∀ x ∈ xs, ∃ y, f x = some y ∧ R x y) : List.Forall₂ R xs (xs.filterMap f) := by
  induction xs with
  | nil => exact List.Forall₂.nil
  | cons x xs ih =>
    obtain ⟨y, hy, hxy⟩ := h x List.mem_cons_self
    rw [List.filterMap_cons_some hy]
    exact List.Forall₂.cons hxy (ih fun x' hx' => h x' (List.mem_cons_of_mem _ hx'))

theorem forall₂_trans {α β γ : Type} {R : α → β → Prop} {S : β → γ → Prop} {T : α → γ → Prop}
    (hRST : ∀ {a b c}, R a b → S b c → T a c) {xs : List α} {ys : List β} {zs : List γ}
    (h : List.Forall₂ R xs ys) (h' : List.Forall₂ S ys zs) : List.Forall₂ T xs zs := by
  induction h generalizing zs with
  | nil => cases h'; exact List.Forall₂.nil
  | cons hxy _ ih =>
    cases h' with
    | cons hyz hrest => exact List.Forall₂.cons (hRST hxy hyz) (ih hrest)

/-- **What a stage does**: every candidate comes out, where it was. -/
theorem forall₂_run (hnodup : (candidates.map PolicyCandidate.itemId).Nodup) :
    List.Forall₂ (stage.ComesOut candidates) candidates (stage.run candidates) := by
  refine forall₂_filterMap fun candidate hmem => ?_
  obtain ⟨adjusted, hget⟩ := exists_mapGet stage hmem
  exact ⟨adjusted, hget, comesOut_of_mapGet hnodup hmem hget⟩

/-- The items stay as they are. -/
theorem map_itemId_run (hnodup : (candidates.map PolicyCandidate.itemId).Nodup) :
    (stage.run candidates).map PolicyCandidate.itemId =
      candidates.map PolicyCandidate.itemId := by
  have hsame : List.Forall₂ (fun c d => PolicyCandidate.itemId d = PolicyCandidate.itemId c)
      candidates (stage.run candidates) := by
    refine (forall₂_run hnodup).imp fun c d hcomes => ?_
    obtain ⟨_, -, rfl⟩ := hcomes
    rfl
  rw [← List.forall₂_eq_eq_eq, List.forall₂_map_left_iff, List.forall₂_map_right_iff]
  exact hsame.flip

/-! ### Two orders -/

theorem ranking_perm (h : candidates.Perm candidates') :
    (stage.ranking candidates candidate).Perm (stage.ranking candidates' candidate) :=
  (List.perm_insertionSort _ _).trans ((h.filter _).trans (List.perm_insertionSort _ _).symm)

/-- The qualities of a bucket, from the highest to the lowest, whatever its order. -/
theorem map_ranking_perm (h : candidates.Perm candidates') :
    (stage.ranking candidates candidate).map PolicyCandidate.qualityBps =
      (stage.ranking candidates' candidate).map PolicyCandidate.qualityBps := by
  have hsorted : ∀ bucket : List PolicyCandidate, ((bucket.insertionSort fun left right =>
      right.qualityBps ≤ left.qualityBps).map PolicyCandidate.qualityBps).Pairwise (· ≥ ·) := by
    intro bucket
    have : Std.Total fun left right : PolicyCandidate => right.qualityBps ≤ left.qualityBps :=
      ⟨fun _ _ => le_total _ _⟩
    have : IsTrans PolicyCandidate fun left right => right.qualityBps ≤ left.qualityBps :=
      ⟨fun _ _ _ hab hbc => hbc.trans hab⟩
    exact List.pairwise_map.mpr (List.pairwise_insertionSort _ _)
  exact List.Perm.eq_of_pairwise (fun _ _ _ _ hab hba => le_antisymm hba hab) (hsorted _)
    (hsorted _) ((ranking_perm h).map _)

/-- A bucket has each candidate once. -/
theorem nodup_ranking (hnodup : (candidates.map PolicyCandidate.itemId).Nodup) :
    (stage.ranking candidates candidate).Nodup :=
  (List.perm_insertionSort _ _).nodup_iff.mpr ((List.Nodup.of_map _ hnodup).filter _)

/-- **Ties that agree make the place in the list irrelevant**: in whatever order the candidates
come, a candidate comes out the same. -/
theorem comesOut_perm (hnodup : (candidates.map PolicyCandidate.itemId).Nodup)
    (hperm : candidates.Perm candidates') (hties : stage.TiesAgree candidates)
    (h : (candidate, adjusted) ∈ candidates.zip (stage.run candidates))
    (h' : stage.ComesOut candidates' candidate adjusted') : adjusted = adjusted' := by
  have hrun : List.Forall₂ (stage.ComesOut candidates) candidates (stage.run candidates) :=
    forall₂_run hnodup
  obtain ⟨hlength, hzip⟩ := List.forall₂_iff_zip.mp hrun
  obtain ⟨index, hindex, rfl⟩ := hzip h
  obtain ⟨index', hindex', rfl⟩ := h'
  -- At the place that it has in the other order stands a candidate of the same quality.
  have hquality : ((stage.ranking candidates candidate).map PolicyCandidate.qualityBps)[index']? =
      some candidate.qualityBps := by
    rw [map_ranking_perm hperm, List.getElem?_map, hindex', Option.map_some]
  rw [List.getElem?_map, Option.map_eq_some_iff] at hquality
  obtain ⟨other, hother, hquality⟩ := hquality
  obtain ⟨hmem, hkey⟩ := mem_ranking.mp (List.mem_of_getElem? hother)
  obtain ⟨position, hposition, hat⟩ := List.mem_iff_getElem.mp hmem
  have hentry : (other, (stage.run candidates)[position]) ∈
      candidates.zip (stage.run candidates) := by
    refine List.mem_iff_getElem.mpr ⟨position, ?_, ?_⟩
    · rw [List.length_zip]
      omega
    · rw [List.getElem_zip, hat]
  obtain ⟨place, hplace, hout⟩ := hzip hentry
  -- That candidate has no other place in the bucket, which is the bucket of both.
  obtain rfl : place = index' := by
    have hsame : stage.ranking candidates other = stage.ranking candidates candidate := by
      rw [RankStage.ranking, RankStage.ranking, hkey]
    rw [hsame] at hplace
    exact (List.getElem?_inj (List.getElem?_eq_some_iff.mp hplace).1 (nodup_ranking hnodup)).mp
      (hplace.trans hother.symm)
  have hagree := hties _ h _ hentry hkey.symm hquality.symm
  rw [hout, hquality] at hagree
  exact congrArg (fun qualityBps => { candidate with qualityBps }) hagree

/-- **One stage, in two orders.** -/
theorem run_perm (hnodup : (candidates.map PolicyCandidate.itemId).Nodup)
    (hperm : candidates.Perm candidates') (hties : stage.TiesAgree candidates) :
    (stage.run candidates).Perm (stage.run candidates') := by
  have hnodup' : (candidates'.map PolicyCandidate.itemId).Nodup :=
    (hperm.map _).nodup_iff.mp hnodup
  have hrun : List.Forall₂ (stage.ComesOut candidates) candidates (stage.run candidates) :=
    forall₂_run hnodup
  have hrun' : List.Forall₂ (stage.ComesOut candidates') candidates' (stage.run candidates') :=
    forall₂_run hnodup'
  obtain ⟨adjusted, hforall, hadjusted⟩ := List.perm_comp_forall₂ hperm hrun'
  obtain ⟨hlength, -⟩ := List.forall₂_iff_zip.mp hrun
  obtain ⟨hlength', hzip'⟩ := List.forall₂_iff_zip.mp hforall
  have hsame : stage.run candidates = adjusted := by
    refine List.ext_getElem (hlength.symm.trans hlength') fun i hi hi' => ?_
    have hlt : i < candidates.length := hlength ▸ hi
    have hat : (candidates[i], (stage.run candidates)[i]) ∈
        candidates.zip (stage.run candidates) := by
      refine List.mem_iff_getElem.mpr ⟨i, ?_, List.getElem_zip⟩
      rw [List.length_zip]
      omega
    refine comesOut_perm hnodup hperm hties hat (hzip' ?_)
    refine List.mem_iff_getElem.mpr ⟨i, ?_, List.getElem_zip⟩
    rw [List.length_zip]
    omega
  rw [hsame]
  exact hadjusted

end

/-! ### The four stages -/

/-- The four discounts, one after the other. -/
def discountStages : List RankStage :=
  [{ bucketKey := fun _ => .all
     stepBps := 1500
     minimumBps := 5500
     minimum_le := Nat.le_of_ble_eq_true rfl },
   { bucketKey := fun candidate => accountKey candidate.operator candidate.itemId
     stepBps := 1250
     minimumBps := 6000
     minimum_le := Nat.le_of_ble_eq_true rfl },
   { bucketKey := fun candidate => match candidate.agentId with
      | some (agentId + 1) => .agent (agentId + 1)
      | _ => accountKey candidate.recipient candidate.itemId
     stepBps := 1500
     minimumBps := 5000
     minimum_le := Nat.le_of_ble_eq_true rfl },
   { bucketKey := fun candidate => accountKey candidate.recipient candidate.itemId
     stepBps := 2000
     minimumBps := 4500
     minimum_le := Nat.le_of_ble_eq_true rfl }]

/-- Some stages, one after the other. -/
def runStages (stages : List RankStage) (candidates : List PolicyCandidate) :
    List PolicyCandidate :=
  stages.foldl (fun candidates stage => stage.run candidates) candidates

theorem applyCandidateQualityDiscounts_eq (candidates : List PolicyCandidate) :
    applyCandidateQualityDiscounts candidates = runStages discountStages candidates :=
  rfl

/-- At every stage, candidates that tie in their bucket come out equal. -/
def TiesAgree : List RankStage → List PolicyCandidate → Prop
  | [], _ => True
  | stage :: stages, candidates =>
    stage.TiesAgree candidates ∧ TiesAgree stages (stage.run candidates)

section

variable {candidates candidates' : List PolicyCandidate}

/-- **What some stages do, in any order**: the candidates stay where they are, and no quality gets
better. -/
theorem forall₂_runStages (stages : List RankStage)
    (hnodup : (candidates.map PolicyCandidate.itemId).Nodup) :
    List.Forall₂ (fun candidate adjusted =>
      adjusted.Same candidate ∧ adjusted.qualityBps ≤ candidate.qualityBps)
      candidates (runStages stages candidates) := by
  induction stages generalizing candidates with
  | nil => exact List.forall₂_same.mpr fun candidate _ => ⟨⟨_, rfl⟩, le_rfl⟩
  | cons stage stages ih =>
    have hnodup' : ((stage.run candidates).map PolicyCandidate.itemId).Nodup := by
      rwa [map_itemId_run hnodup]
    have hrun : List.Forall₂ (stage.ComesOut candidates) candidates (stage.run candidates) :=
      forall₂_run hnodup
    refine forall₂_trans (fun hfirst hrest => ?_) hrun (ih hnodup')
    exact ⟨hrest.1.trans hfirst.same, hrest.2.trans hfirst.le⟩

/-- **Some stages, in two orders.** -/
theorem runStages_perm (stages : List RankStage)
    (hnodup : (candidates.map PolicyCandidate.itemId).Nodup)
    (hperm : candidates.Perm candidates') (hties : TiesAgree stages candidates) :
    (runStages stages candidates).Perm (runStages stages candidates') := by
  induction stages generalizing candidates candidates' with
  | nil => exact hperm
  | cons stage stages ih =>
    have hnodup' : ((stage.run candidates).map PolicyCandidate.itemId).Nodup := by
      rwa [map_itemId_run hnodup]
    exact ih hnodup' (run_perm hnodup hperm hties.1) hties.2

/-- The targets of a group, in two orders. -/
theorem allocations_perm (hperm : candidates.Perm candidates') (attentionPressureBps : ℕ)
    (poolBalanceWei : ℕ) (workKind : ClaimRewardWorkKind) :
    (deriveRewardTargetsForGroup attentionPressureBps candidates poolBalanceWei
      workKind).allocations.Perm
    (deriveRewardTargetsForGroup attentionPressureBps candidates' poolBalanceWei
      workKind).allocations := by
  simp only [deriveRewardTargetsForGroup]
  rw [(hperm.map _).sum_eq]
  exact hperm.map _

end

/-- **What the order of the candidates decides.** The candidates come back in their order, none
better than it was. Where ties agree at every stage, each has one quality in both orders, and the
targets of the group are the same. -/
theorem applyCandidateQualityDiscounts_perm {candidates candidates' : List PolicyCandidate}
    (hnodup : (candidates.map PolicyCandidate.itemId).Nodup)
    (hperm : candidates.Perm candidates') :
    List.Forall₂ (fun candidate adjusted =>
        adjusted.Same candidate ∧ adjusted.qualityBps ≤ candidate.qualityBps)
      candidates (applyCandidateQualityDiscounts candidates) ∧
    (TiesAgree discountStages candidates →
      (∀ adjusted ∈ applyCandidateQualityDiscounts candidates,
        ∀ adjusted' ∈ applyCandidateQualityDiscounts candidates',
          adjusted.itemId = adjusted'.itemId → adjusted.qualityBps = adjusted'.qualityBps) ∧
      ∀ attentionPressureBps poolBalanceWei workKind,
        (deriveRewardTargetsForGroup attentionPressureBps
          (applyCandidateQualityDiscounts candidates) poolBalanceWei workKind).allocations.Perm
        (deriveRewardTargetsForGroup attentionPressureBps
          (applyCandidateQualityDiscounts candidates') poolBalanceWei workKind).allocations) := by
  have hforall := forall₂_runStages discountStages hnodup
  rw [← applyCandidateQualityDiscounts_eq] at hforall
  refine ⟨hforall, fun hties => ?_⟩
  have hadjusted : (applyCandidateQualityDiscounts candidates).Perm
      (applyCandidateQualityDiscounts candidates') := by
    rw [applyCandidateQualityDiscounts_eq, applyCandidateQualityDiscounts_eq]
    exact runStages_perm discountStages hnodup hperm hties
  refine ⟨fun adjusted hmem adjusted' hmem' hitem => ?_,
    fun _ _ _ => allocations_perm hadjusted _ _ _⟩
  -- The items of what comes out are those that went in, one each.
  have hitems : (applyCandidateQualityDiscounts candidates).map PolicyCandidate.itemId =
      candidates.map PolicyCandidate.itemId := by
    rw [← List.forall₂_eq_eq_eq, List.forall₂_map_left_iff, List.forall₂_map_right_iff]
    refine hforall.flip.imp fun adjusted candidate h => ?_
    obtain ⟨⟨_, rfl⟩, -⟩ := h
    rfl
  exact congrArg _ (List.inj_on_of_nodup_map (hitems ▸ hnodup) hmem
    (hadjusted.mem_iff.mpr hmem') hitem)

/-- A piece of work of one recipient. -/
def work (itemId : String) (qualityBps : ℕ) : PolicyCandidate where
  agentId := none
  budgetTopUpBps := 0
  claimId := 11
  itemId := itemId
  operator := none
  qualityBps := qualityBps
  recipient := none
  workKind := .review

/-- Of two pieces of work of the same quality, the one that is listed first is worth more. -/
theorem tie_by_position :
    (applyCandidateQualityDiscounts [work "review-task:1" 10000, work "review-task:2" 10000]).map
        (fun candidate => (candidate.itemId, candidate.qualityBps)) =
      [("review-task:1", 10000), ("review-task:2", 8500)] ∧
    (applyCandidateQualityDiscounts [work "review-task:2" 10000, work "review-task:1" 10000]).map
        (fun candidate => (candidate.itemId, candidate.qualityBps)) =
      [("review-task:2", 10000), ("review-task:1", 8500)] := by
  decide

/-- Two pieces of work of different qualities. -/
theorem applyCandidateQualityDiscounts_two :
    TiesAgree discountStages [work "review-task:1" 10000, work "review-task:2" 9000] ∧
    ∀ adjusted ∈
        applyCandidateQualityDiscounts [work "review-task:1" 10000, work "review-task:2" 9000],
      ∀ adjusted' ∈
          applyCandidateQualityDiscounts [work "review-task:2" 9000, work "review-task:1" 10000],
        adjusted.itemId = adjusted'.itemId → adjusted.qualityBps = adjusted'.qualityBps := by
  have hties : TiesAgree discountStages
      [work "review-task:1" 10000, work "review-task:2" 9000] := by
    simp only [TiesAgree, discountStages, RankStage.TiesAgree]
    decide
  exact ⟨hties, ((applyCandidateQualityDiscounts_perm (by decide)
    (List.Perm.swap _ _ _)).2 hties).1⟩

end ScientificProtocol.RewardPolicy
