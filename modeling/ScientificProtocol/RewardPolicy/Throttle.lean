import ScientificProtocol.RewardPolicy.Group
import ScientificProtocol.RewardPolicy.Fence

/-!
# Runs that follow each other

A complete run takes every item to its target, and the pool down by what it pays. The next run has
smaller targets, so it pays nothing, and neither does any later one
(`ScientificProtocol.RewardPolicy.groupRuns_settled`).

A run that may make only so many settlements leaves the others to the runs after it. They read the
smaller pool, so what they pay is less: no item ends with more than one complete run would have
recorded, and an item may end with less (`ScientificProtocol.RewardPolicy.throttled`).
-/

namespace ScientificProtocol.RewardPolicy

section

variable (attentionPressureBps : ℕ) (candidates : List PolicyCandidate)
  (workKind : ClaimRewardWorkKind)

/-- Runs one after the other, each with its own `maxSettlements`, and all they charge. -/
def groupRuns : List ℕ → GroupState → GroupState × List Charge
  | [], s => (s, [])
  | maxSettlements :: rest, s =>
    let first := groupRun attentionPressureBps candidates workKind maxSettlements s
    let later := groupRuns rest first.1
    (later.1, first.2 ++ later.2)

/-- What is recorded for each item. -/
def GroupState.total (s : GroupState) (itemId : String) : ℕ := (s.accruedByItem itemId).accruedWei

end

section

variable {attentionPressureBps : ℕ} {candidates : List PolicyCandidate}
  {workKind : ClaimRewardWorkKind} {maxSettlements : ℕ} {s : GroupState}

/-- Runs that find every target recorded pay nothing. -/
theorem groupRuns_of_recorded (h : ∀ candidate ∈ candidates,
    itemTarget attentionPressureBps candidates workKind s.poolBalanceWei candidate.itemId ≤
      s.total candidate.itemId) (caps : List ℕ) :
    groupRuns attentionPressureBps candidates workKind caps s = (s, []) := by
  induction caps with
  | nil => rfl
  | cons maxSettlements caps ih =>
    rw [groupRuns, groupRun_of_recorded h]
    dsimp only
    rw [ih]
    rfl

/-- **A complete run is paid once**: it takes every item to its target and the pool down by what it
charges, and no later run pays anything, whatever its `maxSettlements` and however much of the pool
others have taken. -/
theorem groupRuns_settled (attentionPressureBps : ℕ) (candidates : List PolicyCandidate)
    (workKind : ClaimRewardWorkKind) (s : GroupState) (drained : ℕ) (caps : List ℕ) :
    let complete := groupRun attentionPressureBps candidates workKind 0 s
    let later : GroupState := { complete.1 with
      poolBalanceWei := complete.1.poolBalanceWei - drained }
    (∀ candidate ∈ candidates, complete.1.total candidate.itemId = s.total candidate.itemId +
        (itemTarget attentionPressureBps candidates workKind s.poolBalanceWei candidate.itemId -
          s.total candidate.itemId)) ∧
      complete.1.poolBalanceWei + (complete.2.map Charge.deltaWei).sum = s.poolBalanceWei ∧
      groupRuns attentionPressureBps candidates workKind caps later = (later, []) := by
  have hsettled : GroupSettled attentionPressureBps candidates workKind 0 s
      (groupRun attentionPressureBps candidates workKind 0 s) := groupSettled_groupRun
  refine ⟨fun candidate hmem => ?_, ?_, groupRuns_of_recorded (fun candidate hmem => ?_) caps⟩
  · have htotal := hsettled.accruedWei_eq (.inl rfl) hmem
    unfold GroupState.total
    omega
  · have hpool := hsettled.pool_eq
    have hsum := hsettled.sum_deltaWei_le.trans distributablePool_le
    omega
  · -- The pool has shrunk, and the targets with it.
    calc itemTarget attentionPressureBps candidates workKind _ candidate.itemId
        ≤ itemTarget attentionPressureBps candidates workKind s.poolBalanceWei candidate.itemId :=
          itemTarget_mono ((Nat.sub_le _ _).trans hsettled.pool_le) _
      _ ≤ _ := hsettled.complete (.inl rfl) candidate hmem

/-! ### Runs that are stopped -/

/-- The state after so many runs with the same `maxSettlements`. -/
def throttledState (attentionPressureBps : ℕ) (candidates : List PolicyCandidate)
    (workKind : ClaimRewardWorkKind) (maxSettlements : ℕ) (s : GroupState) (n : ℕ) : GroupState :=
  (groupRuns attentionPressureBps candidates workKind (List.replicate n maxSettlements) s).1

theorem groupRuns_append (caps caps' : List ℕ) (s : GroupState) :
    (groupRuns attentionPressureBps candidates workKind (caps ++ caps') s).1 =
      (groupRuns attentionPressureBps candidates workKind caps'
        (groupRuns attentionPressureBps candidates workKind caps s).1).1 := by
  induction caps generalizing s with
  | nil => rfl
  | cons maxSettlements caps ih => exact ih _

theorem throttledState_succ (n : ℕ) :
    throttledState attentionPressureBps candidates workKind maxSettlements s (n + 1) =
      (groupRun attentionPressureBps candidates workKind maxSettlements
        (throttledState attentionPressureBps candidates workKind maxSettlements s n)).1 := by
  rw [throttledState, List.replicate_succ', groupRuns_append]
  rfl

/-- **The runs come to an end**: after some of them nothing is paid any more. -/
theorem exists_throttledState_settled (attentionPressureBps : ℕ)
    (candidates : List PolicyCandidate) (workKind : ClaimRewardWorkKind) (maxSettlements : ℕ)
    (s : GroupState) : ∃ n, (groupRun attentionPressureBps candidates workKind maxSettlements
      (throttledState attentionPressureBps candidates workKind maxSettlements s n)).2 = [] := by
  -- Every run that pays takes something from the pool.
  by_contra hnever
  have hdecrease : ∀ n, (throttledState attentionPressureBps candidates workKind maxSettlements s
      n).poolBalanceWei + n ≤ s.poolBalanceWei := by
    intro n
    induction n with
    | zero => exact Nat.le_refl _
    | succ n ih =>
      have hsettled : GroupSettled attentionPressureBps candidates workKind maxSettlements
          (throttledState attentionPressureBps candidates workKind maxSettlements s n) _ :=
        groupSettled_groupRun
      have hlt := hsettled.pool_lt fun hnil => hnever ⟨n, hnil⟩
      rw [throttledState_succ]
      omega
  have hlast := hdecrease (s.poolBalanceWei + 1)
  omega

theorem throttledState_pool_le (n : ℕ) :
    (throttledState attentionPressureBps candidates workKind maxSettlements s n).poolBalanceWei ≤
      s.poolBalanceWei := by
  induction n with
  | zero => exact Nat.le_refl _
  | succ n ih =>
    have hsettled : GroupSettled attentionPressureBps candidates workKind maxSettlements
        (throttledState attentionPressureBps candidates workKind maxSettlements s n) _ :=
      groupSettled_groupRun
    rw [throttledState_succ]
    exact hsettled.pool_le.trans ih

/-- An item that no candidate is for is never charged. -/
theorem GroupSettled.total_of_notMem {result : GroupState × List Charge}
    (h : GroupSettled attentionPressureBps candidates workKind maxSettlements s result)
    {itemId : String} (hmem : ∀ candidate ∈ candidates, candidate.itemId ≠ itemId) :
    result.1.total itemId = s.total itemId := by
  refine congrArg AccruedTotal.accruedWei (h.others itemId fun hcharged => ?_)
  obtain ⟨charge, hcharge, hitem⟩ := List.mem_map.mp hcharged
  exact hmem charge.candidate (h.charged charge hcharge).1 hitem

/-- **Throttled runs stay below one complete run**, item by item. -/
theorem throttledState_total_le (n : ℕ) (itemId : String) :
    s.total itemId ≤
        (throttledState attentionPressureBps candidates workKind maxSettlements s n).total itemId ∧
      (throttledState attentionPressureBps candidates workKind maxSettlements s n).total itemId ≤
        (groupRun attentionPressureBps candidates workKind 0 s).1.total itemId := by
  have hcomplete : GroupSettled attentionPressureBps candidates workKind 0 s
      (groupRun attentionPressureBps candidates workKind 0 s) := groupSettled_groupRun
  induction n with
  | zero => exact ⟨Nat.le_refl _, (hcomplete.accruedWei_le itemId).1⟩
  | succ n ih =>
    have hsettled : GroupSettled attentionPressureBps candidates workKind maxSettlements
        (throttledState attentionPressureBps candidates workKind maxSettlements s n) _ :=
      groupSettled_groupRun
    rw [throttledState_succ]
    by_cases hmem : ∃ candidate ∈ candidates, candidate.itemId = itemId
    · obtain ⟨candidate, hmem, rfl⟩ := hmem
      obtain ⟨hge, hle⟩ := hsettled.accruedWei_le candidate.itemId
      have hpool : (throttledState attentionPressureBps candidates workKind maxSettlements s
          n).poolBalanceWei ≤ s.poolBalanceWei := throttledState_pool_le n
      have htarget : itemTarget attentionPressureBps candidates workKind _ candidate.itemId ≤
          itemTarget attentionPressureBps candidates workKind s.poolBalanceWei candidate.itemId :=
        itemTarget_mono hpool _
      have htotal := hcomplete.complete (.inl rfl) candidate hmem
      unfold GroupState.total at ih ⊢
      omega
    · have hother : ∀ candidate ∈ candidates, candidate.itemId ≠ itemId :=
        fun candidate hcandidate heq => hmem ⟨candidate, hcandidate, heq⟩
      rw [hsettled.total_of_notMem hother]
      exact ih

/-- What is recorded only grows. -/
theorem throttledState_total_mono (n : ℕ) (itemId : String) :
    (groupRun attentionPressureBps candidates workKind maxSettlements s).1.total itemId ≤
      (throttledState attentionPressureBps candidates workKind maxSettlements s (n + 1)).total
        itemId := by
  induction n with
  | zero => exact Nat.le_refl _
  | succ n ih =>
    have hsettled : GroupSettled attentionPressureBps candidates workKind maxSettlements
        (throttledState attentionPressureBps candidates workKind maxSettlements s (n + 1)) _ :=
      groupSettled_groupRun
    rw [throttledState_succ]
    exact ih.trans (hsettled.accruedWei_le itemId).1

/-- **An item the first run charges** has what a complete run would have recorded for it. -/
theorem throttledState_total_of_charged {itemId : String}
    (h : itemId ∈ (groupRun attentionPressureBps candidates workKind maxSettlements s).2.map
      Charge.itemId) (n : ℕ) :
    (throttledState attentionPressureBps candidates workKind maxSettlements s (n + 1)).total itemId =
      (groupRun attentionPressureBps candidates workKind 0 s).1.total itemId := by
  have hfirst : GroupSettled attentionPressureBps candidates workKind maxSettlements s
      (groupRun attentionPressureBps candidates workKind maxSettlements s) := groupSettled_groupRun
  have hcomplete : GroupSettled attentionPressureBps candidates workKind 0 s
      (groupRun attentionPressureBps candidates workKind 0 s) := groupSettled_groupRun
  obtain ⟨charge, hcharge, rfl⟩ := List.mem_map.mp h
  obtain ⟨-, htarget, hexisting, hlt⟩ := hfirst.charged charge hcharge
  have hrecorded : (groupRun attentionPressureBps candidates workKind maxSettlements s).1.total
      charge.itemId = charge.targetTotalWei :=
    congrArg AccruedTotal.accruedWei (hfirst.recorded charge hcharge)
  have hmono : (groupRun attentionPressureBps candidates workKind maxSettlements s).1.total
      charge.itemId ≤ (throttledState attentionPressureBps candidates workKind maxSettlements s
        (n + 1)).total charge.itemId := throttledState_total_mono n _
  have hle : (throttledState attentionPressureBps candidates workKind maxSettlements s
      (n + 1)).total charge.itemId ≤ (groupRun attentionPressureBps candidates workKind 0
        s).1.total charge.itemId := (throttledState_total_le (n + 1) _).2
  have hmax := (hcomplete.accruedWei_le charge.itemId).2
  unfold GroupState.total at hrecorded hmono hle ⊢
  rw [hexisting] at hlt
  omega

/-- **A run that may make as many settlements as a complete one** charges the same items. -/
theorem charged_of_length_le
    (h : (groupRun attentionPressureBps candidates workKind 0 s).2.length ≤ maxSettlements) :
    (groupRun attentionPressureBps candidates workKind 0 s).2.map Charge.itemId ⊆
      (groupRun attentionPressureBps candidates workKind maxSettlements s).2.map Charge.itemId := by
  have hfirst : GroupSettled attentionPressureBps candidates workKind maxSettlements s
      (groupRun attentionPressureBps candidates workKind maxSettlements s) := groupSettled_groupRun
  have hcomplete : GroupSettled attentionPressureBps candidates workKind 0 s
      (groupRun attentionPressureBps candidates workKind 0 s) := groupSettled_groupRun
  -- An item with a charge has not got its target, and a complete run gives it to it.
  have hdue : ∀ {m : ℕ} {result : GroupState × List Charge},
      GroupSettled attentionPressureBps candidates workKind m s result →
      m = 0 ∨ result.2.length < m → ∀ {m' : ℕ} {result' : GroupState × List Charge},
      GroupSettled attentionPressureBps candidates workKind m' s result' →
      result'.2.map Charge.itemId ⊆ result.2.map Charge.itemId := by
    intro m result hresult hopen m' result' hresult' itemId hmem
    obtain ⟨charge, hcharge, rfl⟩ := List.mem_map.mp hmem
    obtain ⟨hcandidate, htarget, hexisting, hlt⟩ := hresult'.charged charge hcharge
    by_contra hnone
    have htotal := hresult.complete hopen charge.candidate hcandidate
    have hsame := hresult.others charge.itemId hnone
    rw [Charge.itemId] at htarget hexisting hsame
    rw [hsame, ← hexisting, ← htarget] at htotal
    exact Nat.not_le.mpr hlt htotal
  by_cases hopen : maxSettlements = 0 ∨
      (groupRun attentionPressureBps candidates workKind maxSettlements s).2.length < maxSettlements
  · exact hdue hfirst hopen hcomplete
  · -- The run has been stopped, but not before it had charged as many items.
    have hsubset := hdue hcomplete (.inl rfl) hfirst
    have hlength : ((groupRun attentionPressureBps candidates workKind 0 s).2.map
        Charge.itemId).length ≤ ((groupRun attentionPressureBps candidates workKind maxSettlements
          s).2.map Charge.itemId).length := by
      rw [List.length_map, List.length_map]
      omega
    exact ((hfirst.nodup.subperm hsubset).perm_of_length_le hlength).symm.subset

/-- **Throttled runs**, repeated until they pay nothing more: no item is ever recorded with less than
before or with more than one complete run would have recorded; the items the first run charges get
exactly that; and so does every item, if `maxSettlements` is not less than the number of settlements
a complete run makes. -/
theorem throttled (attentionPressureBps : ℕ) (candidates : List PolicyCandidate)
    (workKind : ClaimRewardWorkKind) (maxSettlements : ℕ) (s : GroupState) :
    let complete := groupRun attentionPressureBps candidates workKind 0 s
    let first := groupRun attentionPressureBps candidates workKind maxSettlements s
    let after := throttledState attentionPressureBps candidates workKind maxSettlements s
    (∃ n, (groupRun attentionPressureBps candidates workKind maxSettlements (after n)).2 = []) ∧
      ∀ n itemId, s.total itemId ≤ (after n).total itemId ∧
        (after n).total itemId ≤ complete.1.total itemId ∧
        (n ≠ 0 → itemId ∈ first.2.map Charge.itemId ∨ complete.2.length ≤ maxSettlements →
          (after n).total itemId = complete.1.total itemId) := by
  refine ⟨exists_throttledState_settled _ _ _ _ _, fun n itemId => ?_⟩
  have hge : s.total itemId ≤ (throttledState attentionPressureBps candidates workKind
      maxSettlements s n).total itemId := (throttledState_total_le n itemId).1
  have hle : (throttledState attentionPressureBps candidates workKind maxSettlements s n).total
      itemId ≤ (groupRun attentionPressureBps candidates workKind 0 s).1.total itemId :=
    (throttledState_total_le n itemId).2
  refine ⟨hge, hle, fun hn hcharged => ?_⟩
  obtain ⟨n, rfl⟩ := Nat.exists_eq_succ_of_ne_zero hn
  rcases hcharged with hfirst | hlength
  · exact throttledState_total_of_charged hfirst n
  · by_cases hmem : itemId ∈ (groupRun attentionPressureBps candidates workKind 0 s).2.map
        Charge.itemId
    · exact throttledState_total_of_charged (charged_of_length_le hlength hmem) n
    · -- An item that a complete run does not charge stays as it is in all of them.
      have hcomplete : GroupSettled attentionPressureBps candidates workKind 0 s
          (groupRun attentionPressureBps candidates workKind 0 s) := groupSettled_groupRun
      have hsame : (groupRun attentionPressureBps candidates workKind 0 s).1.total itemId =
          s.total itemId := congrArg AccruedTotal.accruedWei (hcomplete.others itemId hmem)
      omega

end

/-- **Throttling changes shares**: of a pool of 100, two forecasts of the same quality get 20 each,
but one settlement at a time gives 20 to the first one and 16 to the second. -/
theorem throttling_changes_shares :
    let s : GroupState := ⟨100, fun _ => ⟨0, 0⟩⟩
    let after := throttledState 10000 twoForecasts .forecast 1 s 2
    (groupRun 10000 twoForecasts .forecast 1 after).2 = [] ∧
      after.total "forecast:2" ≠ (groupRun 10000 twoForecasts .forecast 0 s).1.total "forecast:2" :=
  by decide

end ScientificProtocol.RewardPolicy
