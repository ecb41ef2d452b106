import ScientificProtocol.RewardPolicy.Candidates
import ScientificProtocol.RewardPolicy.Resolution
import ScientificProtocol.Rewards.Step

/-!
# What the policy prices and what the settlement charges

The policy computes what a candidate is owed from the pool of a claim and a kind of
work; the settlement then looks the same work item up again and charges the pool *it*
finds, naming the agent *it* finds.
-/

namespace ScientificProtocol.RewardPolicy

open Evm

/-! ### The claim of an artifact -/

/-- The last record in scope that mentions an artifact, in the order the policy goes
through them: the newest job, or else the oldest submission, or else the oldest review
task. -/
def lastMention (scope : PolicyScope) (db : ReadModel) (artifactKey : String) : Option ℕ :=
  (((filteredReplicationJobs scope db).filter
      fun job => decide (artifactKey ∈ job.artifactKeys)).getLast?.bind
        fun job => some job.claimId).or
    ((((filteredReviewSubmissions scope db).filter
        fun submission => decide (artifactKey ∈ submission.artifactKeys)).getLast?.bind
          (·.claimId)).or
      (((filteredReviewTasks scope db).filter
        fun task => decide (artifactKey ∈ task.artifactKeys)).getLast?.bind (·.claimId)))

section

variable {scope : PolicyScope} {db : ReadModel} {w : World} {quality : String → ℕ}
  {record : WorkRecord} {candidate : PolicyCandidate}

/-- What is in scope has a claim. -/
theorem isSome_of_covers {claimId : Option ℕ} (h : covers scope db claimId = true) :
    claimId.isSome = true := by
  simp only [covers, Bool.and_eq_true] at h
  cases claimId with
  | some _ => rfl
  | none => exact absurd h.2 (by simp)

/-- **The map the policy builds** answers with the last mention. -/
theorem artifactKeyToClaimId_eq (artifactKey : String) :
    artifactKeyToClaimId scope db artifactKey = lastMention scope db artifactKey := by
  have htasks : ∀ task ∈ filteredReviewTasks scope db, task.claimId.isSome = true :=
    fun task htask => isSome_of_covers (List.mem_filter.mp htask).2
  have hsubmissions : ∀ submission ∈ filteredReviewSubmissions scope db,
      submission.claimId.isSome = true :=
    fun submission hsubmission => isSome_of_covers (List.mem_filter.mp hsubmission).2
  have hjobs : ∀ job ∈ filteredReplicationJobs scope db, (some job.claimId).isSome = true :=
    fun _ _ => rfl
  rw [artifactKeyToClaimId, artifactEntries, Js.mapGet_append, Js.mapGet_append,
    Js.mapGet_flatMap htasks, Js.mapGet_flatMap hsubmissions, Js.mapGet_flatMap hjobs, lastMention]

/-! ### The newest submission -/

/-- **From the newest to the oldest, the first one is never replaced.** -/
theorem latestReviewSubmission_eq {submissions : List ReviewSubmissionView}
    (hsorted : submissions.Pairwise (·.createdAt ≥ ·.createdAt)) (taskId : ℕ) :
    latestReviewSubmission submissions taskId =
      (submissions.filter (·.taskId = taskId)).head? := by
  have hlisted := hsorted.filter (·.taskId = taskId)
  rw [latestReviewSubmission]
  generalize submissions.filter (·.taskId = taskId) = listed at hlisted ⊢
  rcases listed with _ | ⟨first, rest⟩
  · rfl
  · rw [List.head?_cons, List.foldl_cons]
    have hfirst := (List.pairwise_cons.mp hlisted).1
    clear hlisted
    induction rest with
    | nil => rfl
    | cons submission rest ih =>
      have hle := hfirst submission List.mem_cons_self
      simp only [List.foldl_cons, gt_iff_lt, if_neg (Nat.not_lt.mpr hle)]
      exact ih fun other hother => hfirst other (List.mem_cons_of_mem _ hother)

/-- The newest submission of a task that is in scope. -/
def newestSubmissionInScope (scope : PolicyScope) (db : ReadModel) (taskId : ℕ) :
    Option ReviewSubmissionView :=
  ((filteredReviewSubmissions scope db).filter (·.taskId = taskId)).head?

theorem latestReviewSubmission_filtered (taskId : ℕ) :
    latestReviewSubmission (filteredReviewSubmissions scope db) taskId =
      newestSubmissionInScope scope db taskId :=
  latestReviewSubmission_eq (db.reviewSubmissions_sorted.filter _) taskId

/-! ### What the two of them find -/

/-- The kind of work a record is. -/
def WorkRecord.workKind : WorkRecord → ClaimRewardWorkKind
  | .reviewTask task => rewardWorkKindForReviewTaskType task.taskType
  | .replicationJob _ => .replication
  | .maintenanceTask _ _ => .maintenance
  | .forecast _ => .forecast
  | .challenge _ => .challenge

/-- The claim the policy prices a record under. -/
def pricedClaim : WorkRecord → Option ℕ
  | .reviewTask task => task.claimId
  | .replicationJob job => some job.claimId
  | .maintenanceTask _ claimId => some claimId
  | .forecast view => some view.claimId
  | .challenge view => some view.claimId

/-- The agent the policy prices a record under. -/
def pricedAgent (scope : PolicyScope) (db : ReadModel) : WorkRecord → Option ℕ
  | .reviewTask task => (newestSubmissionInScope scope db task.taskId).bind (·.reviewerAgentId)
  | .replicationJob job => attributedAgent scope db job
  | .maintenanceTask task _ => task.assignedAgentId
  | .forecast view => agentOrNull view.agentId
  | .challenge view => agentOrNull view.agentId

/-- The claim the settlement charges for a record. -/
def chargedClaim (db : ReadModel) : WorkRecord → Option ℕ
  | .maintenanceTask task _ => firstMention db task.artifactKey
  | record => pricedClaim record

/-- The agent the settlement names for a record. -/
def chargedAgent (db : ReadModel) (w : World) : WorkRecord → Option ℕ
  | .reviewTask task => (newestSubmission db task.taskId).bind (·.reviewerAgentId)
  | .replicationJob job => settledAgent w job
  | .maintenanceTask task _ => task.assignedAgentId
  | .forecast view => agentOrNull view.agentId
  | .challenge view => agentOrNull view.agentId

/-- What the policy says of a candidate. -/
structure PricedAs (candidate : PolicyCandidate) (itemId : String)
    (workKind : ClaimRewardWorkKind) (claimId agentId : Option ℕ) : Prop where
  itemId_eq : candidate.itemId = itemId
  workKind_eq : candidate.workKind = workKind
  claimId_eq : claimId = some candidate.claimId
  agentId_eq : candidate.agentId = agentId
  budgetTopUpBps_eq : candidate.budgetTopUpBps = budgetTopUpBps candidate.agentId

theorem pricedAs_of_candidateFor {itemId : String} {workKind : ClaimRewardWorkKind} {claimId : ℕ}
    {agentId : Option ℕ} {operator known : Option Address}
    (h : candidateFor w quality itemId workKind claimId agentId operator known =
      .ok (some candidate)) :
    PricedAs candidate itemId workKind (some claimId) agentId := by
  simp only [candidateFor, script_bind_eq_ok, script_pure_eq_ok, Except.ok.injEq,
    Option.map_eq_some_iff] at h
  obtain ⟨_, -, recipient, -, rfl⟩ := h
  exact ⟨rfl, rfl, rfl, rfl, rfl⟩

/-- **What the policy makes of a record.** -/
theorem pricedAs_of_candidateOf
    (h : candidateOf scope db w quality record = .ok (some candidate)) :
    PricedAs candidate record.itemId record.workKind (pricedClaim record)
      (pricedAgent scope db record) := by
  cases record with
  | reviewTask task =>
    simp only [candidateOf, reviewCandidate, latestReviewSubmission_filtered] at h
    split at h
    next claimId submission hclaim hsubmission =>
      split at h
      · exact absurd h (by simp)
      · obtain ⟨_, -, h⟩ := script_bind_eq_ok.mp h
        have hpriced := pricedAs_of_candidateFor h
        rw [pricedClaim, pricedAgent, hclaim, hsubmission]
        exact hpriced
    next => exact absurd h (by simp)
  | replicationJob job =>
    simp only [candidateOf, replicationCandidate] at h
    split at h
    · exact absurd h (by simp)
    · obtain ⟨_, -, h⟩ := script_bind_eq_ok.mp h
      exact pricedAs_of_candidateFor h
  | maintenanceTask task claimId =>
    simp only [candidateOf, maintenanceCandidate] at h
    split at h
    · exact absurd h (by simp)
    · obtain ⟨_, -, h⟩ := script_bind_eq_ok.mp h
      exact pricedAs_of_candidateFor h
  | forecast view =>
    simp only [candidateOf, forecastCandidate] at h
    split at h
    · exact absurd h (by simp)
    · obtain ⟨_, -, h⟩ := script_bind_eq_ok.mp h
      exact pricedAs_of_candidateFor h
  | challenge view =>
    simp only [candidateOf, challengeCandidate] at h
    split at h
    · exact absurd h (by simp)
    · obtain ⟨_, -, h⟩ := script_bind_eq_ok.mp h
      exact pricedAs_of_candidateFor h

/-- A record the policy goes through is in the database, where the settlement looks it up;
a maintenance task comes with the claim of the last mention. -/
def WorkRecord.Stored (scope : PolicyScope) (db : ReadModel) : WorkRecord → Prop
  | .reviewTask task => task ∈ db.reviewTasks
  | .replicationJob job => job ∈ db.replicationJobs
  | .maintenanceTask task claimId => task ∈ db.artifactMaintenanceTasks ∧
      lastMention scope db task.artifactKey = some claimId
  | .forecast view => view ∈ db.forecasts
  | .challenge view => view ∈ db.challenges

theorem stored_of_mem_workRecords (h : record ∈ workRecords scope db) :
    record.Stored scope db := by
  simp only [workRecords, List.mem_append, List.mem_map] at h
  rcases h with (((⟨task, htask, rfl⟩ | ⟨job, hjob, rfl⟩) | ⟨⟨task, claimId⟩, htask, rfl⟩) |
    ⟨view, hview, rfl⟩) | ⟨view, hview, rfl⟩
  · exact List.mem_of_mem_filter htask
  · exact List.mem_of_mem_filter hjob
  · obtain ⟨task', hstored, hmap⟩ := List.mem_filterMap.mp htask
    split at hmap
    next claimId' hclaim =>
      split at hmap
      next =>
        obtain ⟨rfl, rfl⟩ := Prod.mk.inj (Option.some.inj hmap)
        exact ⟨hstored, artifactKeyToClaimId_eq _ ▸ hclaim⟩
      next => exact absurd hmap (by simp)
    next => exact absurd hmap (by simp)
  · exact List.mem_of_mem_filter hview
  · exact List.mem_of_mem_filter hview

/-- **What the settlement makes of a record**, when it does not throw. -/
theorem chargedAs_of_resolved {bigint : Bigint} {kind sourceId : String}
    {target : ResolvedWorkTarget} (hstored : record.Stored scope db)
    (hparse : parseItemId record.itemId = .ok (kind, sourceId))
    (h : Resolved bigint db w kind sourceId target) :
    chargedClaim db record = some target.claimId ∧ target.workKind = record.workKind ∧
      target.agentId = chargedAgent db w record := by
  cases record with
  | reviewTask task =>
    rw [WorkRecord.itemId, parseItemId_toString (by decide) (by decide)] at hparse
    obtain ⟨hkind, rfl⟩ := Prod.mk.inj (Except.ok.inj hparse)
    cases h with
    | review hid htask hsubmission hclaim =>
      have hid := Bigint.eq_of_read_toString (db.reviewTasks_lt task hstored) hid
      obtain rfl := List.inj_on_of_nodup_map db.reviewTasks_nodup hstored htask hid
      exact ⟨hclaim, rfl, by rw [chargedAgent, hsubmission]; rfl⟩
    | _ => exact absurd hkind (by decide)
  | replicationJob job =>
    rw [WorkRecord.itemId, parseItemId_toString (by decide) (by decide)] at hparse
    obtain ⟨hkind, rfl⟩ := Prod.mk.inj (Except.ok.inj hparse)
    cases h with
    | replication hid hjob =>
      have hid := Bigint.eq_of_read_toString (db.replicationJobs_lt job hstored) hid
      obtain rfl := List.inj_on_of_nodup_map db.replicationJobs_nodup hstored hjob hid
      exact ⟨rfl, rfl, rfl⟩
    | _ => exact absurd hkind (by decide)
  | maintenanceTask task claimId =>
    rw [WorkRecord.itemId, parseItemId_toString (by decide) (by decide)] at hparse
    obtain ⟨hkind, rfl⟩ := Prod.mk.inj (Except.ok.inj hparse)
    cases h with
    | maintenance hid htask hclaim =>
      have hid := Bigint.eq_of_read_toString (db.artifactMaintenanceTasks_lt task hstored.1) hid
      obtain rfl :=
        List.inj_on_of_nodup_map db.artifactMaintenanceTasks_nodup hstored.1 htask hid
      exact ⟨hclaim, rfl, rfl⟩
    | _ => exact absurd hkind (by decide)
  | forecast view =>
    rw [WorkRecord.itemId, parseItemId_toString (by decide) (by decide)] at hparse
    obtain ⟨hkind, rfl⟩ := Prod.mk.inj (Except.ok.inj hparse)
    cases h with
    | forecast hid hforecast =>
      obtain rfl := List.inj_on_of_nodup_map db.forecasts_nodup hforecast hstored
        (Js.toString_injective hid)
      exact ⟨rfl, rfl, rfl⟩
    | _ => exact absurd hkind (by decide)
  | challenge view =>
    rw [WorkRecord.itemId, parseItemId_toString (by decide) (by decide)] at hparse
    obtain ⟨hkind, rfl⟩ := Prod.mk.inj (Except.ok.inj hparse)
    cases h with
    | challenge hid hchallenge =>
      obtain rfl := List.inj_on_of_nodup_map db.challenges_nodup hchallenge hstored
        (Js.toString_injective hid)
      exact ⟨rfl, rfl, rfl⟩
    | _ => exact absurd hkind (by decide)

/-- Where no agent is named, no budget is topped up. -/
theorem budgetTopUpBps_of_getD_eq_zero {agentId : Option ℕ} (h : agentId.getD 0 = 0) :
    budgetTopUpBps agentId = 0 := by
  cases agentId with
  | none => rfl
  | some id => exact if_pos h

theorem getD_agentOrNull (agentId : ℕ) : (agentOrNull agentId).getD 0 = agentId := by
  rw [agentOrNull]
  split
  next hzero => rw [hzero]; rfl
  next => rfl

theorem budgetTopUpBps_le (agentId : Option ℕ) : ¬budgetTopUpBps agentId > 10000 := by
  cases agentId with
  | none => decide
  | some id =>
    rw [budgetTopUpBps]
    split <;> decide

end

/-! ### Agreement -/

/-- **The call charges what was priced**: the amount from the pool of the candidate's claim
and kind, in the name of the candidate's agent, with a top-up that this agent can get. -/
structure Charges (candidate : PolicyCandidate) (deltaWei : ℕ)
    (accrual : ClaimRewardVault.Accrual) : Prop where
  amount_eq : accrual.amount = deltaWei
  claimId_eq : accrual.claimId = candidate.claimId
  workKind_eq : accrual.workKind = candidate.workKind.code
  agentId_eq : accrual.agentId = candidate.agentId.getD 0
  compatible : ¬(accrual.agentId = 0 ∧ accrual.budgetTopUpBps ≠ 0)

/-- The agent a submission names, where 0 is nobody. -/
def agentNamed (submission : Option ReviewSubmissionView) : ℕ :=
  (submission.bind (·.reviewerAgentId)).getD 0

/-- The agent of a job's replication as the indexer saw it, where 0 is nobody, or nobody
seen. -/
def indexedAgent (scope : PolicyScope) (db : ReadModel) (job : ReplicationJobView) : ℕ :=
  ((replicationOf scope db job).map (·.agentId)).getD 0

/-- **The records the two of them attribute alike.**

* A review: the newest submission of the task and the newest one in scope name the same
  agent.
* A replication on the chain: its agent is the one the indexer saw in scope, or else the
  one the job was assigned to.
* The maintenance of an artifact: the first record that mentions the artifact and the last
  one in scope belong to the same claim.

Forecasts, challenges and jobs that are not on the chain are always attributed alike. -/
def SameAttribution (scope : PolicyScope) (db : ReadModel) (w : World) : WorkRecord → Prop
  | .reviewTask task => agentNamed (newestSubmission db task.taskId) =
      agentNamed (newestSubmissionInScope scope db task.taskId)
  | .replicationJob job => ∀ onchainReplicationId, job.onchainReplicationId =
      some onchainReplicationId →
        (w.replicationRegistry.replications onchainReplicationId).agentId =
          if indexedAgent scope db job ≠ 0 then indexedAgent scope db job
          else job.assignedAgentId.getD 0
  | .maintenanceTask task _ =>
      firstMention db task.artifactKey = lastMention scope db task.artifactKey
  | .forecast _ => True
  | .challenge _ => True

/-- **The vault can pay the accrual**: the sender may settle rewards, the claim exists, the
settlement is fresh, the pool has the amount, the agent is active, and nothing is paused,
entered or overflows. -/
structure Payable (w : World) (sender : Address) (candidate : PolicyCandidate)
    (accrual : ClaimRewardVault.Accrual) : Prop where
  role : w.hasRole .rewardSettler sender = true
  notEntered : w.claimRewardVault.entered = false
  balance_lt : w.claimRewardVault.balance < uint256Size
  claim_exists : (w.claimRegistry.claims candidate.claimId).claimId ≠ 0
  fresh : w.claimRewardVault.settledRewards accrual.settlementId = false
  amount_ne_zero : accrual.amount ≠ 0
  pool : accrual.amount ≤
    w.claimRewardVault.claimRewardPools candidate.claimId candidate.workKind.code
  ether : accrual.amount ≤ w.claimRewardVault.balance
  recipient : accrual.recipient ≠ 0
  active : candidate.agentId.getD 0 ≠ 0 →
    w.agentRegistry.isActiveAgent (candidate.agentId.getD 0) = true
  product_lt : accrual.amount * accrual.budgetTopUpBps.toNat < uint256Size
  accrued_lt :
    w.claimRewardVault.accruedRewardBalances accrual.recipient + accrual.amount < uint256Size
  registry : w.agentRegistry.entered = false ∧ w.agentRegistry.depositsPaused = false ∧
    w.agentRegistry.balance + accrual.amount < uint256Size ∧
      (w.agentRegistry.agents accrual.agentId).budgetBalance + accrual.amount < uint256Size

section

variable {scope : PolicyScope} {db : ReadModel} {w : World} {record : WorkRecord}
  {candidate : PolicyCandidate} {deltaWei : ℕ} {accrual : ClaimRewardVault.Accrual}

/-- The agents agree exactly where the two of them attribute the record alike, and so do
the claims. -/
theorem sameAttribution_iff (hstored : record.Stored scope db) :
    SameAttribution scope db w record ↔ chargedClaim db record = pricedClaim record ∧
      (chargedAgent db w record).getD 0 = (pricedAgent scope db record).getD 0 := by
  cases record with
  | reviewTask task => exact ⟨fun h => ⟨rfl, h⟩, fun h => h.2⟩
  | replicationJob job =>
    have hagent : (attributedAgent scope db job).getD 0 =
        if indexedAgent scope db job ≠ 0 then indexedAgent scope db job
        else job.assignedAgentId.getD 0 := by
      unfold attributedAgent indexedAgent
      split
      next replication hreplication =>
        rw [hreplication, Option.map_some, Option.getD_some]
        split <;> rfl
      next hreplication => rw [hreplication]; rfl
    simp only [SameAttribution, chargedClaim, pricedClaim, chargedAgent, pricedAgent, settledAgent,
      true_and, hagent]
    rcases honchain : job.onchainReplicationId with _ | onchainReplicationId
    -- A job that is not on the chain has no replication to look up.
    · have hindexed : indexedAgent scope db job = 0 := by
        rw [indexedAgent, replicationOf, honchain]
        rfl
      simp [hindexed]
    · simp only [Option.some.injEq, forall_eq', getD_agentOrNull]
  | maintenanceTask task claimId =>
    have hlast : lastMention scope db task.artifactKey = some claimId := hstored.2
    simp only [SameAttribution, chargedClaim, pricedClaim, chargedAgent, pricedAgent, hlast,
      and_true]
  | forecast view => simp [SameAttribution, chargedClaim, chargedAgent, pricedAgent]
  | challenge view => simp [SameAttribution, chargedClaim, chargedAgent, pricedAgent]

/-- **What is charged as it was priced, the vault pays.** -/
theorem allows_of_charges {D : Deployment} {sender : Address} {reply : ModuleReply}
    (hcharges : Charges candidate deltaWei accrual) (hbps : ¬accrual.budgetTopUpBps > 10000)
    (h : Payable w sender candidate accrual) :
    w.Allows D sender reply (.claimRewardVault (.accrueWorkReward accrual)) := by
  obtain ⟨hentered, hpaused, hbalance, hbudget⟩ := h.registry
  have hpart := accrual.agentBudgetAmount_le hbps
  have hrest : accrual.recipientAmount ≤ accrual.amount := Nat.sub_le _ _
  have haccrued := h.accrued_lt
  have hether := h.ether
  have hpool := h.pool
  rw [← hcharges.claimId_eq, ← hcharges.workKind_eq] at hpool
  -- The agent is active where there is one, and where there is none nothing is topped up.
  have hactive : accrual.agentId ≠ 0 → w.agentRegistry.isActiveAgent accrual.agentId = true :=
    hcharges.agentId_eq ▸ h.active
  have hexists : accrual.agentId ≠ 0 → (w.agentRegistry.agents accrual.agentId).agentId ≠ 0 := by
    intro hagent
    have := hactive hagent
    simp only [AgentRegistry.isActiveAgent, Bool.and_eq_true, decide_eq_true_eq] at this
    exact this.1
  have hnamed : accrual.agentBudgetAmount ≠ 0 → accrual.agentId ≠ 0 := by
    intro hamount hagent
    have hzero := not_not.mp fun hne => hcharges.compatible ⟨hagent, hne⟩
    exact hamount (by simp [ClaimRewardVault.Accrual.agentBudgetAmount, hzero])
  simp only [World.Allows, World.exec, exists_map_eq_ok]
  refine ClaimRewardVault.exists_accrueWorkReward_iff.mpr ⟨?_, fun _ => hpaused⟩
  exact {
    value_eq := rfl
    balance_lt := h.balance_lt
    role := h.role
    notEntered := h.notEntered
    claim_exists := hcharges.claimId_eq ▸ h.claim_exists
    workKind_lt := hcharges.workKind_eq ▸ candidate.workKind.code_lt
    amount_ne_zero := h.amount_ne_zero
    fresh := h.fresh
    bps_le := hbps
    named := hcharges.compatible
    agent_exists := fun hagent => hagent.2 (decide_eq_true (hexists hagent.1))
    amount_le := hpool
    product_lt := h.product_lt
    recipient := fun hzero => h.recipient hzero.2
    active := fun hinactive => hinactive.2 (hactive (hnamed hinactive.1))
    accrued_lt := fun _ => by omega
    topUp := fun hamount => ⟨by omega, by omega, hentered, hexists (hnamed hamount), by omega⟩ }

/-- What the settlement makes of a candidate that has been built. -/
theorem charges_iff_of_build (bigint : Bigint) (D : Deployment) {quality : String → ℕ}
    {candidates : List PolicyCandidate}
    (hbuild : buildPolicyCandidates scope db w quality = .ok candidates)
    {group : (ℕ × ClaimRewardWorkKind) × List PolicyCandidate}
    (hgroup : group ∈ candidatesByGroup candidates)
    (hcandidate : candidate ∈ applyCandidateQualityDiscounts group.2) :
    group.1 = (candidate.claimId, candidate.workKind) ∧
      ∃ record ∈ workRecords scope db, record.itemId = candidate.itemId ∧
        ∀ deltaWei settlementLabel call, settleWorkReward bigint D db w
            (candidate.settleInput deltaWei settlementLabel) = .ok call →
          (Charges candidate deltaWei call.accrual ↔ SameAttribution scope db w record) ∧
            (SameAttribution scope db w record → ∀ sender reply,
              Payable w sender candidate call.accrual →
                w.Allows D sender reply (.claimRewardVault (.accrueWorkReward call.accrual))) := by
  obtain ⟨original, hmem, quality', rfl⟩ := same_of_mem_discounts hcandidate
  obtain ⟨horiginal, hkey⟩ := Js.mem_of_mem_groupBy (k := group.1) hgroup hmem
  obtain ⟨record, hrecord, hof⟩ := mem_of_collect hbuild horiginal
  have hpriced := pricedAs_of_candidateOf hof
  have hstored := stored_of_mem_workRecords hrecord
  refine ⟨hkey.symm, record, hrecord, hpriced.itemId_eq.symm, ?_⟩
  intro deltaWei settlementLabel call hsettle
  obtain ⟨kind, sourceId, hparse, hresolved, hcall⟩ := resolved_of_settleWorkReward hsettle
  have hitem : ({ original with qualityBps := quality' } : PolicyCandidate).itemId =
      record.itemId := hpriced.itemId_eq
  rw [PolicyCandidate.settleInput, hitem] at hparse
  obtain ⟨hclaim, hkind, hagent⟩ := chargedAs_of_resolved hstored hparse hresolved
  have hbps : call.accrual.budgetTopUpBps = budgetTopUpBps original.agentId := by
    rw [hcall]
    exact hpriced.budgetTopUpBps_eq
  have hiff : Charges { original with qualityBps := quality' } deltaWei call.accrual ↔
      SameAttribution scope db w record := by
    rw [sameAttribution_iff hstored, hclaim, hpriced.claimId_eq, ← hagent, ← hpriced.agentId_eq]
    constructor
    · intro hcharges
      have hclaim' := hcharges.claimId_eq
      have hagent' := hcharges.agentId_eq
      rw [hcall] at hclaim' hagent'
      exact ⟨congrArg some hclaim', hagent'⟩
    · rintro ⟨hclaim', hagent'⟩
      refine ⟨by rw [hcall]; rfl, ?_, ?_, ?_, ?_⟩
      · rw [hcall]
        exact Option.some.inj hclaim'
      · rw [hcall]
        exact congrArg ClaimRewardWorkKind.code (hkind.trans hpriced.workKind_eq.symm)
      · rw [hcall]
        exact hagent'
      · rintro ⟨hnobody, htopUp⟩
        rw [hcall] at hnobody
        exact htopUp (hbps.trans (budgetTopUpBps_of_getD_eq_zero (hagent'.symm.trans hnobody)))
  refine ⟨hiff, fun hsame sender reply hpayable => ?_⟩
  exact allows_of_charges (hiff.mpr hsame) (hbps ▸ budgetTopUpBps_le _) hpayable

/-- **The policy prices what the settlement charges exactly where both attribute the work
alike.** Where the column of the replications is missing a run throws before it has a
candidate. Otherwise, for every snapshot and every candidate of a run, whatever the
amount: the call the settlement makes for it charges the pool the candidate was priced
from, in the name of the candidate's agent, if and only if the record behind it is
attributed alike; and then the vault pays, if it can. -/
theorem settlement_charges_iff (bigint : Bigint) (D : Deployment) (scope : PolicyScope)
    (db : ReadModel) (w : World) (quality : String → ℕ) :
    (¬db.replicationsSchema.HasDecisionColumn → policyCandidates scope db w quality =
        .error (.undefinedColumn ⟨"resolution_decision_id"⟩)) ∧
      ∀ candidates, policyCandidates scope db w quality = .ok candidates →
        ∀ group ∈ candidatesByGroup candidates,
          ∀ candidate ∈ applyCandidateQualityDiscounts group.2,
            group.1 = (candidate.claimId, candidate.workKind) ∧
              ∃ record ∈ workRecords scope db, record.itemId = candidate.itemId ∧
                ∀ deltaWei settlementLabel call, settleWorkReward bigint D db w
                    (candidate.settleInput deltaWei settlementLabel) = .ok call →
                  (Charges candidate deltaWei call.accrual ↔ SameAttribution scope db w record) ∧
                    (SameAttribution scope db w record → ∀ sender reply,
                      Payable w sender candidate call.accrual → w.Allows D sender reply
                        (.claimRewardVault (.accrueWorkReward call.accrual))) := by
  refine ⟨policyCandidates_of_not_hasDecisionColumn, ?_⟩
  intro candidates hcandidates group hgroup candidate hcandidate
  exact charges_iff_of_build bigint D (policyCandidates_eq_ok_iff.mp hcandidates).2 hgroup
    hcandidate

end

/-! ### An artifact two claims share -/

/-- Two claims, an agent, and a pool that maintains the artifacts of the first claim. -/
def sharedArtifact : List (Move Message) :=
  opening ++
    [send 0xAA 0 (.claimRegistry
        (.createClaim { (default : ClaimSummary) with author := 0xAA } 0 0xC0)),
      send 0xEE 0 (.agentRegistry (.registerAgent 5 "" 0)),
      send 0xBB (milliEther 100) (.claimRewardVault (.fundClaimRewards 1 2))]

theorem playDevnet_sharedArtifact : (playDevnet sharedArtifact).isSome := by decide

/-- The chain after these moves. -/
def sharedArtifactChain : World :=
  ((playDevnet sharedArtifact).get playDevnet_sharedArtifact).2.world

/-- Both claims have a review task with the artifact among its inputs, and agent 1 has
repaired it. Claim 1 also has a settled forecast. The replications can be listed. -/
def sharedArtifactDb : ReadModel :=
  { ReadModel.empty with
    claims := [⟨1, 0⟩, ⟨2, 0⟩]
    replicationsSchema := .repaired
    reviewTasks :=
      [⟨2, some 2, .contradictionScan, .open, ["ipfs://data"], none⟩,
        ⟨1, some 1, .contradictionScan, .open, ["ipfs://data"], none⟩]
    artifactMaintenanceTasks := [⟨4, "ipfs://data", .completed, some 1⟩]
    forecasts := [⟨3, 1, some 0xFC, 0, true, some 1⟩]
    reviewTasks_nodup := by decide
    reviewTasks_lt := by decide
    artifactMaintenanceTasks_nodup := by decide
    artifactMaintenanceTasks_lt := by decide
    forecasts_nodup := by decide }

/-- What the policy makes of the repair. -/
def repairCandidate : PolicyCandidate where
  agentId := some 1
  budgetTopUpBps := 5000
  claimId := 1
  itemId := "artifact-maintenance:4"
  operator := some 0xEE
  qualityBps := 10000
  recipient := some 0xEE
  workKind := .maintenance

/-- What the policy makes of the forecast. -/
def forecastCandidate₁ : PolicyCandidate where
  agentId := none
  budgetTopUpBps := 0
  claimId := 1
  itemId := "forecast:3"
  operator := none
  qualityBps := 10000
  recipient := some 0xFC
  workKind := .forecast

theorem policyCandidates_sharedArtifact : policyCandidates ⟨none, none⟩ sharedArtifactDb
    sharedArtifactChain (fun _ => 10000) = .ok [repairCandidate, forecastCandidate₁] :=
  eq_ok_of_toOption (by decide)

theorem mem_group_sharedArtifact : ((1, ClaimRewardWorkKind.maintenance), [repairCandidate]) ∈
    candidatesByGroup [repairCandidate, forecastCandidate₁] := by
  decide

theorem discounts_repairCandidate :
    applyCandidateQualityDiscounts [repairCandidate] = [repairCandidate] := by
  decide

/-- The call for the repair charges the newest task's claim, which is not the one it was
priced from. -/
theorem repairCall_claimId :
    ∃ call, settleWorkReward decimal devnet sharedArtifactDb sharedArtifactChain
        (repairCandidate.settleInput (milliEther 50) "auto-v1:step-1") = .ok call ∧
      call.accrual.claimId = 2 := by
  have hcall : ((settleWorkReward decimal devnet sharedArtifactDb sharedArtifactChain
      (repairCandidate.settleInput (milliEther 50) "auto-v1:step-1")).toOption.map
        (·.accrual.claimId)) = some 2 := by
    decide
  obtain ⟨call, hcall, hclaim⟩ := Option.map_eq_some_iff.mp hcall
  exact ⟨call, eq_ok_of_toOption hcall, hclaim⟩

/-- **The settlement does not always charge what was priced**: the policy owes agent 1 for
the repair from the maintenance pool of claim 1, and the settlement asks for the money of
claim 2. -/
theorem repair_charges_another_claim :
    (∃ c, (protocol devnet).Reachable c ∧ c.world = sharedArtifactChain) ∧
      policyCandidates ⟨none, none⟩ sharedArtifactDb sharedArtifactChain (fun _ => 10000) =
        .ok [repairCandidate, forecastCandidate₁] ∧
      ((1, ClaimRewardWorkKind.maintenance), [repairCandidate]) ∈
        candidatesByGroup [repairCandidate, forecastCandidate₁] ∧
      applyCandidateQualityDiscounts [repairCandidate] = [repairCandidate] ∧
      (deriveRewardTargetsForGroup 10000 [repairCandidate]
        (sharedArtifactChain.claimRewardVault.claimRewardPools 1 2) .maintenance).allocations =
          [("artifact-maintenance:4", milliEther 50)] ∧
      ∃ call, settleWorkReward decimal devnet sharedArtifactDb sharedArtifactChain
          (repairCandidate.settleInput (milliEther 50) "auto-v1:step-1") = .ok call ∧
        call.accrual.claimId = 2 ∧ ¬Charges repairCandidate (milliEther 50) call.accrual := by
  refine ⟨⟨_, (run_playDevnet playDevnet_sharedArtifact).reachable, rfl⟩,
    policyCandidates_sharedArtifact, mem_group_sharedArtifact, discounts_repairCandidate, by decide, ?_⟩
  obtain ⟨call, hcall, hclaim⟩ := repairCall_claimId
  refine ⟨call, hcall, hclaim, fun hcharges => ?_⟩
  exact absurd (hclaim.symm.trans hcharges.claimId_eq) (by decide)

/-- There, the artifact is attributed to two claims. -/
theorem settlement_charges_iff_sharedArtifact :
    ∃ record ∈ workRecords ⟨none, none⟩ sharedArtifactDb,
      record.itemId = "artifact-maintenance:4" ∧
        ¬SameAttribution ⟨none, none⟩ sharedArtifactDb sharedArtifactChain record := by
  have hcandidate : repairCandidate ∈ applyCandidateQualityDiscounts [repairCandidate] := by
    rw [discounts_repairCandidate]
    exact List.mem_singleton_self _
  obtain ⟨-, hcharges_iff⟩ := settlement_charges_iff decimal devnet ⟨none, none⟩
    sharedArtifactDb sharedArtifactChain (fun _ => 10000)
  obtain ⟨-, record, hrecord, hitem, hiff⟩ := hcharges_iff _ policyCandidates_sharedArtifact _
    mem_group_sharedArtifact _ hcandidate
  obtain ⟨call, hcall, hclaim⟩ := repairCall_claimId
  refine ⟨record, hrecord, hitem, fun hsame => ?_⟩
  have hcharges := (hiff _ _ call hcall).1.mpr hsame
  exact absurd (hclaim.symm.trans hcharges.claimId_eq) (by decide)

end ScientificProtocol.RewardPolicy
