import ScientificProtocol.RewardPolicy.Resolution
import ScientificProtocol.Rewards.Conservation

/-!
# The key of a settlement

The vault remembers a payment under the hash of `<item id>:<label>`. The record that is
paid for is found through the *parsed* item id, the key is made of the item id as it was
given, and the parse forgets: what follows a second colon is dropped, and a number may
be written in more than one way. So a record has many keys, one for every way to write
its id, and under each of them the vault pays once.

`ScientificProtocol.RewardPolicy.RecordKey` is what an item id is parsed for, and
`ScientificProtocol.RewardPolicy.RecordKey.label` the label a record has without being
asked, so that both sides of the question can be read off the item ids and the tables.
-/

namespace ScientificProtocol.RewardPolicy

open Evm

/-- The record an item id names: its kind, and the key it is looked up by. -/
inductive RecordKey where
  | reviewTask (taskId : ℕ)
  | replicationJob (jobId : ℕ)
  | maintenanceTask (taskId : ℕ)
  | forecast (forecastId : String)
  | challenge (challengeId : String)
  deriving DecidableEq

/-- The record of a kind, from the text behind it. -/
def recordKeyOf (bigint : Bigint) (kind sourceId : String) : Option RecordKey :=
  if kind = "review-task" then (bigint.read sourceId).map .reviewTask
  else if kind = "replication-job" then (bigint.read sourceId).map .replicationJob
  else if kind = "artifact-maintenance" then (bigint.read sourceId).map .maintenanceTask
  else if kind = "forecast" then some (.forecast sourceId)
  else if kind = "challenge" then some (.challenge sourceId)
  else none

/-- The record an item id names. -/
def recordKey (bigint : Bigint) (itemId : String) : Option RecordKey :=
  match parseItemId itemId with
  | .ok (kind, sourceId) => recordKeyOf bigint kind sourceId
  | .error _ => none

/-- What else the default label of a record depends on: the newest submission of a review
task, and the replication of a job. -/
def RecordKey.labelledBy (db : ReadModel) : RecordKey → Option ℕ
  | .reviewTask taskId => (newestSubmission db taskId).map (·.submissionId)
  | .replicationJob jobId =>
    (db.replicationJobs.find? (·.jobId = jobId)).bind (·.onchainReplicationId)
  | _ => none

/-- The default label of a record: what it says it is, and a number or a key. -/
def RecordKey.label : RecordKey → Option ℕ → String × String
  | .reviewTask _, some submissionId => ("review-submission", toString submissionId)
  | .reviewTask _, none => ("review-submission", "")
  | .replicationJob _, some onchainReplicationId => ("replication", toString onchainReplicationId)
  | .replicationJob jobId, none => ("replication-job", toString jobId)
  | .maintenanceTask taskId, _ => ("artifact-maintenance", toString taskId)
  | .forecast forecastId, _ => ("forecast", forecastId)
  | .challenge challengeId, _ => ("challenge", challengeId)

section

variable {bigint : Bigint} {db db' : ReadModel} {w w' : World} {record : RecordKey}
  {kind sourceId : String} {target target' : ResolvedWorkTarget}

/-- **The default label of what an item id resolves to**, and neither of its parts has a
colon. -/
theorem label_of_resolved (h : Resolved bigint db w kind sourceId target)
    (hrecord : recordKeyOf bigint kind sourceId = some record) :
    ∃ what which, record.label (record.labelledBy db) = (what, which) ∧
      target.defaultSettlementLabel = Js.join ':' what which ∧
      ':' ∉ what.toList ∧ ':' ∉ which.toList := by
  cases h with
  | review hid htask hsubmission hclaim =>
    obtain rfl : .reviewTask _ = record := by simpa [recordKeyOf, hid] using hrecord
    refine ⟨"review-submission", _, ?_, rfl, by decide, Js.not_mem_toString (by decide) _⟩
    rw [RecordKey.labelledBy, hsubmission]
    rfl
  | @replication _ job _ hid hjob =>
    obtain rfl : .replicationJob _ = record := by simpa [recordKeyOf, hid] using hrecord
    have hlabelledBy : (RecordKey.replicationJob job.jobId).labelledBy db =
        job.onchainReplicationId := by
      rw [RecordKey.labelledBy, Js.find?_of_nodup db.replicationJobs_nodup hjob, Option.bind_some]
    rw [hlabelledBy]
    unfold replicationLabel
    rcases job.onchainReplicationId with _ | onchainReplicationId
    · exact ⟨"replication-job", _, rfl, rfl, by decide, Js.not_mem_toString (by decide) _⟩
    · exact ⟨"replication", _, rfl, rfl, by decide, Js.not_mem_toString (by decide) _⟩
  | maintenance hid htask hclaim =>
    obtain rfl : .maintenanceTask _ = record := by simpa [recordKeyOf, hid] using hrecord
    exact ⟨"artifact-maintenance", _, rfl, rfl, by decide, Js.not_mem_toString (by decide) _⟩
  | forecast hid hforecast =>
    obtain rfl : .forecast _ = record := by simpa [recordKeyOf] using hrecord
    refine ⟨"forecast", _, ?_, rfl, by decide, Js.not_mem_toString (by decide) _⟩
    rw [hid]
    rfl
  | challenge hid hchallenge =>
    obtain rfl : .challenge _ = record := by simpa [recordKeyOf] using hrecord
    refine ⟨"challenge", _, ?_, rfl, by decide, Js.not_mem_toString (by decide) _⟩
    rw [hid]
    rfl

/-- A record has the same label only where it is labelled by the same thing. -/
theorem labelledBy_eq_of_label (h : record.label (record.labelledBy db) =
    record.label (record.labelledBy db')) : record.labelledBy db = record.labelledBy db' := by
  cases record with
  | reviewTask taskId =>
    generalize (RecordKey.reviewTask taskId).labelledBy db = x at h ⊢
    generalize (RecordKey.reviewTask taskId).labelledBy db' = y at h ⊢
    rcases x with _ | m <;> rcases y with _ | n
    · rfl
    · exact absurd (Prod.mk.inj h).2.symm (Js.toString_ne_empty n)
    · exact absurd (Prod.mk.inj h).2 (Js.toString_ne_empty m)
    · exact congrArg some (Js.toString_injective (Prod.mk.inj h).2)
  | replicationJob jobId =>
    generalize (RecordKey.replicationJob jobId).labelledBy db = x at h ⊢
    generalize (RecordKey.replicationJob jobId).labelledBy db' = y at h ⊢
    rcases x with _ | m <;> rcases y with _ | n
    · rfl
    · exact absurd (Prod.mk.inj h).1 (by decide)
    · exact absurd (Prod.mk.inj h).1 (by decide)
    · exact congrArg some (Js.toString_injective (Prod.mk.inj h).2)
  | maintenanceTask taskId => rfl
  | forecast forecastId => rfl
  | challenge challengeId => rfl

end

/-- The text behind two separators can be read back from both of them. -/
theorem settlementKey_join (itemId what which : String) :
    settlementKey itemId (Js.join ':' what which) =
      Js.join ':' (Js.join ':' itemId what) which := by
  refine String.toList_inj.mp ?_
  simp only [settlementKey, Js.toList_join, List.append_assoc, List.cons_append]

/-- **Under a default label, a key can be read back**: the item id as it was given, and the
label. -/
theorem settlementKey_inj {itemId itemId' what what' which which' : String}
    (hwhat : ':' ∉ what.toList) (hwhat' : ':' ∉ what'.toList) (hwhich : ':' ∉ which.toList)
    (hwhich' : ':' ∉ which'.toList)
    (h : settlementKey itemId (Js.join ':' what which) =
      settlementKey itemId' (Js.join ':' what' which')) :
    itemId = itemId' ∧ (what, which) = (what', which') := by
  rw [settlementKey_join, settlementKey_join] at h
  obtain ⟨hitem, rfl⟩ := Js.join_left_inj hwhich hwhich' h
  obtain ⟨rfl, rfl⟩ := Js.join_left_inj hwhat hwhat' hitem
  exact ⟨rfl, rfl⟩

section

variable {bigint : Bigint} {D : Deployment} {db db' : ReadModel} {w w' : World}
  {input input' : SettleWorkRewardInput} {call call' : WorkRewardCall} {record : RecordKey}

/-- **The key of a settlement without an explicit label.** -/
theorem settlementId_of_settleWorkReward (h : settleWorkReward bigint D db w input = .ok call)
    (hlabel : input.settlementLabel = none)
    (hrecord : recordKey bigint input.itemId = some record) :
    ∃ what which, record.label (record.labelledBy db) = (what, which) ∧
      ':' ∉ what.toList ∧ ':' ∉ which.toList ∧ call.settlementLabel = Js.join ':' what which ∧
      call.accrual.settlementId = settlementId D input.itemId (Js.join ':' what which) := by
  obtain ⟨kind, sourceId, hparse, hresolved, hcall⟩ := resolved_of_settleWorkReward h
  rw [recordKey, hparse] at hrecord
  obtain ⟨what, which, hparts, hdefault, hwhat, hwhich⟩ := label_of_resolved hresolved hrecord
  have hused : settlementLabelOf input.settlementLabel call.target = Js.join ':' what which := by
    rw [hlabel]
    exact hdefault
  refine ⟨what, which, hparts, hwhat, hwhich, ?_, ?_⟩
  · rw [hcall]
    exact hused
  · rw [hcall, ← hused]
    rfl

/-- **One record has one settlement exactly as long as its id is written in one way.** Two
calls without an explicit label, for item ids that name the same record, at any two
moments: they ask for the same settlement if and only if the item ids are the same text
and the record is labelled by the same thing, unless the hash of the two keys collides.
Where they do, the vault pays at most one of the two. -/
theorem default_settlement_iff (h : settleWorkReward bigint D db w input = .ok call)
    (h' : settleWorkReward bigint D db' w' input' = .ok call')
    (hlabel : input.settlementLabel = none) (hlabel' : input'.settlementLabel = none)
    (hrecord : recordKey bigint input.itemId = some record)
    (hrecord' : recordKey bigint input'.itemId = some record)
    (hhash : settlementId D input.itemId call.settlementLabel =
        settlementId D input'.itemId call'.settlementLabel →
      settlementKey input.itemId call.settlementLabel =
        settlementKey input'.itemId call'.settlementLabel) :
    (call.accrual.settlementId = call'.accrual.settlementId ↔
        input.itemId = input'.itemId ∧ record.labelledBy db = record.labelledBy db') ∧
      (input.itemId = input'.itemId ∧ record.labelledBy db = record.labelledBy db' →
        ∀ tr c, (protocol D).Run tr c → tr.countP (fun e =>
          (vaultCall e.action).any fun vaultCall => vaultCall.accrues call.accrual.settlementId ||
            vaultCall.accrues call'.accrual.settlementId) ≤ 1) := by
  obtain ⟨what, which, hparts, hwhat, hwhich, hused, hid⟩ :=
    settlementId_of_settleWorkReward h hlabel hrecord
  obtain ⟨what', which', hparts', hwhat', hwhich', hused', hid'⟩ :=
    settlementId_of_settleWorkReward h' hlabel' hrecord'
  rw [hused, hused'] at hhash
  have hsame : input.itemId = input'.itemId ∧ record.labelledBy db = record.labelledBy db' →
      call.accrual.settlementId = call'.accrual.settlementId := by
    rintro ⟨hitem, hlabelledBy⟩
    rw [hlabelledBy, hparts'] at hparts
    obtain ⟨rfl, rfl⟩ := Prod.mk.inj hparts
    rw [hid, hid', hitem]
  refine ⟨⟨fun heq => ?_, hsame⟩, fun hcondition tr c hrun => ?_⟩
  · rw [hid, hid'] at heq
    obtain ⟨hitem, hlabels⟩ := settlementKey_inj hwhat hwhat' hwhich hwhich' (hhash heq)
    rw [← hparts, ← hparts'] at hlabels
    exact ⟨hitem, labelledBy_eq_of_label hlabels⟩
  · rw [hsame hcondition]
    simp only [Bool.or_self]
    exact countP_accrues_le_one hrun _

end

/-! ### Two ways to write an id -/

/-- The true value of the hash function at the settlement keys the histories below use, and
what `devnet` answers elsewhere. -/
def rewardHash (bytes : List UInt8) : Bytes32 :=
  if bytes = Js.toUtf8Bytes "forecast:1:forecast:1" then
    0x5de1771fdb60a715cf7dd117a6c80e0ae037589b19a3dad4d52a39ffb009fa64
  else if bytes = Js.toUtf8Bytes "forecast:1:x:forecast:1" then
    0x0f5154bfad29e7f9ac94a13ed4d207c8c47c6b0f925ff72501acdd8a42bd10a2
  else if bytes = Js.toUtf8Bytes "forecast:1:auto-v1:step-1" then
    0x8cdb4aa8e39084f0b91db2ea8925d6337300f3f8f061629c5e12357b0d017a08
  else if bytes = Js.toUtf8Bytes "forecast:2:auto-v1:step-1" then
    0x60bf140ee5fbd3cceb51608b6728818e664cf14fd04cc3a380b03fd5cccaf05b
  else if bytes = Js.toUtf8Bytes "forecast:1:auto-v1:step-2" then
    0x926b106660f9a64be6b0aafaca261c34467e359465bcd843a6e1f99c47d00d39
  else devnetHash bytes

/-- The development network, with these values. -/
def rewardNet : Deployment := { devnet with keccak256 := rewardHash }

theorem rewardNet_genesis : (protocol rewardNet).genesis devnetGenesis := devnetGenesis_genesis

/-- Claim 1 with a settled forecast of `0xFC`, on behalf of nobody. -/
def forecastDb : ReadModel :=
  { ReadModel.empty with
    claims := [⟨1, 0⟩]
    forecasts := [⟨1, 1, some 0xFC, 0, true, some 1⟩]
    forecasts_nodup := by decide }

/-- The forecast is to be paid 9 under its default label, and is called `itemId`. -/
def forecastInput (itemId : String) : SettleWorkRewardInput where
  amountWei := 9
  budgetTopUpBps := none
  itemId := itemId
  recipient := none
  settlementLabel := none

/-- The accrual this asks for. -/
def forecastAccrual (itemId : String) : ClaimRewardVault.Accrual where
  claimId := 1
  workKind := 5
  settlementId := settlementId rewardNet itemId "forecast:1"
  recipient := 0xFC
  agentId := 0
  amount := 9
  budgetTopUpBps := 0

/-- What the forecast resolves to, whatever it is called. -/
def forecastTarget : ResolvedWorkTarget where
  agentId := none
  claimId := 1
  defaultSettlementLabel := "forecast:1"
  recipient := 0xFC
  workKind := .forecast

/-- The call for the forecast. -/
def forecastCall (itemId : String) : WorkRewardCall where
  target := forecastTarget
  settlementLabel := "forecast:1"
  accrual := forecastAccrual itemId

theorem settle_forecast {itemId : String} (h : parseItemId itemId = .ok ("forecast", "1")) :
    settleWorkReward decimal rewardNet forecastDb devnetGenesis (forecastInput itemId) =
      .ok (forecastCall itemId) := by
  rw [settleWorkReward, forecastInput, h]
  rfl

theorem parse_forecast : parseItemId "forecast:1" = .ok ("forecast", "1") :=
  eq_ok_of_toOption (by decide)

theorem parse_forecast_tail : parseItemId "forecast:1:x" = .ok ("forecast", "1") :=
  eq_ok_of_toOption (by decide)

/-- The forecast is paid twice, under two spellings of its id. -/
def paidTwice : List (Move Message) :=
  opening ++
    [send 0xBB 100 (.claimRewardVault (.fundClaimRewards 1 5)),
      send 0x0A 0 (.claimRewardVault (.accrueWorkReward (forecastAccrual "forecast:1"))),
      send 0x0A 0 (.claimRewardVault (.accrueWorkReward (forecastAccrual "forecast:1:x")))]

theorem play_paidTwice : ((protocol rewardNet).play paidTwice ⟨devnetGenesis, []⟩).isSome := by
  decide

/-- **One record can have two settlements**: `forecast:1` and `forecast:1:x` are both
accepted, name the same forecast and leave the label to it, their settlements differ, and
the vault pays for both, one after the other. -/
theorem forecast_paid_twice :
    settleWorkReward decimal rewardNet forecastDb devnetGenesis (forecastInput "forecast:1") =
        .ok (forecastCall "forecast:1") ∧
      settleWorkReward decimal rewardNet forecastDb devnetGenesis (forecastInput "forecast:1:x") =
        .ok (forecastCall "forecast:1:x") ∧
      parseItemId "forecast:1" = parseItemId "forecast:1:x" ∧
      recordKey decimal "forecast:1" = recordKey decimal "forecast:1:x" ∧
      (forecastCall "forecast:1").accrual.settlementId ≠
        (forecastCall "forecast:1:x").accrual.settlementId ∧
      ∃ tr c, (protocol rewardNet).Run tr c ∧
        (tr.countP fun e => (vaultCall e.action).any fun call =>
          call.accrues (forecastCall "forecast:1").accrual.settlementId ||
            call.accrues (forecastCall "forecast:1:x").accrual.settlementId) = 2 ∧
        c.world.claimRewardVault.accruedRewardBalances 0xFC = 18 := by
  refine ⟨settle_forecast parse_forecast, settle_forecast parse_forecast_tail,
    parse_forecast.trans parse_forecast_tail.symm, by decide, by decide, ?_⟩
  refine ⟨_, _, Machine.run_play rewardNet_genesis play_paidTwice, ?_, ?_⟩
  · decide
  · decide

/-- There, the settlements differ because the spellings do. -/
theorem default_settlement_iff_paidTwice :
    ¬(forecastCall "forecast:1").accrual.settlementId =
      (forecastCall "forecast:1:x").accrual.settlementId := by
  intro heq
  have hiff := default_settlement_iff (settle_forecast parse_forecast)
    (settle_forecast parse_forecast_tail) rfl rfl
    (show recordKey decimal "forecast:1" = some (.forecast "1") by decide)
    (show recordKey decimal "forecast:1:x" = some (.forecast "1") by decide)
    (fun hhash => absurd hhash (by decide))
  exact absurd (hiff.1.mp heq).1 (by decide)

end ScientificProtocol.RewardPolicy
