import ScientificProtocol.Indexer.Columns
import ScientificProtocol.System.World
import ScientificProtocol.Js.Text

/-!
# What the reward scripts read

The records `src/rewards/settlement.ts` and `src/rewards/policy.ts` work on: the views of
the database, with the fields the scripts look at, and the tables in the order the
queries list them. Identifiers that the columns keep as decimal texts are numbers here,
and an account that is blank is no account.

`ScientificProtocol.RewardPolicy.ReadModel` carries what the tables promise whatever is
in them: their primary keys, and the order of the one listing the scripts rely on. It
also says which columns the table of replications has, since a listing of replications
fails without the one that no migration adds.
-/

namespace ScientificProtocol.RewardPolicy

open Evm

/-! ### Kinds of work -/

/-- `ClaimRewardWorkKind`. -/
inductive ClaimRewardWorkKind where
  | review
  | replication
  | maintenance
  | challenge
  | synthesis
  | forecast
  deriving DecidableEq, Repr

/-- `CLAIM_REWARD_WORK_KIND_CODES`. -/
def ClaimRewardWorkKind.code : ClaimRewardWorkKind → UInt8
  | .review => 0
  | .replication => 1
  | .maintenance => 2
  | .challenge => 3
  | .synthesis => 4
  | .forecast => 5

/-- Every code is one the vault has a pool for. -/
theorem ClaimRewardWorkKind.code_lt (workKind : ClaimRewardWorkKind) :
    ¬workKind.code ≥ ClaimRewardVault.workKindCount := by
  cases workKind <;> decide

inductive ReviewTaskType where
  | artifactCompletenessCheck
  | artifactIntegrityCheck
  | benchmarkRerunCheck
  | certificationSynthesisCheck
  | claimExtractionCheck
  | claimExtractionSynthesisCheck
  | contradictionScan
  | methodConsistencyCheck
  | replicationReadinessCheck
  | statsSanityCheck
  deriving DecidableEq, Repr

def rewardWorkKindForReviewTaskType : ReviewTaskType → ClaimRewardWorkKind
  | .certificationSynthesisCheck => .synthesis
  | _ => .review

/-! ### Views -/

inductive ReviewTaskStatus where
  | canceled
  | completed
  | escalated
  | open
  deriving DecidableEq, Repr

/-- The status of a replication job, and of an artifact maintenance task. -/
inductive JobStatus where
  | assigned
  | completed
  | failed
  | open
  deriving DecidableEq, Repr

structure ClaimView where
  claimId : ℕ
  domainId : ℕ
  deriving DecidableEq

structure ReviewTaskView where
  taskId : ℕ
  claimId : Option ℕ
  taskType : ReviewTaskType
  status : ReviewTaskStatus
  inputArtifactKeys : List String
  resultArtifactKey : Option String
  deriving DecidableEq

structure ReviewSubmissionView where
  submissionId : ℕ
  taskId : ℕ
  claimId : Option ℕ
  reviewerActor : Option Address
  reviewerAgentId : Option ℕ
  evidenceArtifactKey : Option String
  resultArtifactKey : Option String
  createdAt : ℕ
  deriving DecidableEq

structure ReplicationJobView where
  jobId : ℕ
  claimId : ℕ
  status : JobStatus
  assignedAgentId : Option ℕ
  submissionActor : Option Address
  onchainReplicationId : Option ℕ
  resultArtifactKey : Option String
  deriving DecidableEq

/-- A replication as the indexer saw it. -/
structure ReplicationView where
  replicationId : ℕ
  claimId : ℕ
  replicator : Address
  agentId : ℕ
  deriving DecidableEq

structure ArtifactMaintenanceTaskView where
  taskId : ℕ
  artifactKey : String
  status : JobStatus
  assignedAgentId : Option ℕ
  deriving DecidableEq

structure ForecastView where
  forecastId : ℕ
  claimId : ℕ
  forecaster : Option Address
  agentId : ℕ
  settled : Bool
  finalStatus : Option ℕ
  deriving DecidableEq

structure ChallengeView where
  challengeId : ℕ
  claimId : ℕ
  challenger : Option Address
  agentId : ℕ
  status : ℕ
  deriving DecidableEq

/-! ### The tables -/

/-- **A snapshot of the database**, each table in the order its listing has: review tasks
and submissions from the newest to the oldest, everything else from the lowest number
up. -/
structure ReadModel where
  claims : List ClaimView
  reviewTasks : List ReviewTaskView
  reviewSubmissions : List ReviewSubmissionView
  replicationJobs : List ReplicationJobView
  replications : List ReplicationView
  replicationsSchema : Indexer.ReplicationsSchema
  artifactMaintenanceTasks : List ArtifactMaintenanceTaskView
  forecasts : List ForecastView
  challenges : List ChallengeView
  reviewTasks_nodup : (reviewTasks.map (·.taskId)).Nodup
  reviewTasks_lt : ∀ task ∈ reviewTasks, task.taskId < 2 ^ 63
  reviewSubmissions_sorted : reviewSubmissions.Pairwise (·.createdAt ≥ ·.createdAt)
  replicationJobs_nodup : (replicationJobs.map (·.jobId)).Nodup
  replicationJobs_lt : ∀ job ∈ replicationJobs, job.jobId < 2 ^ 63
  artifactMaintenanceTasks_nodup : (artifactMaintenanceTasks.map (·.taskId)).Nodup
  artifactMaintenanceTasks_lt : ∀ task ∈ artifactMaintenanceTasks, task.taskId < 2 ^ 63
  forecasts_nodup : (forecasts.map (·.forecastId)).Nodup
  challenges_nodup : (challenges.map (·.challengeId)).Nodup

/-- A database nobody has written to, with the columns of the migrations. -/
def ReadModel.empty : ReadModel where
  claims := []
  reviewTasks := []
  reviewSubmissions := []
  replicationJobs := []
  replications := []
  replicationsSchema := .committed
  artifactMaintenanceTasks := []
  forecasts := []
  challenges := []
  reviewTasks_nodup := List.nodup_nil
  reviewTasks_lt := by simp
  reviewSubmissions_sorted := .nil
  replicationJobs_nodup := List.nodup_nil
  replicationJobs_lt := by simp
  artifactMaintenanceTasks_nodup := List.nodup_nil
  artifactMaintenanceTasks_lt := by simp
  forecasts_nodup := List.nodup_nil
  challenges_nodup := List.nodup_nil

/-- How the database reads a text where it expects a number (`WHERE task_id = $1`). It
reads numerals; what else it reads as a number is its own affair. -/
structure Bigint where
  read : String → Option ℕ
  read_toString : ∀ n : ℕ, n < 2 ^ 63 → read (toString n) = some n

/-- The numerals and nothing else, with or without leading zeros. -/
def decimal : Bigint where
  read text :=
    if text ≠ "" ∧ text.toList.all Char.isDigit ∧ Nat.ofDigitChars 10 text.toList 0 < 2 ^ 63 then
      some (Nat.ofDigitChars 10 text.toList 0)
    else none
  read_toString n hlt := by
    have hlist : (toString n).toList = Nat.toDigits 10 n := by
      rw [Nat.toString_eq_ofList_toDigits, String.toList_ofList]
    have hdigits : (Nat.toDigits 10 n).all Char.isDigit = true :=
      List.all_eq_true.mpr fun c hc => Nat.isDigit_of_mem_toDigits (by decide) (by decide) hc
    rw [hlist, Nat.ofDigitChars_ten_toDigits, if_pos ⟨Js.toString_ne_empty n, hdigits, hlt⟩]

end ScientificProtocol.RewardPolicy
