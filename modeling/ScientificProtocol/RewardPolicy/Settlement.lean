import ScientificProtocol.RewardPolicy.ReadModel

/-!
# Settling the reward of a piece of work

`src/rewards/settlement.ts`: from the identifier of a work item to the one call of the
vault that pays for it. The identifier is taken apart, the record it names is looked up
in the database (`resolveReviewTarget` and its four siblings), and the claim, the agent
and the recipient come from that record. The key the vault remembers the payment under
comes from somewhere else: it is the hash of the identifier *as it was given*, with the
settlement label behind it.

A script that throws makes no call, so everything here is a `Script`: the call, or why
there is none.
-/

namespace ScientificProtocol.RewardPolicy

open Evm

/-- Why a script stops. -/
inductive Fault where
  /-- `throw new Error(message)`. -/
  | error (message : String)
  /-- A call of a contract reverts. -/
  | reverted (failure : Failure Revert)
  /-- The database does not read the text as the number it expects. -/
  | notBigint (text : String)
  /-- A query names a column that is not there. -/
  | undefinedColumn (failure : Sql.UndefinedColumn)

/-- A computation that may throw. -/
abbrev Script (α : Type) : Type := Except Fault α

/-- A call of a contract, from a script. -/
def liftCall {α : Type} : Tx Revert α → Script α
  | .ok a => .ok a
  | .error failure => .error (.reverted failure)

/-- An answer of the database, from a script. -/
def liftQuery {α : Type} : Except Sql.UndefinedColumn α → Script α
  | .ok a => .ok a
  | .error failure => .error (.undefinedColumn failure)

/-- A value that has to be there. -/
def orThrow {α : Type} (message : String) : Option α → Script α
  | some a => .ok a
  | none => .error (.error message)

def throwIf (c : Prop) [Decidable c] (message : String) : Script Unit :=
  if c then .error (.error message) else .ok ()

/-- The number a parameter of a query stands for. -/
def Bigint.param (bigint : Bigint) (text : String) : Script ℕ :=
  match bigint.read text with
  | some n => .ok n
  | none => .error (.notBigint text)

/-- What a work item is paid for. -/
structure ResolvedWorkTarget where
  agentId : Option ℕ
  claimId : ℕ
  defaultSettlementLabel : String
  recipient : Address
  workKind : ClaimRewardWorkKind
  deriving DecidableEq

/-- `parseItemId`: the two texts before the second colon. What comes after it is dropped. -/
def parseItemId (itemId : String) : Script (String × String) :=
  match (Js.split ':' itemId).take 2 with
  | [kind, sourceId] =>
    if kind = "" ∨ sourceId = "" then .error (.error s!"invalid work item id: {itemId}")
    else .ok (kind, sourceId)
  | _ => .error (.error s!"invalid work item id: {itemId}")

/-! ### The records behind the items -/

section

variable (bigint : Bigint) (db : ReadModel) (w : World) (recipientOverride : Option Address)

def lookupAgentOperator (agentId : ℕ) : Script Address := do
  let agent ← liftCall (w.agentRegistry.getAgent agentId)
  return agent.operator

/-- The account that is known, or else the operator of the agent. -/
def accountOrOperator (known : Option Address) (agentId : Option ℕ) : Script (Option Address) :=
  match known, agentId with
  | some account, _ => .ok (some account)
  | none, some agentId => some <$> lookupAgentOperator w agentId
  | none, none => .ok none

def readReviewTask (taskId : String) : Script (Option ReviewTaskView) := do
  let id ← bigint.param taskId
  return db.reviewTasks.find? (·.taskId = id)

/-- The submissions of a task, the newest first. -/
def readReviewSubmissions (taskId : String) : Script (List ReviewSubmissionView) := do
  let id ← bigint.param taskId
  return db.reviewSubmissions.filter (·.taskId = id)

def readReplicationJob (jobId : String) : Script (Option ReplicationJobView) := do
  let id ← bigint.param jobId
  return db.replicationJobs.find? (·.jobId = id)

def readArtifactMaintenanceTask (taskId : String) :
    Script (Option ArtifactMaintenanceTaskView) := do
  let id ← bigint.param taskId
  return db.artifactMaintenanceTasks.find? (·.taskId = id)

/-- The key column is a text, and compared as one. -/
def readForecast (forecastId : String) : Option ForecastView :=
  db.forecasts.find? (toString ·.forecastId = forecastId)

/-- The key column is a text, and compared as one. -/
def readChallenge (challengeId : String) : Option ChallengeView :=
  db.challenges.find? (toString ·.challengeId = challengeId)

def resolveReviewTarget (taskId : String) : Script ResolvedWorkTarget := do
  let task ← orThrow s!"review task {taskId} not found" (← readReviewTask bigint db taskId)
  let latestSubmission ← orThrow s!"review task {taskId} has no submissions to reward"
    (← readReviewSubmissions bigint db taskId).head?
  let agentId := latestSubmission.reviewerAgentId
  let recipient ← orThrow s!"review task {taskId} is missing a reward recipient"
    (← accountOrOperator w (recipientOverride <|> latestSubmission.reviewerActor) agentId)
  let claimId ← orThrow s!"review task {taskId} is not claim-backed and cannot be settled"
    task.claimId
  return {
    agentId
    claimId
    defaultSettlementLabel :=
      Js.join ':' "review-submission" (toString latestSubmission.submissionId)
    recipient
    workKind := rewardWorkKindForReviewTaskType task.taskType }

/-- The agent of a replication on the chain, where 0 is nobody. -/
def agentOrNull (agentId : ℕ) : Option ℕ := if agentId = 0 then none else some agentId

def resolveReplicationTarget (jobId : String) : Script ResolvedWorkTarget := do
  let job ← orThrow s!"replication job {jobId} not found" (← readReplicationJob bigint db jobId)
  throwIf (job.status ≠ .completed)
    s!"replication job {jobId} must be completed before reward settlement"
  let known ← accountOrOperator w (recipientOverride <|> job.submissionActor) job.assignedAgentId
  match job.onchainReplicationId with
  | none =>
    let recipient ← orThrow s!"replication job {jobId} is missing a reward recipient" known
    return {
      agentId := job.assignedAgentId
      claimId := job.claimId
      defaultSettlementLabel := Js.join ':' "replication-job" (toString job.jobId)
      recipient
      workKind := .replication }
  -- What the chain says of the replication replaces what the job says.
  | some onchainReplicationId =>
    let replication ← liftCall (w.replicationRegistry.getReplication onchainReplicationId)
    return {
      agentId := agentOrNull replication.agentId
      claimId := job.claimId
      defaultSettlementLabel := Js.join ':' "replication" (toString onchainReplicationId)
      recipient := recipientOverride.getD replication.replicator
      workKind := .replication }

/-- The record mentions the artifact, among its inputs or as its result. -/
def ReviewTaskView.mentions (artifactKey : String) (task : ReviewTaskView) : Bool :=
  decide (task.resultArtifactKey = some artifactKey) || task.inputArtifactKeys.contains artifactKey

/-- The record mentions the artifact, as its evidence or as its result. -/
def ReviewSubmissionView.mentions (artifactKey : String) (submission : ReviewSubmissionView) :
    Bool :=
  decide (submission.resultArtifactKey = some artifactKey) ||
    decide (submission.evidenceArtifactKey = some artifactKey)

/-- The record has the artifact as its result. -/
def ReplicationJobView.mentions (artifactKey : String) (job : ReplicationJobView) : Bool :=
  decide (job.resultArtifactKey = some artifactKey)

/-- The claim of the first record that mentions the artifact: of the review tasks, then of
the submissions, then of the jobs. -/
def findClaimIdForArtifactKey (artifactKey : String) : Script ℕ :=
  match (db.reviewTasks.find? (·.mentions artifactKey)).bind (·.claimId) with
  | some claimId => .ok claimId
  | none =>
    match (db.reviewSubmissions.find? (·.mentions artifactKey)).bind (·.claimId) with
    | some claimId => .ok claimId
    | none =>
      match db.replicationJobs.find? (·.mentions artifactKey) with
      | some job => .ok job.claimId
      | none => .error (.error s!"unable to resolve claim id for artifact {artifactKey}")

def resolveMaintenanceTarget (taskId : String) : Script ResolvedWorkTarget := do
  let task ← orThrow s!"artifact maintenance task {taskId} not found"
    (← readArtifactMaintenanceTask bigint db taskId)
  throwIf (task.status ≠ .completed)
    s!"artifact maintenance task {taskId} must be completed before reward settlement"
  let agentId := task.assignedAgentId
  let recipient ← orThrow s!"artifact maintenance task {taskId} is missing a reward recipient"
    (← accountOrOperator w recipientOverride agentId)
  let claimId ← findClaimIdForArtifactKey db task.artifactKey
  return {
    agentId
    claimId
    defaultSettlementLabel := Js.join ':' "artifact-maintenance" (toString task.taskId)
    recipient
    workKind := .maintenance }

def resolveForecastTarget (forecastId : String) : Script ResolvedWorkTarget := do
  let forecast ← orThrow s!"forecast {forecastId} not found" (readForecast db forecastId)
  throwIf (¬forecast.settled) s!"forecast {forecastId} must be settled before reward settlement"
  let agentId := agentOrNull forecast.agentId
  let recipient ← orThrow s!"forecast {forecastId} is missing a reward recipient"
    (← accountOrOperator w (recipientOverride <|> forecast.forecaster) agentId)
  return {
    agentId
    claimId := forecast.claimId
    defaultSettlementLabel := Js.join ':' "forecast" (toString forecast.forecastId)
    recipient
    workKind := .forecast }

def resolveChallengeTarget (challengeId : String) : Script ResolvedWorkTarget := do
  let challenge ← orThrow s!"challenge {challengeId} not found" (readChallenge db challengeId)
  throwIf (challenge.status = 0 ∨ challenge.status = 3)
    s!"challenge {challengeId} must be resolved before reward settlement"
  let agentId := agentOrNull challenge.agentId
  let recipient ← orThrow s!"challenge {challengeId} is missing a reward recipient"
    (← accountOrOperator w (recipientOverride <|> challenge.challenger) agentId)
  return {
    agentId
    claimId := challenge.claimId
    defaultSettlementLabel := Js.join ':' "challenge" (toString challenge.challengeId)
    recipient
    workKind := .challenge }

/-- The record behind an item, by its kind. -/
def resolveWorkTarget (kind sourceId : String) : Script ResolvedWorkTarget :=
  if kind = "review-task" then resolveReviewTarget bigint db w recipientOverride sourceId
  else if kind = "replication-job" then
    resolveReplicationTarget bigint db w recipientOverride sourceId
  else if kind = "artifact-maintenance" then
    resolveMaintenanceTarget bigint db w recipientOverride sourceId
  else if kind = "forecast" then resolveForecastTarget db w recipientOverride sourceId
  else if kind = "challenge" then resolveChallengeTarget db w recipientOverride sourceId
  else .error (.error s!"unsupported work item kind: {kind}")

end

/-! ### The call of the vault -/

/-- What the script is asked to pay. -/
structure SettleWorkRewardInput where
  amountWei : ℕ
  budgetTopUpBps : Option UInt16
  itemId : String
  recipient : Option Address
  settlementLabel : Option String
  deriving DecidableEq

/-- What the script asks of the vault, and under which label. -/
structure WorkRewardCall where
  target : ResolvedWorkTarget
  settlementLabel : String
  accrual : ClaimRewardVault.Accrual
  deriving DecidableEq

/-- The text whose hash is the settlement. -/
def settlementKey (itemId settlementLabel : String) : String := Js.join ':' itemId settlementLabel

def settlementId (D : Deployment) (itemId settlementLabel : String) : Bytes32 :=
  D.keccak256 (Js.toUtf8Bytes (settlementKey itemId settlementLabel))

/-- `agentId && agentId !== "0" ? 5_000 : 0`. -/
def budgetTopUpBps : Option ℕ → UInt16
  | none => 0
  | some agentId => if agentId = 0 then 0 else 5000

/-- The label that was asked for, or else the one of the record. A label that trims to
nothing was not asked for. -/
def settlementLabelOf (asked : Option String) (target : ResolvedWorkTarget) : String :=
  match asked.map Js.trim with
  | some label => if label = "" then target.defaultSettlementLabel else label
  | none => target.defaultSettlementLabel

theorem settlementLabelOf_some {label : String} {target : ResolvedWorkTarget}
    (h : Js.trim label ≠ "") : settlementLabelOf (some label) target = Js.trim label :=
  if_neg h

/-- The call for a record that has been resolved. -/
def workRewardCall (D : Deployment) (input : SettleWorkRewardInput) (target : ResolvedWorkTarget) :
    WorkRewardCall :=
  let settlementLabel := settlementLabelOf input.settlementLabel target
  { target
    settlementLabel
    accrual := {
      claimId := target.claimId
      workKind := target.workKind.code
      settlementId := settlementId D input.itemId settlementLabel
      recipient := target.recipient
      agentId := target.agentId.getD 0
      amount := input.amountWei
      budgetTopUpBps := input.budgetTopUpBps.getD (budgetTopUpBps target.agentId) } }

theorem workRewardCall_settlementId {D : Deployment} {input : SettleWorkRewardInput}
    {target : ResolvedWorkTarget} : (workRewardCall D input target).accrual.settlementId =
      settlementId D input.itemId (settlementLabelOf input.settlementLabel target) := rfl

/-- **The settlement script**, up to its call of the vault. -/
def settleWorkReward (bigint : Bigint) (D : Deployment) (db : ReadModel) (w : World)
    (input : SettleWorkRewardInput) : Script WorkRewardCall := do
  let (kind, sourceId) ← parseItemId input.itemId
  let target ← resolveWorkTarget bigint db w input.recipient kind sourceId
  return workRewardCall D input target

/-! ### When a script does not throw -/

section

variable {α β : Type}

@[simp] theorem script_pure_eq_ok (a : α) : (pure a : Script α) = .ok a := rfl

@[simp] theorem script_ok_bind (a : α) (f : α → Script β) : ((.ok a : Script α) >>= f) = f a := rfl

@[simp] theorem script_error_bind (e : Fault) (f : α → Script β) :
    ((.error e : Script α) >>= f) = .error e := rfl

theorem script_bind_eq_ok {x : Script α} {f : α → Script β} {b : β} :
    (x >>= f) = .ok b ↔ ∃ a, x = .ok a ∧ f a = .ok b := by
  cases x <;> simp

/-- The answers of a script can be compared, its faults need not be. -/
theorem eq_ok_of_toOption {x : Script α} {a : α} (h : x.toOption = some a) : x = .ok a := by
  cases x with
  | ok a' => exact congrArg Except.ok (Option.some.inj h)
  | error _ => exact absurd h (by simp [Except.toOption])

@[simp] theorem orThrow_eq_ok {message : String} {o : Option α} {a : α} :
    orThrow message o = .ok a ↔ o = some a := by
  cases o <;> simp [orThrow]

@[simp] theorem throwIf_eq_ok {c : Prop} [Decidable c] {message : String} {u : Unit} :
    throwIf c message = .ok u ↔ ¬c := by
  unfold throwIf
  split <;> simp_all

@[simp] theorem liftCall_eq_ok {x : Tx Revert α} {a : α} : liftCall x = .ok a ↔ x = .ok a := by
  cases x <;> simp [liftCall]

@[simp] theorem Bigint.param_eq_ok {bigint : Bigint} {text : String} {n : ℕ} :
    bigint.param text = .ok n ↔ bigint.read text = some n := by
  unfold Bigint.param
  split <;> simp_all

end

end ScientificProtocol.RewardPolicy
