import ScientificProtocol.Js.Map
import ScientificProtocol.Js.Text
import ScientificProtocol.Order.Rounding
import ScientificProtocol.RewardPolicy.ReadModel

/-!
# What reviews add up to

`buildClaimReviewState` of `src/review/aggregation.ts`, up to its estimates and certifications, with
the calibration of the reviewers of `src/review/calibration.ts`. Every dimension of a claim has a
score: the average of what has been submitted for it, with the weights of the submissions, or else
what the read model says by itself. The other results are made from the scores.

Numbers are rational and rounded half up (`Rounding.round`); points in time are those that their
texts stand for, if any.
-/

namespace ScientificProtocol.Review

open RewardPolicy (ReviewTaskType ReviewTaskStatus)

/-! ### Views -/

inductive ClaimReviewVectorDimension where
  | artifactCompleteness
  | artifactIntegrity
  | certificationReadiness
  | challengePressure
  | contradictionPressure
  | forecastSupport
  | methodConsistency
  | replicationSupport
  | reproducibilityReadiness
  | reviewCoverage
  | reviewDiversity
  | reviewFreshness
  | statisticalSanity
  deriving DecidableEq, Repr

inductive ReviewSubmissionVerdict where
  | fail
  | flag
  | inconclusive
  | pass
  deriving DecidableEq, Repr

structure ReviewSubmissionView where
  claimId : Option String
  confidenceBps : ℚ
  createdAt : Option ℤ
  dimensions : ClaimReviewVectorDimension → Option ℚ
  reviewType : ReviewTaskType
  reviewerActor : String
  reviewerAgentId : Option String
  verdict : ReviewSubmissionVerdict

inductive ReviewIssueSeverity where
  | critical
  | high
  | low
  | medium
  deriving DecidableEq, Repr

inductive ReviewIssueStatus where
  | dismissed
  | open
  | resolved
  | responded
  deriving DecidableEq, Repr

structure ReviewIssueView where
  category : String
  status : ReviewIssueStatus
  severity : ReviewIssueSeverity
  deriving DecidableEq

structure ReviewedArtifact where
  artifactType : ℕ
  contentDigest : String
  uri : String
  deriving DecidableEq

structure ReviewedClaim where
  claimId : String
  status : ℕ
  deriving DecidableEq

structure ReviewedForecast where
  settled : Bool
  direction : ℕ
  confidenceBps : ℚ
  matched : Option Bool
  deriving DecidableEq

structure ReviewedReplication where
  outcome : Option ℕ
  resolutionStatus : Option ℕ
  deriving DecidableEq

structure ReviewedTask where
  taskType : ReviewTaskType
  deriving DecidableEq

/-- A challenge, by its status. -/
structure ReviewedChallenge where
  status : ℕ
  deriving DecidableEq

structure BuildClaimReviewStateInput where
  artifacts : List ReviewedArtifact
  challenges : List ReviewedChallenge
  claims : List ReviewedClaim
  currentClaimId : Option String
  forecasts : List ReviewedForecast
  issues : List ReviewIssueView
  replications : List ReviewedReplication
  submissionHistory : Option (List ReviewSubmissionView)
  submissions : List ReviewSubmissionView
  tasks : List ReviewedTask

/-! ### Numbers -/

def clampBps (value : ℚ) : ℤ := max 0 (min 10000 (Rounding.round value))

/-- Of no values there is none. -/
def average (values : List ℤ) : Option ℤ :=
  if values = [] then none else some (clampBps ((values.sum : ℚ) / values.length))

/-! ### Calibration -/

def claimOutcomeSupportBps (status : ℕ) : Option ℤ :=
  match status with
  | 3 => some 7000
  | 4 => some 9000
  | 5 => some 2000
  | 6 => some 500
  | _ => none

def submissionSupportSignalBps (submission : ReviewSubmissionView) : ℤ :=
  match submission.verdict with
  | .pass => 8500
  | .inconclusive => 5000
  | .flag => 2000
  | .fail => 1500

def calibrationWeightBps (averageCalibrationBps : Option ℤ) : ℤ :=
  match averageCalibrationBps with
  | none => 10000
  | some averageCalibrationBps => clampBps (4000 + averageCalibrationBps * 6000 / 10000)

/-- What is known of an agent. -/
structure AgentCalibrationHistoryEntry where
  averageCalibrationBps : Option ℤ
  samples : ℕ
  weightBps : ℤ
  deriving DecidableEq

section

variable (claims : List ReviewedClaim) (submissions : List ReviewSubmissionView)
  (excludeClaimId : Option String)

/-- The outcomes that are known, but for that of one claim. -/
def outcomeByClaimId (claimId : String) : Option ℤ :=
  Js.mapGet ((claims.filter fun claim => some claim.claimId ≠ excludeClaimId).filterMap
    fun claim => (claimOutcomeSupportBps claim.status).map fun outcome => (claim.claimId, outcome))
    claimId

/-- `text && ...`: a text that is there and not empty. -/
def present (text : Option String) : Option String := text.filter (· ≠ "")

/-- How near a submission of an agent has been to the outcome of its claim. -/
def contribution (agentId : String) (submission : ReviewSubmissionView) : Option ℤ :=
  if present submission.reviewerAgentId = some agentId then
    ((present submission.claimId).bind (outcomeByClaimId claims excludeClaimId)).map fun outcome =>
      clampBps (10000 - |submissionSupportSignalBps submission - outcome|)
  else none

/-- **What the history says of an agent**, if anything. -/
def buildAgentCalibrationHistory (agentId : String) : Option AgentCalibrationHistoryEntry :=
  let contributions := submissions.filterMap (contribution claims excludeClaimId agentId)
  if contributions = [] then none
  else
    let averageCalibrationBps := average contributions
    some { averageCalibrationBps
           samples := contributions.length
           weightBps := calibrationWeightBps averageCalibrationBps }

end

/-! ### What has been submitted -/

section

variable (agentCalibration : String → Option AgentCalibrationHistoryEntry)

/-- The weight of the agent of a submission. -/
def calibrationWeight (submission : ReviewSubmissionView) : ℤ :=
  (((present submission.reviewerAgentId).bind agentCalibration).map
    AgentCalibrationHistoryEntry.weightBps).getD 10000

def effectiveWeight (submission : ReviewSubmissionView) : ℤ :=
  max 1000 (Rounding.round
    (max 1000 submission.confidenceBps * calibrationWeight agentCalibration submission / 10000))

/-- The submissions that say something about a dimension. -/
def evidenceOf (submissions : List ReviewSubmissionView) (dimension : ClaimReviewVectorDimension) :
    List ReviewSubmissionView :=
  submissions.filter fun submission => (submission.dimensions dimension).isSome

def dimensionScore (dimension : ClaimReviewVectorDimension) (submission : ReviewSubmissionView) :
    ℚ :=
  (submission.dimensions dimension).getD 0

/-- **The score that is submitted**, if any is. -/
def aggregateSubmittedDimension (submissions : List ReviewSubmissionView)
    (dimension : ClaimReviewVectorDimension) : Option ℤ :=
  let evidence := evidenceOf submissions dimension
  if evidence = [] then none
  else
    some (clampBps (Rounding.mean (dimensionScore dimension)
      (fun submission => (effectiveWeight agentCalibration submission : ℚ)) evidence))

end

/-! ### What the read model says -/

def hasArtifactType (artifacts : List ReviewedArtifact) (artifactType : ℕ) : Bool :=
  artifacts.any fun artifact => artifact.artifactType = artifactType

def fallbackArtifactCompleteness (artifacts : List ReviewedArtifact) : ℤ :=
  if artifacts = [] then 0
  else
    clampBps (3500 + min artifacts.length 3 * 1300 + (if hasArtifactType artifacts 5 then 1200 else 0) +
      (if hasArtifactType artifacts 1 || hasArtifactType artifacts 4 then 1000 else 0) +
        if hasArtifactType artifacts 2 then 700 else 0)

def fallbackArtifactIntegrity (artifacts : List ReviewedArtifact) : ℤ :=
  if artifacts = [] then 0
  else
    let validArtifacts := artifacts.countP fun artifact =>
      "0x".toList.isPrefixOf artifact.contentDigest.toList && Js.trim artifact.uri ≠ ""
    clampBps ((validArtifacts : ℚ) / artifacts.length * 10000)

def fallbackMethodConsistency (artifacts : List ReviewedArtifact) : ℤ :=
  if hasArtifactType artifacts 5 then
    if hasArtifactType artifacts 1 || hasArtifactType artifacts 4 then 7000 else 6000
  else if artifacts ≠ [] then 4500 else 0

def fallbackStatisticalSanity (artifacts : List ReviewedArtifact)
    (replications : List ReviewedReplication) : ℤ :=
  if hasArtifactType artifacts 5 && replications ≠ [] then 6500
  else if hasArtifactType artifacts 5 then 5000 else 0

def fallbackReproducibilityReadiness (artifacts : List ReviewedArtifact) : ℤ :=
  let hasCode := hasArtifactType artifacts 1
  let hasContainer := hasArtifactType artifacts 2
  let hasNotebook := hasArtifactType artifacts 4
  if hasCode && (hasContainer || hasNotebook) then 8500
  else if hasCode || hasNotebook then 7000
  else if artifacts ≠ [] then 4000 else 0

def fallbackReplicationSupport (replications : List ReviewedReplication) : Option ℤ :=
  if replications = [] then some 0
  else
    average (replications.map fun replication =>
      if replication.resolutionStatus ∈ [some 1, some 2] then 8500
      else if replication.resolutionStatus ∈ [some 4, some 5] then 2000
      else if replication.outcome ∈ [some 1, some 2] then 7500
      else if replication.outcome ∈ [some 4, some 5, some 6] then 2500
      else 5000)

def fallbackForecastSupport (forecasts : List ReviewedForecast) : Option ℤ :=
  if forecasts = [] then some 0
  else
    average (forecasts.map fun forecast =>
      let confidence := clampBps forecast.confidenceBps
      let base := if forecast.direction = 0 then confidence
        else if forecast.direction = 1 then 5000 else 10000 - confidence
      if forecast.settled && forecast.matched = some false then clampBps (10000 - base) else base)

def severityPoints : ReviewIssueSeverity → ℤ
  | .critical => 3500
  | .high => 2500
  | .medium => 1500
  | .low => 700

def severityPressure (issues : List ReviewIssueView) : ℤ :=
  if issues = [] then 0 else clampBps (issues.map fun issue => severityPoints issue.severity).sum

def challengePoints (challenge : ReviewedChallenge) : ℤ :=
  match challenge.status with
  | 0 => 2000
  | 1 => 3500
  | 2 => 800
  | 3 => 4500
  | _ => 300

def fallbackChallengePressure (challenges : List ReviewedChallenge)
    (issues : List ReviewIssueView) : ℤ :=
  clampBps ((challenges.map challengePoints).sum +
    severityPressure (issues.filter (·.status = .open)))

/-- What a submission adds to the contradiction. -/
def contradictionPoints (submission : ReviewSubmissionView) : ℚ :=
  if submission.reviewType ∈ [.contradictionScan, .methodConsistencyCheck, .statsSanityCheck] ∧
      submission.verdict ∈ [.fail, .flag] then max 2000 submission.confidenceBps
  else 0

def fallbackContradictionPressure (submissions : List ReviewSubmissionView)
    (issues : List ReviewIssueView) : ℤ :=
  clampBps ((submissions.map contradictionPoints).sum +
    severityPressure (issues.filter fun issue =>
      issue.status = .open && (issue.category = "contradiction" || issue.category = "methodology")))

def computeReviewCoverage (tasks : List ReviewedTask) (submissions : List ReviewSubmissionView) :
    ℤ :=
  if tasks = [] then 0
  else
    let coveredTypes := (submissions.map ReviewSubmissionView.reviewType).dedup.length
    let taskTypes := (tasks.map ReviewedTask.taskType).dedup.length
    clampBps ((coveredTypes : ℚ) / max 1 taskTypes * 10000)

/-- The agents of some submissions. -/
def distinctAgents (submissions : List ReviewSubmissionView) : ℕ :=
  (submissions.filterMap fun submission => present submission.reviewerAgentId).dedup.length

def computeReviewDiversity (submissions : List ReviewSubmissionView) : ℤ :=
  if submissions = [] then 0
  else
    let distinctActors := (submissions.map ReviewSubmissionView.reviewerActor).dedup.length
    let distinctTaskTypes := (submissions.map ReviewSubmissionView.reviewType).dedup.length
    clampBps ((distinctAgents submissions : ℚ) / submissions.length * 5000 +
      (distinctActors : ℚ) / submissions.length * 2000 + min 3000 (distinctTaskTypes * 600))

/-- Milliseconds. -/
def dayMs : ℤ := 1000 * 60 * 60 * 24

def computeReviewFreshness (now : ℤ) (submissions : List ReviewSubmissionView) : ℤ :=
  match (submissions.filterMap ReviewSubmissionView.createdAt).max? with
  | none => 0
  | some latest =>
    let ageMs := now - latest
    if ageMs ≤ 7 * dayMs then 10000
    else if ageMs ≤ 30 * dayMs then 8000
    else if ageMs ≤ 90 * dayMs then 6000
    else if ageMs ≤ 180 * dayMs then 4000 else 2000

/-! ### Estimates -/

/-- The scores of a claim. -/
abbrev DimensionScores : Type := ClaimReviewVectorDimension → Option ℤ

section

variable (dimensions : DimensionScores)

def positiveDimensions : List ℤ :=
  [dimensions .artifactCompleteness, dimensions .artifactIntegrity, dimensions .methodConsistency,
    dimensions .statisticalSanity, dimensions .reproducibilityReadiness,
    dimensions .replicationSupport, dimensions .reviewCoverage, dimensions .reviewDiversity,
    dimensions .reviewFreshness, dimensions .forecastSupport].reduceOption

def computeCertificationReadiness : ℤ :=
  if positiveDimensions dimensions = [] then 0
  else
    let base := (average (positiveDimensions dimensions)).getD 0
    let penalty : ℚ := (((dimensions .challengePressure).getD 0 +
      (dimensions .contradictionPressure).getD 0 : ℤ) : ℚ) / 3
    clampBps (base - penalty)

def supportSignals : List ℤ :=
  [dimensions .artifactCompleteness, dimensions .artifactIntegrity, dimensions .methodConsistency,
    dimensions .statisticalSanity, dimensions .reproducibilityReadiness,
    dimensions .replicationSupport, dimensions .forecastSupport].reduceOption

/-- The average of the two pressures. -/
def pressure : ℤ :=
  (average [(dimensions .challengePressure).getD 0, (dimensions .contradictionPressure).getD 0]).getD
    0

def computeSupportEstimate : ℤ :=
  if supportSignals dimensions = [] then 0
  else
    let base := (average (supportSignals dimensions)).getD 0
    clampBps (base - (pressure dimensions : ℚ) / 2)

def invertBps (scoreBps : Option ℤ) : ℤ := clampBps (10000 - scoreBps.getD 0)

def computeUncertaintyEstimate (supportEstimateBps : ℤ) : Option ℤ :=
  let ambiguity := clampBps (10000 - |supportEstimateBps - 5000| * 2)
  average [invertBps (dimensions .reviewCoverage), invertBps (dimensions .reviewDiversity),
    invertBps (dimensions .reviewFreshness), pressure dimensions, ambiguity]

end

structure ClaimReviewEstimateView where
  supportEstimateBps : ℤ
  uncertaintyBps : Option ℤ
  deriving DecidableEq

/-! ### Certifications -/

inductive CertificationKey where
  | artifactComplete
  | methodChecked
  | reproReady
  | independentlyReplicated
  | contested
  | provisionallyCertified
  deriving DecidableEq, Repr

inductive CertificationStatus where
  | blocked
  | certified
  | clear
  | contested
  | pending
  | provisional
  deriving DecidableEq, Repr

structure ClaimReviewCertificationView where
  certificationKey : CertificationKey
  label : String
  reason : String
  scoreBps : Option ℤ
  status : CertificationStatus
  deriving DecidableEq

structure ClaimReviewSummary where
  distinctAgents : ℕ
  submissions : ℕ
  tasks : ℕ
  deriving DecidableEq

section

variable (dimensions : DimensionScores) (summary : ClaimReviewSummary)
  (replications : List ReviewedReplication)

/-- The score of a dimension has reached a threshold. -/
def reaches (dimension : ClaimReviewVectorDimension) (threshold : ℤ) : Bool :=
  threshold ≤ (dimensions dimension).getD 0

def artifactReady : Bool :=
  reaches dimensions .artifactCompleteness 8000 && reaches dimensions .artifactIntegrity 8000

def methodChecked : Bool :=
  reaches dimensions .methodConsistency 7000 && reaches dimensions .statisticalSanity 7000

def reproReady : Bool :=
  artifactReady dimensions && reaches dimensions .reproducibilityReadiness 7500

def independentlyReplicated : Bool :=
  replications ≠ [] && reaches dimensions .replicationSupport 7000

def contested : Bool :=
  reaches dimensions .challengePressure 6000 || reaches dimensions .contradictionPressure 6000

def provisional : Bool :=
  reaches dimensions .certificationReadiness 7500 && !contested dimensions &&
    reaches dimensions .reviewCoverage 6000 && reaches dimensions .reviewDiversity 4500

def fullyCertified : Bool :=
  provisional dimensions && reaches dimensions .certificationReadiness 8500 &&
    2 ≤ summary.distinctAgents

def averageOf (dimension dimension' : ClaimReviewVectorDimension) : Option ℤ :=
  average [(dimensions dimension).getD 0, (dimensions dimension').getD 0]

def artifactCertification : ClaimReviewCertificationView where
  certificationKey := .artifactComplete
  label := "Artifact complete"
  reason :=
    if artifactReady dimensions then
      "Artifacts are present with strong completeness and integrity support."
    else if 0 < summary.tasks then "Artifacts are still being evaluated by agent checks."
    else "No review evidence is available yet."
  scoreBps := averageOf dimensions .artifactCompleteness .artifactIntegrity
  status :=
    if artifactReady dimensions then .certified
    else if 0 < summary.tasks then .pending else .blocked

def methodCertification : ClaimReviewCertificationView where
  certificationKey := .methodChecked
  label := "Method checked"
  reason :=
    if methodChecked dimensions then
      "Method and statistics checks are above the current threshold."
    else if 0 < summary.submissions then
      "Method review evidence exists, but has not crossed the certification threshold."
    else "No method-focused review evidence exists yet."
  scoreBps := averageOf dimensions .methodConsistency .statisticalSanity
  status :=
    if methodChecked dimensions then .certified
    else if 0 < summary.submissions then .pending else .blocked

def reproCertification : ClaimReviewCertificationView where
  certificationKey := .reproReady
  label := "Repro ready"
  reason :=
    if reproReady dimensions then
      "The current artifact bundle looks reproducible enough for downstream reruns."
    else "Reproducibility readiness still needs stronger artifact and execution evidence."
  scoreBps := dimensions .reproducibilityReadiness
  status :=
    if reproReady dimensions then .certified
    else if 0 < summary.tasks then .pending else .blocked

def replicatedCertification : ClaimReviewCertificationView where
  certificationKey := .independentlyReplicated
  label := "Independently replicated"
  reason :=
    if independentlyReplicated dimensions replications then
      "Replication evidence currently supports the claim."
    else if replications ≠ [] then
      "Replication evidence exists but is still mixed or incomplete."
    else "No replication evidence has been recorded yet."
  scoreBps := dimensions .replicationSupport
  status :=
    if independentlyReplicated dimensions replications then .certified
    else if replications ≠ [] then .pending else .blocked

def contestedCertification : ClaimReviewCertificationView where
  certificationKey := .contested
  label := "Contested state"
  reason :=
    if contested dimensions then
      "Open challenge or contradiction pressure is materially elevated."
    else "No strong active contradiction signal is currently dominating the record."
  scoreBps := averageOf dimensions .challengePressure .contradictionPressure
  status := if contested dimensions then .contested else .clear

def provisionalCertification : ClaimReviewCertificationView where
  certificationKey := .provisionallyCertified
  label := "Provisional certification"
  reason :=
    if fullyCertified dimensions summary then
      "The claim clears the current review, diversity, and certification thresholds."
    else if provisional dimensions then
      "The claim clears provisional thresholds but still needs deeper corroboration."
    else if contested dimensions then
      "Certification is blocked by elevated contradiction or challenge pressure."
    else "The claim has not yet crossed the readiness threshold."
  scoreBps := dimensions .certificationReadiness
  status :=
    if contested dimensions then .contested
    else if fullyCertified dimensions summary then .certified
    else if provisional dimensions then .provisional else .pending

def buildCertifications : List ClaimReviewCertificationView :=
  [artifactCertification dimensions summary, methodCertification dimensions summary,
    reproCertification dimensions summary, replicatedCertification dimensions replications,
    contestedCertification dimensions, provisionalCertification dimensions summary]

end

/-! ### The state of a claim -/

structure ClaimReviewState where
  certifications : List ClaimReviewCertificationView
  estimates : ClaimReviewEstimateView
  summary : ClaimReviewSummary
  /-- The scores of `vector`. -/
  scoreBps : DimensionScores

section

variable (now : ℤ) (input : BuildClaimReviewStateInput)

/-- What is known of the agents when a claim is under review. -/
def agentCalibration (agentId : String) : Option AgentCalibrationHistoryEntry :=
  buildAgentCalibrationHistory input.claims (input.submissionHistory.getD input.submissions)
    input.currentClaimId agentId

def submittedScore (dimension : ClaimReviewVectorDimension) : Option ℤ :=
  aggregateSubmittedDimension (agentCalibration input) input.submissions dimension

/-- `openIssues`. -/
def openIssues : List ReviewIssueView := input.issues.filter (·.status = .open)

/-- What stands for a score that has not been submitted. -/
def fallbackScore : ClaimReviewVectorDimension → Option ℤ
  | .artifactCompleteness => some (fallbackArtifactCompleteness input.artifacts)
  | .artifactIntegrity => some (fallbackArtifactIntegrity input.artifacts)
  | .methodConsistency => some (fallbackMethodConsistency input.artifacts)
  | .statisticalSanity => some (fallbackStatisticalSanity input.artifacts input.replications)
  | .reproducibilityReadiness => some (fallbackReproducibilityReadiness input.artifacts)
  | .replicationSupport => fallbackReplicationSupport input.replications
  | .forecastSupport => fallbackForecastSupport input.forecasts
  | .challengePressure => some (fallbackChallengePressure input.challenges (openIssues input))
  | .contradictionPressure =>
    some (fallbackContradictionPressure input.submissions (openIssues input))
  | .reviewCoverage => some (computeReviewCoverage input.tasks input.submissions)
  | .reviewDiversity => some (computeReviewDiversity input.submissions)
  | .reviewFreshness => some (computeReviewFreshness now input.submissions)
  | .certificationReadiness => none

/-- The scores before the readiness is computed. -/
def dimensionScores : DimensionScores := fun dimension =>
  (submittedScore input dimension).or (fallbackScore now input dimension)

/-- The scores with it. -/
def vectorScores : DimensionScores := fun dimension =>
  match dimension with
  | .certificationReadiness =>
    some ((dimensionScores now input .certificationReadiness).getD
      (computeCertificationReadiness (dimensionScores now input)))
  | dimension => dimensionScores now input dimension

def reviewSummary : ClaimReviewSummary where
  distinctAgents := distinctAgents input.submissions
  submissions := input.submissions.length
  tasks := input.tasks.length

/-- **The state of a claim under review.** -/
def buildClaimReviewState : ClaimReviewState :=
  let supportEstimateBps := computeSupportEstimate (dimensionScores now input)
  { certifications := buildCertifications (vectorScores now input) (reviewSummary input)
      input.replications
    estimates := {
      supportEstimateBps
      uncertaintyBps :=
        computeUncertaintyEstimate (dimensionScores now input) supportEstimateBps }
    summary := reviewSummary input
    scoreBps := vectorScores now input }

end

end ScientificProtocol.Review
