import Mathlib.Algebra.Order.BigOperators.Group.List
import ScientificProtocol.Review.Aggregation

/-!
# Challenges and issues do not help

A claim that has more challenges or review issues, of whatever status and severity, and is otherwise
the same, is not better off. The two only enter the two pressures, and these only grow
(`ScientificProtocol.Review.presses_dimensionScores`). The estimate of support and the readiness
fall when the pressures grow, a claim stays contested, and no certification but the provisional one
looks at them (`ScientificProtocol.Review.adverse_evidence_never_helps`).
-/

namespace ScientificProtocol.Review

/-! ### Numbers -/

theorem clampBps_mono {a b : ℚ} (h : a ≤ b) : clampBps a ≤ clampBps b :=
  max_le_max le_rfl (min_le_min le_rfl (Rounding.round_mono h))

theorem average_pair (a b : ℤ) : average [a, b] = some (clampBps (((a + b : ℤ) : ℚ) / 2)) := by
  have hsum : [a, b].sum = a + b := by simp
  rw [average, if_neg (List.cons_ne_nil _ _), hsum]
  rfl

/-- More entries whose points are not negative have more points. -/
theorem sum_map_le_of_subperm {α : Type} {points : α → ℤ} (hpoints : ∀ a, 0 ≤ points a)
    {l l' : List α} (h : l.Subperm l') : (l.map points).sum ≤ (l'.map points).sum := by
  obtain ⟨l'', hperm, hsublist⟩ := h
  rw [← (hperm.map points).sum_eq]
  refine (hsublist.map points).sum_le_sum fun n hn => ?_
  obtain ⟨a, -, rfl⟩ := List.mem_map.mp hn
  exact hpoints a

/-! ### Pressures -/

theorem severityPoints_nonneg (severity : ReviewIssueSeverity) : 0 ≤ severityPoints severity := by
  cases severity <;> decide

theorem challengePoints_nonneg (challenge : ReviewedChallenge) : 0 ≤ challengePoints challenge := by
  rw [challengePoints]
  split <;> decide

/-- No issues are as good as none that weigh anything. -/
theorem severityPressure_eq (issues : List ReviewIssueView) :
    severityPressure issues =
      clampBps ((issues.map fun issue => severityPoints issue.severity).sum : ℤ) := by
  have hzero : clampBps ((0 : ℤ) : ℚ) = 0 := by
    rw [clampBps, Rounding.round_intCast]
    rfl
  cases issues with
  | nil => exact hzero.symm
  | cons issue issues => exact if_neg (List.cons_ne_nil _ _)

theorem severityPressure_mono {issues issues' : List ReviewIssueView} (h : issues.Subperm issues') :
    severityPressure issues ≤ severityPressure issues' := by
  rw [severityPressure_eq, severityPressure_eq]
  refine clampBps_mono (Int.cast_le.mpr ?_)
  exact sum_map_le_of_subperm (fun issue => severityPoints_nonneg issue.severity) h

theorem fallbackChallengePressure_mono {challenges challenges' : List ReviewedChallenge}
    {issues issues' : List ReviewIssueView} (hchallenges : challenges.Subperm challenges')
    (hissues : issues.Subperm issues') :
    fallbackChallengePressure challenges issues ≤ fallbackChallengePressure challenges' issues' := by
  have hpoints := sum_map_le_of_subperm challengePoints_nonneg hchallenges
  have hseverity := severityPressure_mono (hissues.filter (·.status = .open))
  exact clampBps_mono (add_le_add (Int.cast_le.mpr hpoints) (Int.cast_le.mpr hseverity))

theorem fallbackContradictionPressure_mono (submissions : List ReviewSubmissionView)
    {issues issues' : List ReviewIssueView} (h : issues.Subperm issues') :
    fallbackContradictionPressure submissions issues ≤
      fallbackContradictionPressure submissions issues' := by
  have hseverity := severityPressure_mono (h.filter fun issue =>
    issue.status = .open && (issue.category = "contradiction" || issue.category = "methodology"))
  exact clampBps_mono (add_le_add le_rfl (Int.cast_le.mpr hseverity))

/-! ### Scores under more pressure -/

/-- The dimensions that challenges and issues do not enter. -/
def untouched : ClaimReviewVectorDimension → Bool
  | .challengePressure | .contradictionPressure | .certificationReadiness => false
  | _ => true

/-- **More pressure**, and otherwise the same scores. -/
structure Presses (dimensions dimensions' : DimensionScores) : Prop where
  same : ∀ dimension, untouched dimension = true → dimensions' dimension = dimensions dimension
  challenge : (dimensions .challengePressure).getD 0 ≤ (dimensions' .challengePressure).getD 0
  contradiction :
    (dimensions .contradictionPressure).getD 0 ≤ (dimensions' .contradictionPressure).getD 0

section

variable {dimensions dimensions' : DimensionScores}

theorem Presses.pressure_le (h : Presses dimensions dimensions') :
    pressure dimensions ≤ pressure dimensions' := by
  rw [pressure, pressure, average_pair, average_pair, Option.getD_some, Option.getD_some]
  refine clampBps_mono (div_le_div_of_nonneg_right ?_ zero_le_two)
  exact Int.cast_le.mpr (add_le_add h.challenge h.contradiction)

/-- Scores that are not touched, in a list. -/
theorem Presses.map_eq (h : Presses dimensions dimensions')
    (ds : List ClaimReviewVectorDimension) (huntouched : ds.all untouched = true) :
    ds.map dimensions' = ds.map dimensions :=
  List.map_congr_left fun dimension hmem =>
    h.same dimension (List.all_eq_true.mp huntouched dimension hmem)

theorem Presses.supportSignals_eq (h : Presses dimensions dimensions') :
    supportSignals dimensions' = supportSignals dimensions := by
  exact congrArg List.reduceOption (h.map_eq [.artifactCompleteness, .artifactIntegrity,
    .methodConsistency, .statisticalSanity, .reproducibilityReadiness, .replicationSupport,
    .forecastSupport] (by decide))

theorem Presses.positiveDimensions_eq (h : Presses dimensions dimensions') :
    positiveDimensions dimensions' = positiveDimensions dimensions := by
  exact congrArg List.reduceOption (h.map_eq [.artifactCompleteness, .artifactIntegrity,
    .methodConsistency, .statisticalSanity, .reproducibilityReadiness, .replicationSupport,
    .reviewCoverage, .reviewDiversity, .reviewFreshness, .forecastSupport] (by decide))

/-- **Support falls** under more pressure. -/
theorem Presses.supportEstimate_le (h : Presses dimensions dimensions') :
    computeSupportEstimate dimensions' ≤ computeSupportEstimate dimensions := by
  rw [computeSupportEstimate, computeSupportEstimate, h.supportSignals_eq]
  split_ifs with hempty
  · exact le_rfl
  · have hpressure : (pressure dimensions : ℚ) ≤ pressure dimensions' :=
      Int.cast_le.mpr h.pressure_le
    refine clampBps_mono (sub_le_sub_left ?_ _)
    exact div_le_div_of_nonneg_right hpressure zero_le_two

/-- **Readiness falls** under more pressure. -/
theorem Presses.readiness_le (h : Presses dimensions dimensions') :
    computeCertificationReadiness dimensions' ≤ computeCertificationReadiness dimensions := by
  rw [computeCertificationReadiness, computeCertificationReadiness, h.positiveDimensions_eq]
  split_ifs with hempty
  · exact le_rfl
  · refine clampBps_mono (sub_le_sub_left ?_ _)
    refine div_le_div_of_nonneg_right ?_ (by norm_num)
    exact Int.cast_le.mpr (add_le_add h.challenge h.contradiction)

/-- A claim stays contested. -/
theorem Presses.contested (h : Presses dimensions dimensions') (hcontested : contested dimensions) :
    contested dimensions' := by
  simp only [Review.contested, reaches, Bool.or_eq_true, decide_eq_true_eq] at hcontested ⊢
  rcases hcontested with hreached | hreached
  · exact .inl (hreached.trans h.challenge)
  · exact .inr (hreached.trans h.contradiction)

/-- Other thresholds are reached as before. -/
theorem Presses.reaches_eq (h : Presses dimensions dimensions')
    (dimension : ClaimReviewVectorDimension) (huntouched : untouched dimension = true)
    (threshold : ℤ) :
    reaches dimensions' dimension threshold = reaches dimensions dimension threshold := by
  rw [reaches, reaches, h.same dimension huntouched]

theorem Presses.artifactReady_eq (h : Presses dimensions dimensions') :
    artifactReady dimensions' = artifactReady dimensions := by
  rw [artifactReady, artifactReady, h.reaches_eq .artifactCompleteness rfl,
    h.reaches_eq .artifactIntegrity rfl]

end

/-! ### Certifications -/

/-- From the worst to the best. -/
def CertificationStatus.rank : CertificationStatus → ℕ
  | .certified => 3
  | .provisional => 2
  | .pending => 1
  | .contested | .clear | .blocked => 0

/-- The status of each certification. -/
def certificationStatus (dimensions : DimensionScores) (summary : ClaimReviewSummary)
    (replications : List ReviewedReplication) : CertificationKey → CertificationStatus
  | .artifactComplete => (artifactCertification dimensions summary).status
  | .methodChecked => (methodCertification dimensions summary).status
  | .reproReady => (reproCertification dimensions summary).status
  | .independentlyReplicated => (replicatedCertification dimensions replications).status
  | .contested => (contestedCertification dimensions).status
  | .provisionallyCertified => (provisionalCertification dimensions summary).status

section

variable {dimensions dimensions' : DimensionScores}

/-- **No other certification looks at the pressures.** -/
theorem Presses.certificationStatus_eq (h : Presses dimensions dimensions')
    (summary : ClaimReviewSummary) (replications : List ReviewedReplication)
    {key : CertificationKey} (hcontested : key ≠ .contested)
    (hprovisional : key ≠ .provisionallyCertified) :
    certificationStatus dimensions' summary replications key =
      certificationStatus dimensions summary replications key := by
  have hready := h.artifactReady_eq
  cases key with
  | artifactComplete =>
    simp only [certificationStatus, artifactCertification, hready]
  | methodChecked =>
    have hchecked : methodChecked dimensions' = methodChecked dimensions := by
      rw [methodChecked, methodChecked, h.reaches_eq .methodConsistency rfl,
        h.reaches_eq .statisticalSanity rfl]
    simp only [certificationStatus, methodCertification, hchecked]
  | reproReady =>
    have hrepro : reproReady dimensions' = reproReady dimensions := by
      rw [reproReady, reproReady, hready, h.reaches_eq .reproducibilityReadiness rfl]
    simp only [certificationStatus, reproCertification, hrepro]
  | independentlyReplicated =>
    have hreplicated : independentlyReplicated dimensions' replications =
        independentlyReplicated dimensions replications := by
      rw [independentlyReplicated, independentlyReplicated, h.reaches_eq .replicationSupport rfl]
    simp only [certificationStatus, replicatedCertification, hreplicated]
  | contested => exact absurd rfl hcontested
  | provisionallyCertified => exact absurd rfl hprovisional

/-- **The provisional certification does not improve** with more pressure and less readiness. -/
theorem Presses.rank_le (h : Presses dimensions dimensions') (summary : ClaimReviewSummary)
    (hreadiness : (dimensions' .certificationReadiness).getD 0 ≤
      (dimensions .certificationReadiness).getD 0) :
    (provisionalCertification dimensions' summary).status.rank ≤
      (provisionalCertification dimensions summary).status.rank := by
  have hreaches : ∀ threshold, reaches dimensions' .certificationReadiness threshold = true →
      reaches dimensions .certificationReadiness threshold = true := by
    intro threshold hreached
    exact decide_eq_true ((of_decide_eq_true hreached).trans hreadiness)
  have hprovisional : provisional dimensions' = true → provisional dimensions = true := by
    intro hprovisional
    simp only [provisional, Bool.and_eq_true, Bool.not_eq_true'] at hprovisional ⊢
    obtain ⟨⟨⟨hready, hcontested⟩, hcoverage⟩, hdiversity⟩ := hprovisional
    rw [h.reaches_eq .reviewCoverage rfl] at hcoverage
    rw [h.reaches_eq .reviewDiversity rfl] at hdiversity
    refine ⟨⟨⟨hreaches _ hready, ?_⟩, hcoverage⟩, hdiversity⟩
    by_contra hbefore
    rw [Bool.not_eq_false] at hbefore
    exact Bool.false_ne_true (hcontested.symm.trans (h.contested hbefore))
  have hfully : fullyCertified dimensions' summary = true →
      fullyCertified dimensions summary = true := by
    intro hfully
    simp only [fullyCertified, Bool.and_eq_true] at hfully ⊢
    exact ⟨⟨hprovisional hfully.1.1, hreaches _ hfully.1.2⟩, hfully.2⟩
  simp only [provisionalCertification]
  by_cases hcontested' : Review.contested dimensions' = true
  · rw [if_pos hcontested']
    exact Nat.zero_le _
  · have hcontested : ¬ Review.contested dimensions = true := mt h.contested hcontested'
    rw [if_neg hcontested', if_neg hcontested]
    by_cases hfull : fullyCertified dimensions summary = true
    · rw [if_pos hfull]
      split_ifs <;> decide
    · rw [if_neg hfull, if_neg (mt hfully hfull)]
      by_cases hprov : provisional dimensions = true
      · rw [if_pos hprov]
        split_ifs <;> decide
      · rw [if_neg hprov, if_neg (mt hprovisional hprov)]

end

/-! ### A claim with more challenges and issues -/

/-- The status of a certification. -/
def ClaimReviewState.statusOf (state : ClaimReviewState) (key : CertificationKey) :
    Option CertificationStatus :=
  (state.certifications.find? (·.certificationKey = key)).map (·.status)

/-- **A claim is not better off**: by its estimates, and by its certifications. -/
structure NoBetter (before after : ClaimReviewState) : Prop where
  support : after.estimates.supportEstimateBps ≤ before.estimates.supportEstimateBps
  readiness : ∃ readiness readiness', before.scoreBps .certificationReadiness = some readiness ∧
    after.scoreBps .certificationReadiness = some readiness' ∧ readiness' ≤ readiness
  contested : before.statusOf .contested = some .contested →
    after.statusOf .contested = some .contested
  provisional : ∃ status status', before.statusOf .provisionallyCertified = some status ∧
    after.statusOf .provisionallyCertified = some status' ∧ status'.rank ≤ status.rank
  other : ∀ key, key ≠ .contested → key ≠ .provisionallyCertified →
    after.statusOf key = before.statusOf key

theorem statusOf_eq (now : ℤ) (input : BuildClaimReviewStateInput) (key : CertificationKey) :
    (buildClaimReviewState now input).statusOf key = some (certificationStatus
      (vectorScores now input) (reviewSummary input) input.replications key) := by
  cases key <;> rfl

section

variable (now : ℤ) (input : BuildClaimReviewStateInput) {challenges : List ReviewedChallenge}
  {issues : List ReviewIssueView}

/-- **Challenges and issues only add to the pressures.** -/
theorem presses_dimensionScores (hchallenges : input.challenges.Subperm challenges)
    (hissues : input.issues.Subperm issues) :
    Presses (dimensionScores now input) (dimensionScores now { input with challenges, issues }) := by
  have hopen : (openIssues input).Subperm (openIssues { input with challenges, issues }) :=
    hissues.filter _
  refine ⟨fun dimension huntouched => ?_, ?_, ?_⟩
  · cases dimension <;> first | rfl | cases huntouched
  · have hsubmitted : submittedScore { input with challenges, issues } .challengePressure =
        submittedScore input .challengePressure := rfl
    rw [dimensionScores, dimensionScores, hsubmitted]
    cases submittedScore input .challengePressure with
    | some score => exact le_refl score
    | none => exact fallbackChallengePressure_mono hchallenges hopen
  · have hsubmitted : submittedScore { input with challenges, issues } .contradictionPressure =
        submittedScore input .contradictionPressure := rfl
    rw [dimensionScores, dimensionScores, hsubmitted]
    cases submittedScore input .contradictionPressure with
    | some score => exact le_refl score
    | none => exact fallbackContradictionPressure_mono input.submissions hopen

/-- The readiness is computed from the scores unless it has been submitted. -/
theorem vectorScores_readiness : vectorScores now input .certificationReadiness =
    some ((submittedScore input .certificationReadiness).getD
      (computeCertificationReadiness (dimensionScores now input))) := by
  have hscore : dimensionScores now input .certificationReadiness =
      submittedScore input .certificationReadiness := Option.or_none
  rw [vectorScores, hscore]

theorem presses_vectorScores (hchallenges : input.challenges.Subperm challenges)
    (hissues : input.issues.Subperm issues) :
    Presses (vectorScores now input) (vectorScores now { input with challenges, issues }) := by
  have h := presses_dimensionScores now input hchallenges hissues
  refine ⟨fun dimension huntouched => ?_, h.challenge, h.contradiction⟩
  have hsame := h.same dimension huntouched
  cases dimension <;> first | exact hsame | cases huntouched

/-- **Adverse evidence never helps.** -/
theorem adverse_evidence_never_helps (hchallenges : input.challenges.Subperm challenges)
    (hissues : input.issues.Subperm issues) :
    NoBetter (buildClaimReviewState now input)
      (buildClaimReviewState now { input with challenges, issues }) := by
  have hdimensions := presses_dimensionScores now input hchallenges hissues
  have hvector := presses_vectorScores now input hchallenges hissues
  have hreadiness : (submittedScore { input with challenges, issues } .certificationReadiness).getD
        (computeCertificationReadiness (dimensionScores now { input with challenges, issues })) ≤
      (submittedScore input .certificationReadiness).getD
        (computeCertificationReadiness (dimensionScores now input)) := by
    have hsubmitted : submittedScore { input with challenges, issues } .certificationReadiness =
        submittedScore input .certificationReadiness := rfl
    rw [hsubmitted]
    cases submittedScore input .certificationReadiness with
    | some score => simp only [Option.getD_some, le_refl]
    | none => exact hdimensions.readiness_le
  constructor
  · exact hdimensions.supportEstimate_le
  · exact ⟨_, _, vectorScores_readiness now input, vectorScores_readiness now _, hreadiness⟩
  · intro hcontested
    rw [statusOf_eq, Option.some.injEq] at hcontested ⊢
    by_cases h : contested (vectorScores now input) = true
    · exact if_pos (hvector.contested h)
    · exact absurd ((if_neg h).symm.trans hcontested) (by decide)
  · refine ⟨_, _, statusOf_eq now input _, statusOf_eq now _ _,
      hvector.rank_le (reviewSummary input) ?_⟩
    rw [vectorScores_readiness, vectorScores_readiness]
    exact hreadiness
  · intro key hcontested hprovisional
    rw [statusOf_eq, statusOf_eq]
    exact congrArg some
      (hvector.certificationStatus_eq (reviewSummary input) input.replications hcontested
        hprovisional)

end

/-- A claim with an artifact, and nothing else. -/
def freshInput : BuildClaimReviewStateInput where
  artifacts := [⟨5, "0x00", "ipfs://paper"⟩]
  challenges := []
  claims := []
  currentClaimId := some "1"
  forecasts := []
  issues := [⟨"methodology", .dismissed, .high⟩]
  replications := []
  submissionHistory := none
  submissions := []
  tasks := []

/-- A challenge and an issue more. -/
theorem freshInput_no_better : NoBetter (buildClaimReviewState 0 freshInput)
    (buildClaimReviewState 0 { freshInput with
      challenges := [⟨3⟩]
      issues := [⟨"contradiction", .open, .critical⟩, ⟨"methodology", .dismissed, .high⟩] }) :=
  adverse_evidence_never_helps 0 freshInput List.nil_subperm
    (List.sublist_cons_self _ _).subperm

end ScientificProtocol.Review
