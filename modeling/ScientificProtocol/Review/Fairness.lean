import ScientificProtocol.Review.AdverseEvidence

/-!
# Submitted scores are fair

What reviewers have submitted for a dimension is averaged, with weights that are themselves averages
of how near a reviewer has been to outcomes before. Neither depends on the order of its list, the
score lies between what has been submitted and grows with it, and a claim has no influence on the
weights it is reviewed with (`ScientificProtocol.Review.submitted_scores_fair`).
-/

namespace ScientificProtocol.Review

/-! ### Rounding within bounds -/

theorem le_clampBps {n : ℤ} {value : ℚ} (hbound : n ≤ 10000) (h : n ≤ value) :
    n ≤ clampBps value :=
  le_max_of_le_right (le_min hbound (Rounding.le_round h))

theorem clampBps_le {n : ℤ} {value : ℚ} (hbound : 0 ≤ n) (h : value ≤ n) : clampBps value ≤ n :=
  max_le hbound ((min_le_right _ _).trans (Rounding.round_le h))

theorem clampBps_nonneg (value : ℚ) : 0 ≤ clampBps value := le_max_left _ _

theorem clampBps_le_max (value : ℚ) : clampBps value ≤ 10000 :=
  max_le (by decide) (min_le_left _ _)

/-! ### Weights -/

section

variable {claims : List ReviewedClaim} {excludeClaimId : Option String}

theorem average_perm {values values' : List ℤ} (h : values.Perm values') :
    average values = average values' := by
  have hempty : values = [] ↔ values' = [] := by
    rw [← List.length_eq_zero_iff, h.length_eq, List.length_eq_zero_iff]
  simp only [average, hempty, h.sum_eq, h.length_eq]

theorem buildAgentCalibrationHistory_perm {history history' : List ReviewSubmissionView}
    (h : history.Perm history') (agentId : String) :
    buildAgentCalibrationHistory claims history excludeClaimId agentId =
      buildAgentCalibrationHistory claims history' excludeClaimId agentId := by
  have hperm := h.filterMap (contribution claims excludeClaimId agentId)
  have hempty : history.filterMap (contribution claims excludeClaimId agentId) = [] ↔
      history'.filterMap (contribution claims excludeClaimId agentId) = [] := by
    rw [← List.length_eq_zero_iff, hperm.length_eq, List.length_eq_zero_iff]
  simp only [buildAgentCalibrationHistory, hempty, average_perm hperm, hperm.length_eq]

/-- **A reviewer keeps four tenths of the weight.** -/
theorem calibrationWeightBps_mem {values : List ℤ} :
    4000 ≤ calibrationWeightBps (average values) ∧
      calibrationWeightBps (average values) ≤ 10000 := by
  refine ⟨?_, ?_⟩
  · rw [average]
    split_ifs
    · decide
    · refine le_clampBps (by decide) ?_
      have hnonneg := clampBps_nonneg ((values.sum : ℚ) / values.length)
      generalize clampBps ((values.sum : ℚ) / values.length) = mean at hnonneg
      have hcast : (0 : ℚ) ≤ mean := by exact_mod_cast hnonneg
      push_cast
      linarith
  · rw [average]
    split_ifs
    · decide
    · exact clampBps_le_max _

theorem weightBps_mem {history : List ReviewSubmissionView} {agentId : String}
    {entry : AgentCalibrationHistoryEntry}
    (h : buildAgentCalibrationHistory claims history excludeClaimId agentId = some entry) :
    4000 ≤ entry.weightBps ∧ entry.weightBps ≤ 10000 := by
  obtain ⟨-, hentry⟩ := Option.ite_none_left_eq_some.mp h
  obtain rfl := Option.some.inj hentry
  exact calibrationWeightBps_mem

/-- What a submission contributes does not depend on the scores in it. -/
theorem contribution_congr {agentId : String} {submission submission' : ReviewSubmissionView}
    (hagent : submission'.reviewerAgentId = submission.reviewerAgentId)
    (hclaim : submission'.claimId = submission.claimId)
    (hverdict : submission'.verdict = submission.verdict) :
    contribution claims excludeClaimId agentId submission' =
      contribution claims excludeClaimId agentId submission := by
  simp only [contribution, submissionSupportSignalBps, hagent, hclaim, hverdict]

end

/-! ### A claim has no influence on its weights -/

/-- The outcome of a claim that is left out is not known. -/
theorem outcomeByClaimId_self (claims : List ReviewedClaim) (claimId : String) :
    outcomeByClaimId claims (some claimId) claimId = none := by
  cases h : outcomeByClaimId claims (some claimId) claimId with
  | none => rfl
  | some outcome =>
    obtain ⟨claim, hclaim, hentry⟩ := List.mem_filterMap.mp (Js.mem_of_mapGet h)
    obtain ⟨signal, -, hpair⟩ := Option.map_eq_some_iff.mp hentry
    obtain ⟨-, hne⟩ := List.mem_filter.mp hclaim
    have hsame : claim.claimId = claimId := (Prod.ext_iff.mp hpair).1
    rw [hsame] at hne
    exact absurd hne (by simp)

/-- The submissions of a history about other claims. -/
def aboutOthers (claimId : String) (history : List ReviewSubmissionView) :
    List ReviewSubmissionView :=
  history.filter fun submission => submission.claimId ≠ some claimId

/-- **Submissions about a claim do not count** when it is left out. -/
theorem filterMap_aboutOthers (claims : List ReviewedClaim) (claimId agentId : String)
    (history : List ReviewSubmissionView) :
    history.filterMap (contribution claims (some claimId) agentId) =
      (aboutOthers claimId history).filterMap (contribution claims (some claimId) agentId) := by
  induction history with
  | nil => rfl
  | cons submission history ih =>
    by_cases h : submission.claimId = some claimId
    · have hpresent : (present submission.claimId).bind (outcomeByClaimId claims (some claimId)) =
          none := by
        rw [h, present]
        by_cases hempty : claimId = ""
        · rw [Option.filter_some, if_neg (by simpa using hempty), Option.bind_none]
        · rw [Option.filter_some, if_pos (by simpa using hempty), Option.bind_some,
            outcomeByClaimId_self]
      have hnone : contribution claims (some claimId) agentId submission = none := by
        rw [contribution, hpresent]
        split_ifs <;> rfl
      rw [List.filterMap_cons_none hnone, ih, aboutOthers, aboutOthers,
        List.filter_cons_of_neg (by simpa using h)]
    · rw [aboutOthers, List.filter_cons_of_pos (by simpa using h), List.filterMap_cons,
        List.filterMap_cons, ih]
      rfl

/-! ### Scores -/

section

variable {agentCalibration : String → Option AgentCalibrationHistoryEntry}

theorem effectiveWeight_pos (submission : ReviewSubmissionView) :
    (0 : ℚ) < effectiveWeight agentCalibration submission := by
  have h : 1000 ≤ effectiveWeight agentCalibration submission := le_max_left _ _
  exact Int.cast_pos.mpr (by omega)

theorem aggregateSubmittedDimension_perm {submissions submissions' : List ReviewSubmissionView}
    (h : submissions.Perm submissions') (dimension : ClaimReviewVectorDimension) :
    aggregateSubmittedDimension agentCalibration submissions dimension =
      aggregateSubmittedDimension agentCalibration submissions' dimension := by
  have hperm : (evidenceOf submissions dimension).Perm (evidenceOf submissions' dimension) :=
    h.filter _
  have hempty : evidenceOf submissions dimension = [] ↔ evidenceOf submissions' dimension = [] := by
    rw [← List.length_eq_zero_iff, hperm.length_eq, List.length_eq_zero_iff]
  simp only [aggregateSubmittedDimension, hempty, Rounding.mean_perm hperm]

theorem aggregateSubmittedDimension_of_ne_nil {submissions : List ReviewSubmissionView}
    {dimension : ClaimReviewVectorDimension} (h : evidenceOf submissions dimension ≠ []) :
    aggregateSubmittedDimension agentCalibration submissions dimension =
      some (clampBps (Rounding.mean (dimensionScore dimension)
        (fun submission => (effectiveWeight agentCalibration submission : ℚ))
        (evidenceOf submissions dimension))) :=
  if_neg h

/-- Scores and confidence are whole basis points. -/
structure WithinBounds (submission : ReviewSubmissionView) : Prop where
  dimensions : ∀ dimension score, submission.dimensions dimension = some score →
    ∃ n : ℤ, score = n ∧ 0 ≤ n ∧ n ≤ 10000
  confidenceBps : ∃ n : ℤ, submission.confidenceBps = n ∧ 0 ≤ n ∧ n ≤ 10000

/-- The score of a submission that says something is a whole number. -/
theorem exists_dimensionScore {submissions : List ReviewSubmissionView}
    (hbounds : ∀ submission ∈ submissions, WithinBounds submission)
    {dimension : ClaimReviewVectorDimension} {submission : ReviewSubmissionView}
    (hmem : submission ∈ evidenceOf submissions dimension) :
    ∃ n : ℤ, dimensionScore dimension submission = n ∧ 0 ≤ n ∧ n ≤ 10000 := by
  obtain ⟨hsubmission, hsome⟩ := List.mem_filter.mp hmem
  obtain ⟨score, hscore⟩ := Option.isSome_iff_exists.mp hsome
  obtain ⟨n, rfl, hn⟩ := (hbounds submission hsubmission).dimensions dimension score hscore
  exact ⟨n, by rw [dimensionScore, hscore, Option.getD_some], hn⟩

/-- **The score lies between what has been submitted.** -/
theorem exists_le_and_ge {submissions : List ReviewSubmissionView}
    (hbounds : ∀ submission ∈ submissions, WithinBounds submission)
    {dimension : ClaimReviewVectorDimension} {score : ℤ}
    (h : aggregateSubmittedDimension agentCalibration submissions dimension = some score) :
    (∃ low ∈ evidenceOf submissions dimension, dimensionScore dimension low ≤ score) ∧
      ∃ high ∈ evidenceOf submissions dimension, score ≤ dimensionScore dimension high := by
  obtain ⟨hne, hscore⟩ := Option.ite_none_left_eq_some.mp h
  obtain rfl := Option.some.inj hscore
  have hpos : ∀ submission ∈ evidenceOf submissions dimension,
      (0 : ℚ) < effectiveWeight agentCalibration submission :=
    fun submission _ => effectiveWeight_pos submission
  obtain ⟨first, hfirst⟩ := List.exists_mem_of_ne_nil _ hne
  obtain ⟨n, -, hn, hn'⟩ := exists_dimensionScore hbounds hfirst
  generalize hmean : Rounding.mean (dimensionScore dimension)
    (fun submission => (effectiveWeight agentCalibration submission : ℚ))
    (evidenceOf submissions dimension) = mean
  constructor
  · by_contra hnone
    push Not at hnone
    -- All scores are higher by one at least.
    have hall : ∀ submission ∈ evidenceOf submissions dimension,
        ((clampBps mean + 1 : ℤ) : ℚ) ≤ dimensionScore dimension submission := by
      intro submission hmem
      obtain ⟨m, hm, -⟩ := exists_dimensionScore hbounds hmem
      have hlt := hnone submission hmem
      rw [hm, Int.cast_lt] at hlt
      rw [hm, Int.cast_le]
      exact hlt
    have hle := Rounding.le_mean hne hpos hall
    rw [hmean] at hle
    obtain ⟨m, hm, -, hm'⟩ := exists_dimensionScore hbounds hfirst
    have hbound := hall first hfirst
    rw [hm, Int.cast_le] at hbound
    exact absurd (le_clampBps (hbound.trans hm') hle) (by omega)
  · by_contra hnone
    push Not at hnone
    -- All scores are lower by one at least.
    have hall : ∀ submission ∈ evidenceOf submissions dimension,
        dimensionScore dimension submission ≤ ((clampBps mean - 1 : ℤ) : ℚ) := by
      intro submission hmem
      obtain ⟨m, hm, -⟩ := exists_dimensionScore hbounds hmem
      have hlt := hnone submission hmem
      rw [hm, Int.cast_lt] at hlt
      rw [hm, Int.cast_le]
      omega
    have hle := Rounding.mean_le hne hpos hall
    rw [hmean] at hle
    obtain ⟨m, hm, hm', -⟩ := exists_dimensionScore hbounds hfirst
    have hbound := hall first hfirst
    rw [hm, Int.cast_le] at hbound
    exact absurd (clampBps_le (hm'.trans hbound) hle) (by omega)

end

/-! ### One score is raised -/

/-- A submission with another score. -/
def ReviewSubmissionView.rescored (submission : ReviewSubmissionView)
    (dimension : ClaimReviewVectorDimension) (score : ℚ) : ReviewSubmissionView :=
  { submission with dimensions := Function.update submission.dimensions dimension (some score) }

section

variable {agentCalibration : String → Option AgentCalibrationHistoryEntry}
  {before after : List ReviewSubmissionView} {submission : ReviewSubmissionView}
  {dimension : ClaimReviewVectorDimension} {score score' : ℚ}

/-- **The score grows with each that has been submitted.** -/
theorem aggregateSubmittedDimension_mono (h : submission.dimensions dimension = some score)
    (hle : score ≤ score') :
    ∃ result result', aggregateSubmittedDimension agentCalibration (before ++ submission :: after)
        dimension = some result ∧
      aggregateSubmittedDimension agentCalibration
        (before ++ submission.rescored dimension score' :: after) dimension = some result' ∧
      result ≤ result' := by
  have hrescored : (submission.rescored dimension score').dimensions dimension = some score' :=
    Function.update_self ..
  have hevidence : ∀ s : ReviewSubmissionView, (s.dimensions dimension).isSome = true →
      evidenceOf (before ++ s :: after) dimension =
        evidenceOf before dimension ++ s :: evidenceOf after dimension := by
    intro s hs
    rw [evidenceOf, List.filter_append, List.filter_cons, if_pos hs]
    rfl
  have hbefore := hevidence submission (by rw [h]; rfl)
  have hafter := hevidence (submission.rescored dimension score') (by rw [hrescored]; rfl)
  have hne : ∀ s : ReviewSubmissionView,
      evidenceOf before dimension ++ s :: evidenceOf after dimension ≠ [] := by
    intro s
    simp
  -- The weights are the same, so only one summand of the numerator differs.
  have hweight : effectiveWeight agentCalibration (submission.rescored dimension score') =
      effectiveWeight agentCalibration submission := rfl
  have hscore : dimensionScore dimension submission ≤
      dimensionScore dimension (submission.rescored dimension score') := by
    rw [dimensionScore, dimensionScore, h, hrescored, Option.getD_some, Option.getD_some]
    exact hle
  refine ⟨_, _, aggregateSubmittedDimension_of_ne_nil (by rw [hbefore]; exact hne _),
    aggregateSubmittedDimension_of_ne_nil (by rw [hafter]; exact hne _), ?_⟩
  · rw [hbefore, hafter]
    refine clampBps_mono ?_
    simp only [Rounding.mean, List.map_append, List.map_cons, List.sum_append, List.sum_cons,
      hweight]
    have hpos : (0 : ℚ) < effectiveWeight agentCalibration submission :=
      effectiveWeight_pos submission
    refine div_le_div_of_nonneg_right ?_ ?_
    · have := mul_le_mul_of_nonneg_right hscore hpos.le
      linarith
    · have hnonneg : ∀ l : List ReviewSubmissionView,
          0 ≤ (l.map fun s => (effectiveWeight agentCalibration s : ℚ)).sum := by
        intro l
        refine List.sum_nonneg fun w hw => ?_
        obtain ⟨s, -, rfl⟩ := List.mem_map.mp hw
        exact (effectiveWeight_pos s).le
      have := hnonneg (evidenceOf before dimension)
      have := hnonneg (evidenceOf after dimension)
      linarith

/-- The history does not notice. -/
theorem filterMap_rescored (claims : List ReviewedClaim) (excludeClaimId : Option String)
    (agentId : String) :
    (before ++ submission.rescored dimension score' :: after).filterMap
        (contribution claims excludeClaimId agentId) =
      (before ++ submission :: after).filterMap (contribution claims excludeClaimId agentId) := by
  rw [List.filterMap_append, List.filterMap_append, List.filterMap_cons, List.filterMap_cons,
    contribution_congr (show (submission.rescored dimension score').reviewerAgentId =
      submission.reviewerAgentId from rfl) rfl rfl]

end

/-! ### All together -/

/-- The submissions that are looked at for the weights. -/
def BuildClaimReviewStateInput.history (input : BuildClaimReviewStateInput) :
    List ReviewSubmissionView :=
  input.submissionHistory.getD input.submissions

/-- The order of two histories, if they are given. -/
def SameHistory : Option (List ReviewSubmissionView) → Option (List ReviewSubmissionView) → Prop
  | none, none => True
  | some history, some history' => history.Perm history'
  | _, _ => False

/-- **What is fair about the scores of a claim.** -/
structure Fair (input : BuildClaimReviewStateInput) : Prop where
  /-- The order of the submissions does not matter, nor that of the history. -/
  perm : ∀ {submissions submissionHistory}, input.submissions.Perm submissions →
    SameHistory input.submissionHistory submissionHistory → ∀ dimension,
      submittedScore { input with submissions, submissionHistory } dimension =
        submittedScore input dimension
  between : ∀ {dimension score}, submittedScore input dimension = some score →
    (∃ low ∈ evidenceOf input.submissions dimension, dimensionScore dimension low ≤ score) ∧
      ∃ high ∈ evidenceOf input.submissions dimension, score ≤ dimensionScore dimension high
  mono : ∀ {before after : List ReviewSubmissionView} {submission dimension score score'},
    input.submissions = before ++ submission :: after →
      submission.dimensions dimension = some score → score ≤ score' →
        ∃ result result', submittedScore input dimension = some result ∧
          submittedScore { input with
            submissions := before ++ submission.rescored dimension score' :: after } dimension =
              some result' ∧ result ≤ result'
  weights : ∀ submission, 4000 ≤ calibrationWeight (agentCalibration input) submission ∧
    calibrationWeight (agentCalibration input) submission ≤ 10000
  /-- Neither the status of the claim nor what the history says about it has an influence on the
  weights. -/
  noninterference : ∀ {claimId} {input' : BuildClaimReviewStateInput},
    input.currentClaimId = some claimId → input'.currentClaimId = some claimId →
      input'.claims.filter (·.claimId ≠ claimId) = input.claims.filter (·.claimId ≠ claimId) →
        aboutOthers claimId input'.history = aboutOthers claimId input.history →
          agentCalibration input' = agentCalibration input

theorem outcomeByClaimId_congr {claims claims' : List ReviewedClaim} {claimId : String}
    (h : claims'.filter (·.claimId ≠ claimId) = claims.filter (·.claimId ≠ claimId)) :
    outcomeByClaimId claims' (some claimId) = outcomeByClaimId claims (some claimId) := by
  have hfilter : ∀ claims : List ReviewedClaim,
      claims.filter (fun claim => some claim.claimId ≠ some claimId) =
        claims.filter (·.claimId ≠ claimId) := by
    intro claims
    refine List.filter_congr fun claim _ => ?_
    simp
  funext otherId
  rw [outcomeByClaimId, outcomeByClaimId, hfilter, hfilter, h]

/-- **Submitted scores are fair**, if they are whole basis points. -/
theorem submitted_scores_fair (input : BuildClaimReviewStateInput)
    (hbounds : ∀ submission ∈ input.submissions, WithinBounds submission) : Fair input where
  perm := by
    intro submissions submissionHistory hperm hhistory dimension
    have hcalibration :
        agentCalibration { input with submissions, submissionHistory } = agentCalibration input := by
      funext agentId
      refine buildAgentCalibrationHistory_perm ?_ agentId
      change (submissionHistory.getD submissions).Perm
        (input.submissionHistory.getD input.submissions)
      generalize input.submissionHistory = history at hhistory
      cases history with
      | none =>
        cases submissionHistory with
        | none => exact hperm.symm
        | some history' => exact hhistory.elim
      | some history =>
        cases submissionHistory with
        | none => exact hhistory.elim
        | some history' => exact List.Perm.symm hhistory
    rw [submittedScore, submittedScore, hcalibration]
    exact aggregateSubmittedDimension_perm hperm.symm dimension
  between := exists_le_and_ge hbounds
  mono := by
    intro before after submission dimension score score' hsubmissions hscore hle
    have hcalibration : agentCalibration { input with
        submissions := before ++ submission.rescored dimension score' :: after } =
          agentCalibration input := by
      funext agentId
      simp only [agentCalibration]
      cases input.submissionHistory with
      | some history => rfl
      | none =>
        rw [Option.getD_none, Option.getD_none, hsubmissions, buildAgentCalibrationHistory,
          filterMap_rescored]
        rfl
    rw [submittedScore, submittedScore, hcalibration, hsubmissions]
    exact aggregateSubmittedDimension_mono hscore hle
  weights := by
    intro submission
    rw [calibrationWeight]
    cases h : (present submission.reviewerAgentId).bind (agentCalibration input) with
    | none => decide
    | some entry =>
      obtain ⟨agentId, -, hentry⟩ := Option.bind_eq_some_iff.mp h
      exact weightBps_mem hentry
  noninterference := by
    intro claimId input' hcurrent hcurrent' hclaims hhistory
    funext agentId
    have houtcome := outcomeByClaimId_congr hclaims
    have hcontribution : contribution input'.claims (some claimId) agentId =
        contribution input.claims (some claimId) agentId := by
      funext submission
      simp only [contribution, houtcome]
    have hcontributions :
        input'.history.filterMap (contribution input'.claims (some claimId) agentId) =
          input.history.filterMap (contribution input.claims (some claimId) agentId) := by
      rw [filterMap_aboutOthers, filterMap_aboutOthers input.claims, hhistory, hcontribution]
    simp only [agentCalibration, buildAgentCalibrationHistory, hcurrent, hcurrent']
    exact congrArg (fun contributions : List ℤ => if contributions = [] then none
      else some (AgentCalibrationHistoryEntry.mk (average contributions) contributions.length
        (calibrationWeightBps (average contributions)))) hcontributions

/-- A review with one score for all dimensions. -/
def reviewBy (reviewerAgentId claimId : String) (score confidenceBps : ℚ)
    (verdict : ReviewSubmissionVerdict) : ReviewSubmissionView where
  claimId := some claimId
  confidenceBps := confidenceBps
  createdAt := none
  dimensions := fun _ => some score
  reviewType := .contradictionScan
  reviewerActor := "0x01"
  reviewerAgentId := some reviewerAgentId
  verdict := verdict

/-- Two reviews of claim 2. Of claim 1, which has been supported, agent 7 has said so and agent 8
has said the contrary. -/
def calibratedReview : BuildClaimReviewStateInput where
  artifacts := []
  challenges := []
  claims := [⟨"1", 3⟩, ⟨"2", 4⟩]
  currentClaimId := some "2"
  forecasts := []
  issues := []
  replications := []
  submissionHistory := some [reviewBy "7" "1" 8000 9000 .pass, reviewBy "8" "1" 3000 9000 .fail]
  submissions := [reviewBy "7" "2" 7500 9000 .pass, reviewBy "8" "2" 2500 8000 .flag]
  tasks := []

theorem withinBounds_reviewBy {reviewerAgentId claimId : String} {score confidenceBps : ℕ}
    {verdict : ReviewSubmissionVerdict} (hscore : score ≤ 10000)
    (hconfidence : confidenceBps ≤ 10000) :
    WithinBounds (reviewBy reviewerAgentId claimId score confidenceBps verdict) := by
  refine ⟨fun dimension value hvalue => ⟨score, ?_, Int.natCast_nonneg _, by omega⟩,
    confidenceBps, rfl, Int.natCast_nonneg _, by omega⟩
  obtain rfl := Option.some.inj hvalue
  rfl

/-- Agent 7 weighs more than agent 8, and the score lies between theirs, in whatever order the
reviews are listed. -/
theorem calibratedReview_fair :
    Fair calibratedReview ∧
      calibratedReview.submissions.map (calibrationWeight (agentCalibration calibratedReview)) =
        [9100, 6700] ∧
      submittedScore calibratedReview .methodConsistency = some 5522 ∧
      submittedScore { calibratedReview with
        submissions := calibratedReview.submissions.reverse
        submissionHistory := calibratedReview.submissionHistory.map List.reverse }
          .methodConsistency = some 5522 := by
  have hfair : Fair calibratedReview := by
    refine submitted_scores_fair calibratedReview fun submission hmem => ?_
    rcases List.mem_pair.mp hmem with rfl | rfl
    · exact withinBounds_reviewBy (by decide) (by decide)
    · exact withinBounds_reviewBy (by decide) (by decide)
  have hscore : submittedScore calibratedReview .methodConsistency = some 5522 := by
    decide +kernel
  have hhistory : SameHistory calibratedReview.submissionHistory
      (calibratedReview.submissionHistory.map List.reverse) :=
    List.Perm.symm (List.reverse_perm (calibratedReview.submissionHistory.getD []))
  refine ⟨hfair, by decide +kernel, hscore, ?_⟩
  rw [← hscore]
  exact hfair.perm (List.reverse_perm _).symm hhistory _

end ScientificProtocol.Review
