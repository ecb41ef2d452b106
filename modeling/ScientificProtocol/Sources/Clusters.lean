import ScientificProtocol.Sources.Decision

/-!
# Which cluster wins

The decision of `ScientificProtocol.Sources.decideSourceAutoPublication`, told without the order
in which the candidates come: a source is published when one of its clusters *clears* the policy
(`ScientificProtocol.Sources.Clears`), by itself and against every other cluster. At most one
does, since a cluster that clears is stronger than every other.

Two things go wrong with the text that names a cluster, which is three texts with a `|` between
them, none of them escaped. A `|` in a text can make two different claims one cluster, and the
third piece of the key is not what the candidates have for their type of claim.
-/

namespace ScientificProtocol.Sources

/-- The candidates of a cluster. -/
def membersOf (candidates : List SourceExtractionCandidate) (toLowerCase : String → String)
    (clusterKey : String) : List SourceExtractionCandidate :=
  candidates.filter fun candidate =>
    decide (candidateClusterKey candidate toLowerCase = clusterKey)

/-- The agents behind some candidates, but for the blank ones. -/
def agentsOf (entries : List SourceExtractionCandidate) : Finset String :=
  ((entries.filterMap fun entry => entry.reviewerAgentId.map Js.trim).filter
    fun agentId => decide (agentId ≠ "")).toFinset

/-- The average of their confidences, each brought between 0 and 10000, rounded. -/
def averageOf (entries : List SourceExtractionCandidate) : ℤ :=
  mathRound ((entries.map fun entry => clampBps entry.confidenceBps).sum / entries.length)

def strengthOf (entries : List SourceExtractionCandidate) : ℤ :=
  entries.length * averageOf entries

/-- **What the policy asks of a cluster.** -/
structure Clears (candidates : List SourceExtractionCandidate) (toLowerCase : String → String)
    (clusterKey : String) : Prop where
  agents : 2 ≤ (agentsOf (membersOf candidates toLowerCase clusterKey)).card
  confident : 7000 ≤ averageOf (membersOf candidates toLowerCase clusterKey)
  anchored : ∀ candidate ∈ membersOf candidates toLowerCase clusterKey, candidate.anchors ≠ []
  /-- Every other cluster has less than four fifths of its strength. -/
  ahead : ∀ candidate ∈ candidates, candidateClusterKey candidate toLowerCase ≠ clusterKey →
    (strengthOf (membersOf candidates toLowerCase (candidateClusterKey candidate toLowerCase)) : ℚ)
      < 4 / 5 * strengthOf (membersOf candidates toLowerCase clusterKey)

section

variable {candidates candidates' : List SourceExtractionCandidate} {toLowerCase : String → String}
  {clusterKey : String}

/-! ### The order of the candidates -/

theorem membersOf_perm (h : candidates.Perm candidates') :
    (membersOf candidates toLowerCase clusterKey).Perm
      (membersOf candidates' toLowerCase clusterKey) :=
  h.filter _

theorem agentsOf_perm (h : candidates.Perm candidates') :
    agentsOf candidates = agentsOf candidates' :=
  List.toFinset_eq_of_perm _ _ ((h.filterMap _).filter _)

theorem averageOf_perm (h : candidates.Perm candidates') :
    averageOf candidates = averageOf candidates' := by
  rw [averageOf, averageOf, (h.map _).sum_eq, h.length_eq]

theorem strengthOf_perm (h : candidates.Perm candidates') :
    strengthOf candidates = strengthOf candidates' := by
  rw [strengthOf, strengthOf, averageOf_perm h, h.length_eq]

/-- Whether a cluster clears the policy does not depend on the order of the candidates. -/
theorem Clears.perm (hclears : Clears candidates toLowerCase clusterKey)
    (h : candidates.Perm candidates') : Clears candidates' toLowerCase clusterKey where
  agents := agentsOf_perm (membersOf_perm h) ▸ hclears.agents
  confident := averageOf_perm (membersOf_perm h) ▸ hclears.confident
  anchored := by
    intro candidate hmem
    exact hclears.anchored candidate ((membersOf_perm h).mem_iff.mpr hmem)
  ahead := by
    intro candidate hmem hne
    have hahead := hclears.ahead candidate (h.mem_iff.mpr hmem) hne
    have hmembers : (membersOf candidates toLowerCase clusterKey).Perm
        (membersOf candidates' toLowerCase clusterKey) := membersOf_perm h
    rwa [strengthOf_perm (membersOf_perm h), strengthOf_perm hmembers] at hahead

/-- A cluster that clears has members. -/
theorem Clears.exists_mem (h : Clears candidates toLowerCase clusterKey) :
    ∃ candidate ∈ candidates, candidateClusterKey candidate toLowerCase = clusterKey := by
  by_contra hnone
  have hempty : membersOf candidates toLowerCase clusterKey = [] := by
    refine List.filter_eq_nil_iff.mpr fun candidate hmem hkey => hnone ⟨candidate, hmem, ?_⟩
    exact of_decide_eq_true hkey
  have hagents := h.agents
  rw [hempty] at hagents
  simp [agentsOf] at hagents

theorem Clears.strength_pos (h : Clears candidates toLowerCase clusterKey) :
    0 < strengthOf (membersOf candidates toLowerCase clusterKey) := by
  obtain ⟨candidate, hmem, hkey⟩ := h.exists_mem
  have hlength : 0 < (membersOf candidates toLowerCase clusterKey).length :=
    List.length_pos_of_mem (List.mem_filter.mpr ⟨hmem, decide_eq_true hkey⟩)
  have hconfident := h.confident
  exact Int.mul_pos (by omega) (by omega)

/-! ### The clusters of the code -/

theorem distinctAgents_clusterOf (entries : List SourceExtractionCandidate) :
    (clusterOf clusterKey entries).distinctAgents = (agentsOf entries).card := by
  rw [clusterOf, agentsOf]
  generalize (entries.filterMap fun entry => entry.reviewerAgentId.map Js.trim).filter
    (fun agentId => decide (agentId ≠ "")) = agents
  have hsame : agents.eraseDups.toFinset = agents.toFinset := by
    ext agent
    rw [List.mem_toFinset, List.mem_toFinset, List.mem_eraseDups]
  rw [← hsame, List.toFinset_card_of_nodup (Js.nodup_eraseDups agents)]

/-- The cluster that the code builds for a key. -/
def clusterAt (candidates : List SourceExtractionCandidate) (toLowerCase : String → String)
    (clusterKey : String) : SourcePublicationCluster :=
  clusterOf clusterKey (membersOf candidates toLowerCase clusterKey)

/-- There is one cluster for each key. -/
theorem rankedClusters_perm : (rankedClusters candidates toLowerCase).Perm
    ((candidates.map fun candidate => candidateClusterKey candidate toLowerCase).eraseDups.map
      (clusterAt candidates toLowerCase)) := by
  refine (List.perm_insertionSort _ _).trans (List.Perm.of_eq ?_)
  rw [Js.groupBy, List.map_map]
  rfl

theorem mem_rankedClusters {cluster : SourcePublicationCluster} :
    cluster ∈ rankedClusters candidates toLowerCase ↔ ∃ candidate ∈ candidates,
      clusterAt candidates toLowerCase (candidateClusterKey candidate toLowerCase) = cluster := by
  rw [rankedClusters_perm.mem_iff]
  simp

/-- The cluster of a candidate. -/
theorem clusterAt_mem_rankedClusters (toLowerCase : String → String)
    {candidate : SourceExtractionCandidate} (h : candidate ∈ candidates) :
    clusterAt candidates toLowerCase (candidateClusterKey candidate toLowerCase) ∈
      rankedClusters candidates toLowerCase :=
  mem_rankedClusters.mpr ⟨candidate, h, rfl⟩

theorem nodup_rankedClusters :
    ((rankedClusters candidates toLowerCase).map
      SourcePublicationCluster.clusterKey).Nodup := by
  have hkeys : SourcePublicationCluster.clusterKey ∘ clusterAt candidates toLowerCase = id := rfl
  rw [(rankedClusters_perm.map _).nodup_iff, List.map_map, hkeys, List.map_id]
  exact Js.nodup_eraseDups _

theorem sorted_rankedClusters : (rankedClusters candidates toLowerCase).Pairwise
    fun a b => clusterStrength b ≤ clusterStrength a := by
  have : Std.Total fun a b : SourcePublicationCluster =>
      clusterStrength b ≤ clusterStrength a := ⟨fun a b => le_total _ _⟩
  have : IsTrans SourcePublicationCluster fun a b => clusterStrength b ≤ clusterStrength a :=
    ⟨fun a b c hab hbc => hbc.trans hab⟩
  exact List.pairwise_insertionSort _ _

/-! ### The decision -/

/-- How the code compares a cluster with the next one. -/
def tooClose (w : SourcePublicationCluster) (others : List SourcePublicationCluster) : Bool :=
  (others.head?.bind fun o => if 0 < clusterStrength w then
    some ((clusterStrength o : ℚ) / clusterStrength w) else none).any
      fun ratio => decide (4 / 5 ≤ ratio)

theorem tooClose_eq_false {w : SourcePublicationCluster} {others : List SourcePublicationCluster}
    (hpos : 0 < clusterStrength w) : tooClose w others = false ↔
      ∀ o, others.head? = some o → (clusterStrength o : ℚ) < 4 / 5 * clusterStrength w := by
  have hposq : (0 : ℚ) < clusterStrength w := by exact_mod_cast hpos
  cases others with
  | nil => simp [tooClose]
  | cons o others =>
    simp only [tooClose, List.head?_cons, Option.bind_some, if_pos hpos, Option.any_some,
      decide_eq_false_iff_not, not_le, div_lt_iff₀ hposq, Option.some.injEq, forall_eq']

/-- The strongest cluster is published if it passes the four checks. -/
theorem shouldPublish_iff {w : SourcePublicationCluster} {others : List SourcePublicationCluster}
    (h : rankedClusters candidates toLowerCase = w :: others) :
    (decideSourceAutoPublication candidates toLowerCase).shouldPublish = true ↔
      tooClose w others = false ∧ 2 ≤ w.distinctAgents ∧ 7000 ≤ w.averageConfidenceBps ∧
      ∀ candidate ∈ membersOf candidates toLowerCase w.clusterKey, candidate.anchors ≠ [] := by
  have hanchors : ((membersOf candidates toLowerCase w.clusterKey).any
      fun candidate => candidate.anchors.isEmpty) = false ↔
      ∀ candidate ∈ membersOf candidates toLowerCase w.clusterKey, candidate.anchors ≠ [] := by
    simp
  rw [← hanchors, decideSourceAutoPublication, h]
  simp only
  change (if tooClose w others = true then _ else _ :
    SourceAutoPublicationDecision).shouldPublish = true ↔ _
  split
  next hclose => simp [hclose]
  next hclose =>
    split
    next hagents => simp only [Bool.false_eq_true, false_iff]; omega
    next hagents =>
      split
      next hconfidence => simp only [Bool.false_eq_true, false_iff]; omega
      next hconfidence =>
        split
        next hany =>
          have hany : ((membersOf candidates toLowerCase w.clusterKey).any
              fun candidate => candidate.anchors.isEmpty) = true := hany
          simp [hany]
        next hany =>
          refine ⟨fun _ => ⟨by simpa using hclose, by omega, by omega, ?_⟩, fun _ => rfl⟩
          exact Bool.eq_false_of_not_eq_true hany

theorem winningCluster_eq {w : SourcePublicationCluster} {others : List SourcePublicationCluster}
    (h : rankedClusters candidates toLowerCase = w :: others) :
    (decideSourceAutoPublication candidates toLowerCase).winningCluster = some w := by
  rw [decideSourceAutoPublication, h]
  simp only
  split_ifs <;> rfl

theorem winningCluster_eq_none (h : rankedClusters candidates toLowerCase = []) :
    decideSourceAutoPublication candidates toLowerCase =
      ⟨none, "No extraction candidates were submitted.", false, none⟩ := by
  rw [decideSourceAutoPublication, h]

/-- Of two clusters of the ranking, the keys are different. -/
theorem clusterAt_of_mem_rankedClusters {cluster : SourcePublicationCluster}
    (h : cluster ∈ rankedClusters candidates toLowerCase) :
    cluster = clusterAt candidates toLowerCase cluster.clusterKey := by
  obtain ⟨candidate, -, rfl⟩ := mem_rankedClusters.mp h
  rfl

/-- Every cluster but the first of the ranking has no more strength than the one after it. -/
theorem clusterStrength_le_of_head? {w o : SourcePublicationCluster}
    {others : List SourcePublicationCluster}
    (h : rankedClusters candidates toLowerCase = w :: others) (ho : others.head? = some o)
    {cluster : SourcePublicationCluster} (hmem : cluster ∈ others) :
    clusterStrength cluster ≤ clusterStrength o := by
  obtain ⟨others, rfl⟩ := List.head?_eq_some_iff.mp ho
  have hsorted : (w :: o :: others).Pairwise fun a b => clusterStrength b ≤ clusterStrength a :=
    h ▸ sorted_rankedClusters
  have hsorted := (List.pairwise_cons.mp hsorted).2
  obtain rfl | hmem := List.mem_cons.mp hmem
  · exact le_rfl
  · exact (List.pairwise_cons.mp hsorted).1 _ hmem

/-- The first cluster of the ranking clears if it passes the checks. -/
theorem clears_of_first {w : SourcePublicationCluster} {others : List SourcePublicationCluster}
    (h : rankedClusters candidates toLowerCase = w :: others)
    (hpublish : (decideSourceAutoPublication candidates toLowerCase).shouldPublish = true) :
    Clears candidates toLowerCase w.clusterKey := by
  obtain ⟨hclose, hagents, hconfident, hanchored⟩ := (shouldPublish_iff h).mp hpublish
  have hw : w ∈ rankedClusters candidates toLowerCase := h ▸ List.mem_cons_self
  have hat := clusterAt_of_mem_rankedClusters hw
  obtain ⟨candidate, hmem, hcandidate⟩ := mem_rankedClusters.mp hw
  have hkey : candidateClusterKey candidate toLowerCase = w.clusterKey :=
    congrArg SourcePublicationCluster.clusterKey hcandidate
  have hlength : 0 < (membersOf candidates toLowerCase w.clusterKey).length :=
    List.length_pos_of_mem (List.mem_filter.mpr ⟨hmem, decide_eq_true hkey⟩)
  have hstrength : clusterStrength w =
      strengthOf (membersOf candidates toLowerCase w.clusterKey) := by
    conv_lhs => rw [hat]
    rfl
  have haverage : w.averageConfidenceBps =
      averageOf (membersOf candidates toLowerCase w.clusterKey) := by
    conv_lhs => rw [hat]
    rfl
  have hpos : 0 < clusterStrength w := by
    rw [hstrength]
    exact Int.mul_pos (by omega) (by omega)
  refine ⟨?_, haverage ▸ hconfident, hanchored, ?_⟩
  · rw [hat, clusterAt, distinctAgents_clusterOf] at hagents
    exact hagents
  · intro other hother hne
    -- Another cluster is one of the others, and no stronger than the first of them.
    have hcluster := clusterAt_mem_rankedClusters toLowerCase hother
    rw [h] at hcluster
    obtain heq | hcluster := List.mem_cons.mp hcluster
    · exact absurd (congrArg SourcePublicationCluster.clusterKey heq) hne
    · obtain ⟨o, ho⟩ : ∃ o, others.head? = some o := by
        cases others with
        | nil => cases hcluster
        | cons o others => exact ⟨o, rfl⟩
      have hle := clusterStrength_le_of_head? h ho hcluster
      have hlt := (tooClose_eq_false hpos).mp hclose o ho
      rw [← hstrength]
      exact lt_of_le_of_lt (by exact_mod_cast hle) hlt

/-- A cluster that clears is the first of the ranking. -/
theorem Clears.first (hclears : Clears candidates toLowerCase clusterKey) :
    ∃ others, rankedClusters candidates toLowerCase =
      clusterAt candidates toLowerCase clusterKey :: others := by
  obtain ⟨candidate, hmem, rfl⟩ := hclears.exists_mem
  have hcluster := clusterAt_mem_rankedClusters toLowerCase hmem
  cases h : rankedClusters candidates toLowerCase with
  | nil => rw [h] at hcluster; cases hcluster
  | cons w others =>
    refine ⟨others, congrArg (· :: others) ?_⟩
    by_contra hne
    have hw : w ∈ rankedClusters candidates toLowerCase := h ▸ List.mem_cons_self
    obtain ⟨first, hfirst, rfl⟩ := mem_rankedClusters.mp hw
    have hkey : candidateClusterKey first toLowerCase ≠
        candidateClusterKey candidate toLowerCase := fun heq => hne (by rw [heq])
    -- The first one would be weaker than a cluster that comes after it.
    have hahead := hclears.ahead first hfirst hkey
    have hle : strengthOf (membersOf candidates toLowerCase
        (candidateClusterKey candidate toLowerCase)) ≤ strengthOf (membersOf candidates
          toLowerCase (candidateClusterKey first toLowerCase)) := by
      have hsorted : (rankedClusters candidates toLowerCase).Pairwise
          fun a b => clusterStrength b ≤ clusterStrength a := sorted_rankedClusters
      rw [h] at hsorted
      rw [h] at hcluster
      obtain heq | hcluster := List.mem_cons.mp hcluster
      · exact absurd heq.symm hne
      · exact (List.pairwise_cons.mp hsorted).1 _ hcluster
    have hle : (strengthOf (membersOf candidates toLowerCase
        (candidateClusterKey candidate toLowerCase)) : ℚ) ≤ strengthOf (membersOf candidates
          toLowerCase (candidateClusterKey first toLowerCase)) := by exact_mod_cast hle
    have hpos : (0 : ℚ) < strengthOf (membersOf candidates toLowerCase
        (candidateClusterKey candidate toLowerCase)) := by exact_mod_cast hclears.strength_pos
    linarith

/-- **When a cluster is published.** -/
theorem published_iff_clears : ((decideSourceAutoPublication candidates toLowerCase).shouldPublish
      = true ∧ (decideSourceAutoPublication candidates toLowerCase).winningCluster.map
        SourcePublicationCluster.clusterKey = some clusterKey) ↔
    Clears candidates toLowerCase clusterKey := by
  constructor
  · rintro ⟨hpublish, hkey⟩
    cases h : rankedClusters candidates toLowerCase with
    | nil =>
      rw [winningCluster_eq_none h] at hpublish
      cases hpublish
    | cons w others =>
      rw [winningCluster_eq h, Option.map_some] at hkey
      exact Option.some.inj hkey ▸ clears_of_first h hpublish
  · intro hclears
    obtain ⟨others, h⟩ := hclears.first
    refine ⟨(shouldPublish_iff h).mpr ⟨?_, ?_, hclears.confident, hclears.anchored⟩, ?_⟩
    · have hpos : 0 < clusterStrength (clusterAt candidates toLowerCase clusterKey) :=
        hclears.strength_pos
      refine (tooClose_eq_false hpos).mpr fun o ho => ?_
      have ho' : o ∈ others := List.mem_of_head? ho
      have hmem : o ∈ rankedClusters candidates toLowerCase := h ▸ List.mem_cons_of_mem _ ho'
      obtain ⟨other, hother, rfl⟩ := mem_rankedClusters.mp hmem
      refine hclears.ahead other hother fun heq => ?_
      -- There is one cluster for a key.
      have hnodup : ((rankedClusters candidates toLowerCase).map
          SourcePublicationCluster.clusterKey).Nodup := nodup_rankedClusters
      rw [h, List.map_cons, List.nodup_cons] at hnodup
      exact hnodup.1 (List.mem_map.mpr ⟨_, ho', heq⟩)
    · exact (distinctAgents_clusterOf _).symm ▸ hclears.agents
    · rw [winningCluster_eq h]
      rfl

/-- A source with nothing published has no cluster that clears. -/
theorem shouldPublish_iff_exists_clears :
    (decideSourceAutoPublication candidates toLowerCase).shouldPublish = true ↔
      ∃ clusterKey, Clears candidates toLowerCase clusterKey := by
  constructor
  · intro hpublish
    cases h : rankedClusters candidates toLowerCase with
    | nil =>
      rw [winningCluster_eq_none h] at hpublish
      cases hpublish
    | cons w others => exact ⟨w.clusterKey, clears_of_first h hpublish⟩
  · rintro ⟨clusterKey, hclears⟩
    exact (published_iff_clears.mpr hclears).1

end

/-- **The decision does not depend on the order of the candidates**: it is to publish when some
cluster clears, and then that cluster is the one. -/
theorem decideSourceAutoPublication_perm (toLowerCase : String → String)
    {candidates candidates' : List SourceExtractionCandidate} (h : candidates.Perm candidates') :
    let decision := decideSourceAutoPublication candidates toLowerCase
    let decision' := decideSourceAutoPublication candidates' toLowerCase
    decision.shouldPublish = decision'.shouldPublish ∧
    (decision.shouldPublish = true →
      ∃ clusterKey, decision.winningCluster.map SourcePublicationCluster.clusterKey =
          some clusterKey ∧
        decision'.winningCluster.map SourcePublicationCluster.clusterKey = some clusterKey) ∧
    (decision.shouldPublish = true ↔ ∃ clusterKey, Clears candidates toLowerCase clusterKey) := by
  intro decision decision'
  have hsame : decision.shouldPublish = true ↔ decision'.shouldPublish = true := by
    rw [shouldPublish_iff_exists_clears, shouldPublish_iff_exists_clears]
    exact ⟨fun ⟨key, hkey⟩ => ⟨key, hkey.perm h⟩, fun ⟨key, hkey⟩ => ⟨key, hkey.perm h.symm⟩⟩
  refine ⟨Bool.eq_iff_iff.mpr hsame, fun hpublish => ?_, shouldPublish_iff_exists_clears⟩
  obtain ⟨clusterKey, hclears⟩ := shouldPublish_iff_exists_clears.mp hpublish
  exact ⟨clusterKey, (published_iff_clears.mpr hclears).2,
    (published_iff_clears.mpr (hclears.perm h)).2⟩

/-- What an agent reads in a page. -/
def reading (agentId statement scope claimType : String) : SourceExtractionCandidate where
  sourceId := 1
  submissionId := agentId
  taskId := agentId
  reviewerAgentId := some agentId
  statement := statement
  scope := scope
  claimType := claimType
  methodology := ""
  confidenceBps := 9000
  anchors := [⟨"", ""⟩]
  createdAt := 0

/-- Two agents that agree on what they have read, and a third one that has read something else. -/
def readings : List SourceExtractionCandidate :=
  [reading "7" "Water boils" "sea level" "general", reading "8" "It rains" "" "general",
    reading "9" "water  boils" "Sea level" "general",
    reading "10" "Water boils" "sea level" "General"]

theorem decideSourceAutoPublication_readings :
    (decideSourceAutoPublication readings).shouldPublish = true ∧
      (decideSourceAutoPublication readings.reverse).shouldPublish = true :=
  ⟨by decide +kernel, (decideSourceAutoPublication_perm Js.toLowerCase
    (List.reverse_perm readings).symm).1 ▸ by decide +kernel⟩

/-! ### What a key says -/

/-- Two candidates that claim the same, up to white space and case. -/
def SameClaim (toLowerCase : String → String) (candidate candidate' : SourceExtractionCandidate) :
    Prop :=
  normalizeLower candidate.statement toLowerCase = normalizeLower candidate'.statement toLowerCase ∧
  normalizeLower candidate.scope toLowerCase = normalizeLower candidate'.scope toLowerCase ∧
  normalizeLower candidate.claimType toLowerCase = normalizeLower candidate'.claimType toLowerCase

/-- Two candidates that the decision puts in one cluster. -/
def SameCluster (candidates : List SourceExtractionCandidate) (toLowerCase : String → String)
    (candidate candidate' : SourceExtractionCandidate) : Prop :=
  ∃ group ∈ Js.groupBy (fun entry => candidateClusterKey entry toLowerCase) candidates,
    candidate ∈ group.2 ∧ candidate' ∈ group.2

/-- The pieces between the `|`s of the three texts of a candidate, one text after the other. -/
def piecesOf (toLowerCase : String → String) (candidate : SourceExtractionCandidate) :
    List String :=
  Js.split '|' (normalizeLower candidate.statement toLowerCase) ++
    (Js.split '|' (normalizeLower candidate.scope toLowerCase) ++
      Js.split '|' (normalizeLower candidate.claimType toLowerCase))

/-- How many `|`s a text has. -/
def barsOf (toLowerCase : String → String) (text : String) : ℕ :=
  (normalizeLower text toLowerCase).toList.count '|'

section

variable {toLowerCase : String → String} {candidate candidate' : SourceExtractionCandidate}

theorem candidateClusterKey_eq_join : candidateClusterKey candidate toLowerCase =
    Js.join '|' (normalizeLower candidate.statement toLowerCase)
      (Js.join '|' (normalizeLower candidate.scope toLowerCase)
        (normalizeLower candidate.claimType toLowerCase)) := by
  have hbar : '|'.toString = "|" := rfl
  simp only [candidateClusterKey, Js.join, hbar, String.append_assoc]

/-- **All that a key says of a candidate**: its pieces, but not where one text ends and the next
one begins. -/
theorem split_candidateClusterKey :
    Js.split '|' (candidateClusterKey candidate toLowerCase) = piecesOf toLowerCase candidate := by
  rw [candidateClusterKey_eq_join, Js.split_join_eq_append, Js.split_join_eq_append, piecesOf]

theorem candidateClusterKey_eq_iff : candidateClusterKey candidate toLowerCase =
    candidateClusterKey candidate' toLowerCase ↔
      piecesOf toLowerCase candidate = piecesOf toLowerCase candidate' := by
  rw [← split_candidateClusterKey, ← split_candidateClusterKey, Js.split_inj]

/-- With the numbers of `|`s, the pieces say everything. -/
theorem sameClaim_iff : SameClaim toLowerCase candidate candidate' ↔
    piecesOf toLowerCase candidate = piecesOf toLowerCase candidate' ∧
    barsOf toLowerCase candidate.statement = barsOf toLowerCase candidate'.statement ∧
    barsOf toLowerCase candidate.scope = barsOf toLowerCase candidate'.scope := by
  constructor
  · rintro ⟨hstatement, hscope, hclaimType⟩
    simp only [piecesOf, barsOf, hstatement, hscope, hclaimType, and_self]
  · rintro ⟨hpieces, hstatement, hscope⟩
    obtain ⟨hfirst, hrest⟩ := List.append_inj hpieces
      (by rw [Js.length_split, Js.length_split]; exact congrArg (· + 1) hstatement)
    obtain ⟨hsecond, hthird⟩ := List.append_inj hrest
      (by rw [Js.length_split, Js.length_split]; exact congrArg (· + 1) hscope)
    exact ⟨Js.split_inj.mp hfirst, Js.split_inj.mp hsecond, Js.split_inj.mp hthird⟩

theorem sameCluster_iff {candidates : List SourceExtractionCandidate}
    (h : candidate ∈ candidates) (h' : candidate' ∈ candidates) :
    SameCluster candidates toLowerCase candidate candidate' ↔
      candidateClusterKey candidate toLowerCase = candidateClusterKey candidate' toLowerCase := by
  constructor
  · rintro ⟨⟨clusterKey, group⟩, hgroup, hmem, hmem'⟩
    rw [(Js.mem_of_mem_groupBy hgroup hmem).2, (Js.mem_of_mem_groupBy hgroup hmem').2]
  · intro hkey
    refine ⟨⟨candidateClusterKey candidate toLowerCase, membersOf candidates toLowerCase
      (candidateClusterKey candidate toLowerCase)⟩, ?_, ?_, ?_⟩
    · refine List.mem_map.mpr ⟨candidateClusterKey candidate toLowerCase, ?_, rfl⟩
      exact List.mem_eraseDups.mpr (List.mem_map.mpr ⟨candidate, h, rfl⟩)
    · exact List.mem_filter.mpr ⟨h, decide_eq_true rfl⟩
    · exact List.mem_filter.mpr ⟨h', decide_eq_true hkey.symm⟩

/-- **When a cluster is of one claim.** Two candidates are put together because they claim the
same, unless their texts have the same pieces with the `|`s of one text in another. -/
theorem sameCluster_iff_sameClaim_iff (toLowerCase : String → String)
    {candidates : List SourceExtractionCandidate} {candidate candidate' : SourceExtractionCandidate}
    (h : candidate ∈ candidates) (h' : candidate' ∈ candidates) :
    (SameCluster candidates toLowerCase candidate candidate' ↔
        SameClaim toLowerCase candidate candidate') ↔
      (piecesOf toLowerCase candidate = piecesOf toLowerCase candidate' →
        barsOf toLowerCase candidate.statement = barsOf toLowerCase candidate'.statement ∧
        barsOf toLowerCase candidate.scope = barsOf toLowerCase candidate'.scope) := by
  rw [sameCluster_iff h h', candidateClusterKey_eq_iff, sameClaim_iff]
  constructor
  · intro hiff hpieces
    exact (hiff.mp hpieces).2
  · intro hbars
    exact ⟨fun hpieces => ⟨hpieces, hbars hpieces⟩, fun hclaim => hclaim.1⟩

end

/-- Two claims with the same words in one of them. -/
theorem sameCluster_of_different_claims :
    SameCluster [reading "7" "a|b" "c" "general", reading "8" "a" "b|c" "general"] Js.toLowerCase
      (reading "7" "a|b" "c" "general") (reading "8" "a" "b|c" "general") ∧
    ¬ SameClaim Js.toLowerCase (reading "7" "a|b" "c" "general")
      (reading "8" "a" "b|c" "general") := by
  refine ⟨(sameCluster_iff List.mem_cons_self (List.mem_cons_of_mem _ List.mem_cons_self)).mpr ?_,
    fun hclaim => ?_⟩
  · decide +kernel
  · exact absurd hclaim.1 (by decide +kernel)

/-- Where no text has a `|`, that is not so. -/
theorem sameCluster_iff_sameClaim_plain :
    SameCluster readings Js.toLowerCase (reading "7" "Water boils" "sea level" "general")
        (reading "8" "It rains" "" "general") ↔
      SameClaim Js.toLowerCase (reading "7" "Water boils" "sea level" "general")
        (reading "8" "It rains" "" "general") :=
  (sameCluster_iff_sameClaim_iff Js.toLowerCase List.mem_cons_self
    (List.mem_cons_of_mem _ List.mem_cons_self)).mpr (by decide +kernel)

/-! ### The candidate to publish -/

/-- The candidate that `attemptSourceAutoPublication` looks for is there, and of the cluster that
has won. -/
def FindsMember (candidates : List (ℕ × SourceExtractionCandidate))
    (toLowerCase : String → String) : Prop :=
  ∃ cluster, (decideSourceAutoPublication (candidates.map Prod.snd) toLowerCase).winningCluster =
      some cluster ∧
    ∃ found, winningCandidate candidates cluster = some found ∧
      candidateClusterKey found.2 toLowerCase = cluster.clusterKey

/-- Some candidate has the statement and the scope of this one to the letter and the same type of
claim up to white space and case, and that type is the third piece of the three texts. -/
def Listed (candidates : List SourceExtractionCandidate) (toLowerCase : String → String)
    (first : SourceExtractionCandidate) : Prop :=
  ∃ candidate ∈ candidates, candidate.statement = first.statement ∧
    candidate.scope = first.scope ∧
    normalizeLower candidate.claimType toLowerCase = normalizeLower first.claimType toLowerCase ∧
    (piecesOf toLowerCase first)[2]? = some candidate.claimType

section

variable {toLowerCase : String → String}

/-- With the same statement and scope, what is left of a key is the type of claim. -/
theorem candidateClusterKey_eq_iff_claimType {candidate candidate' : SourceExtractionCandidate}
    (hstatement : candidate.statement = candidate'.statement)
    (hscope : candidate.scope = candidate'.scope) :
    candidateClusterKey candidate toLowerCase = candidateClusterKey candidate' toLowerCase ↔
      normalizeLower candidate.claimType toLowerCase =
        normalizeLower candidate'.claimType toLowerCase := by
  rw [candidateClusterKey_eq_iff, piecesOf, piecesOf, hstatement, hscope,
    List.append_cancel_left_eq, List.append_cancel_left_eq, Js.split_inj]

/-- The cluster of a key has the texts of its first candidate. -/
theorem clusterAt_first {candidates : List SourceExtractionCandidate} {clusterKey : String}
    {first : SourceExtractionCandidate} (hfirst : candidates.find? (fun candidate =>
      decide (candidateClusterKey candidate toLowerCase = clusterKey)) = some first) :
    (clusterAt candidates toLowerCase clusterKey).statement = first.statement ∧
      (clusterAt candidates toLowerCase clusterKey).scope = first.scope := by
  have hhead : (membersOf candidates toLowerCase clusterKey).head? = some first := by
    rw [membersOf, List.head?_filter, hfirst]
  simp [clusterAt, clusterOf, hhead]

/-- Without a `|` anywhere, and with its type of claim in lower case, a candidate is listed by
itself. -/
theorem listed_of_plain {candidates : List SourceExtractionCandidate}
    {first : SourceExtractionCandidate} (h : first ∈ candidates)
    (hstatement : barsOf toLowerCase first.statement = 0)
    (hscope : barsOf toLowerCase first.scope = 0) (hclaimType : '|' ∉ first.claimType.toList)
    (hlower : normalizeLower first.claimType toLowerCase = first.claimType) :
    Listed candidates toLowerCase first := by
  refine ⟨first, h, rfl, rfl, rfl, ?_⟩
  rw [piecesOf, Js.split_of_not_mem (List.count_eq_zero.mp hstatement),
    Js.split_of_not_mem (List.count_eq_zero.mp hscope), hlower, Js.split_of_not_mem hclaimType]
  rfl

theorem exists_first {candidates : List SourceExtractionCandidate} {clusterKey : String}
    (h : Clears candidates toLowerCase clusterKey) :
    ∃ first, candidates.find? (fun candidate =>
        decide (candidateClusterKey candidate toLowerCase = clusterKey)) = some first ∧
      candidateClusterKey first toLowerCase = clusterKey := by
  obtain ⟨candidate, hmem, hkey⟩ := h.exists_mem
  obtain ⟨first, hfirst⟩ : ∃ first, candidates.find? (fun candidate =>
      decide (candidateClusterKey candidate toLowerCase = clusterKey)) = some first :=
    Option.isSome_iff_exists.mp (List.find?_isSome.mpr ⟨candidate, hmem, decide_eq_true hkey⟩)
  exact ⟨first, hfirst, of_decide_eq_true (List.find?_some hfirst :)⟩

/-- The cluster that wins is the one that clears. -/
theorem winning_eq_clusterAt {candidates : List SourceExtractionCandidate} {clusterKey : String}
    (h : Clears candidates toLowerCase clusterKey) {cluster : SourcePublicationCluster}
    (hwinning : (decideSourceAutoPublication candidates toLowerCase).winningCluster =
      some cluster) : clusterAt candidates toLowerCase clusterKey = cluster := by
  obtain ⟨others, hothers⟩ := h.first
  exact Option.some.inj ((winningCluster_eq hothers).symm.trans hwinning)

/-- **When there is a candidate to publish**: the cluster that clears has, at its first candidate,
a type of claim that its key shows as some candidate has it. -/
theorem findsMember_iff (toLowerCase : String → String)
    (candidates : List (ℕ × SourceExtractionCandidate))
    (h : (decideSourceAutoPublication (candidates.map Prod.snd) toLowerCase).shouldPublish =
      true) :
    FindsMember candidates toLowerCase ↔
      ∃ clusterKey first, Clears (candidates.map Prod.snd) toLowerCase clusterKey ∧
        (candidates.map Prod.snd).find? (fun candidate =>
          decide (candidateClusterKey candidate toLowerCase = clusterKey)) = some first ∧
        Listed (candidates.map Prod.snd) toLowerCase first := by
  constructor
  · rintro ⟨cluster, hwinning, found, hfound, hkey⟩
    obtain ⟨clusterKey, hclears⟩ := shouldPublish_iff_exists_clears.mp h
    obtain ⟨first, hfirst, hfirstKey⟩ := exists_first hclears
    obtain rfl := winning_eq_clusterAt hclears hwinning
    have hmem : found.2 ∈ candidates.map Prod.snd :=
      List.mem_map_of_mem (List.mem_of_find?_eq_some hfound)
    obtain ⟨hstatement, hscope, hpiece⟩ := of_decide_eq_true (List.find?_some hfound :)
    rw [(clusterAt_first hfirst).1] at hstatement
    rw [(clusterAt_first hfirst).2] at hscope
    have hkey : candidateClusterKey found.2 toLowerCase = clusterKey := hkey
    refine ⟨clusterKey, first, hclears, hfirst, found.2, hmem, hstatement, hscope, ?_, ?_⟩
    · exact (candidateClusterKey_eq_iff_claimType hstatement hscope).mp
        (hkey.trans hfirstKey.symm)
    · rw [← split_candidateClusterKey, hfirstKey]
      exact hpiece.symm
  · rintro ⟨clusterKey, first, hclears, hfirst, candidate, hmem, hstatement, hscope, htype, hpiece⟩
    have hfirstKey : candidateClusterKey first toLowerCase = clusterKey :=
      of_decide_eq_true (List.find?_some hfirst :)
    rw [← split_candidateClusterKey, hfirstKey] at hpiece
    obtain ⟨others, hothers⟩ := hclears.first
    obtain ⟨entry, hentry, rfl⟩ := List.mem_map.mp hmem
    -- This candidate is one that the lookup would take, so that it takes one.
    have hsome : (winningCandidate candidates
        (clusterAt (candidates.map Prod.snd) toLowerCase clusterKey)).isSome = true := by
      refine List.find?_isSome.mpr ⟨entry, hentry, decide_eq_true ⟨?_, ?_, hpiece.symm⟩⟩
      · rw [hstatement, (clusterAt_first hfirst).1]
      · rw [hscope, (clusterAt_first hfirst).2]
    obtain ⟨found, hfound⟩ := Option.isSome_iff_exists.mp hsome
    obtain ⟨hstatement', hscope', hpiece'⟩ := of_decide_eq_true (List.find?_some hfound :)
    rw [(clusterAt_first hfirst).1] at hstatement'
    rw [(clusterAt_first hfirst).2] at hscope'
    have htype' : found.2.claimType = entry.2.claimType :=
      Option.some.inj (hpiece'.trans hpiece)
    refine ⟨_, winningCluster_eq hothers, found, hfound, ?_⟩
    calc candidateClusterKey found.2 toLowerCase = candidateClusterKey first toLowerCase :=
          (candidateClusterKey_eq_iff_claimType hstatement' hscope').mpr (htype' ▸ htype)
      _ = clusterKey := hfirstKey

end

/-- A type of claim in upper case is not in any key: nothing is found, although the two agents
agree. -/
theorem findsMember_upperCase :
    (decideSourceAutoPublication ([(1, reading "7" "s" "c" "Empirical"),
      (2, reading "8" "s" "c" "Empirical")].map Prod.snd)).shouldPublish = true ∧
    ¬ FindsMember [(1, reading "7" "s" "c" "Empirical"), (2, reading "8" "s" "c" "Empirical")]
      Js.toLowerCase := by
  refine ⟨by decide +kernel, ?_⟩
  rintro ⟨cluster, hwinning, found, hfound, -⟩
  have hnone : ∀ cluster ∈ (decideSourceAutoPublication ([(1, reading "7" "s" "c" "Empirical"),
      (2, reading "8" "s" "c" "Empirical")].map Prod.snd)).winningCluster,
      winningCandidate [(1, reading "7" "s" "c" "Empirical"),
        (2, reading "8" "s" "c" "Empirical")] cluster = none := by decide +kernel
  exact absurd (hfound.symm.trans (hnone cluster hwinning)) (Option.some_ne_none _)

/-- In lower case it is. -/
theorem findsMember_lowerCase :
    FindsMember [(1, reading "7" "s" "c" "empirical"), (2, reading "8" "s" "c" "empirical")]
      Js.toLowerCase :=
  (findsMember_iff Js.toLowerCase _ (by decide +kernel)).mpr
    ⟨"s|c|empirical", reading "7" "s" "c" "empirical",
      published_iff_clears.mp (by decide +kernel), by decide +kernel,
      reading "7" "s" "c" "empirical", List.mem_cons_self, by decide +kernel⟩

end ScientificProtocol.Sources
