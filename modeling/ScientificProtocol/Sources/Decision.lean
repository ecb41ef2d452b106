import Mathlib.Data.Rat.Floor
import ScientificProtocol.Js.Map
import ScientificProtocol.Sources.Store

/-!
# What the candidates of a source decide

`decideSourceAutoPublication` of `src/sources/canonicalize.ts`: the candidates that agents have
extracted from a source are grouped by their normalized texts, and the strongest group wins if
it is strong enough, by itself and against the next one. Then `attemptSourceAutoPublication`
of `src/sources/auto-publish.ts` looks for a candidate of the group to publish.

All there is to it for a publication is one of three things
(`ScientificProtocol.Sources.AutoOutcome`).
-/

namespace ScientificProtocol.Sources

/-- White space becomes one blank, wherever there is some: `after` white space or not. -/
def collapseSpaces (after : Bool) : List Char → List Char
  | [] => []
  | c :: cs =>
    if Js.isSpace c then
      if after then collapseSpaces true cs else ' ' :: collapseSpaces true cs
    else c :: collapseSpaces false cs

def normalizeText (value : String) : String :=
  String.ofList (collapseSpaces false (Js.trim value).toList)

/-- The lower case is that of the letters without accents, unless another one is given. -/
def normalizeLower (value : String) (toLowerCase : String → String := Js.toLowerCase) : String :=
  toLowerCase (normalizeText value)

def clampBps (value : ℤ) : ℤ := max 0 (min 10000 value)

/-- `Math.round`. -/
def mathRound (value : ℚ) : ℤ := ⌊value + 1 / 2⌋

def candidateClusterKey (candidate : SourceExtractionCandidate)
    (toLowerCase : String → String := Js.toLowerCase) : String :=
  normalizeLower candidate.statement toLowerCase ++ "|" ++
    normalizeLower candidate.scope toLowerCase ++ "|" ++
      normalizeLower candidate.claimType toLowerCase

structure SourcePublicationCluster where
  averageConfidenceBps : ℤ
  clusterKey : String
  distinctAgents : ℕ
  memberCount : ℕ
  methodology : String
  scope : String
  statement : String
  deriving DecidableEq

def clusterStrength (cluster : SourcePublicationCluster) : ℤ :=
  cluster.memberCount * cluster.averageConfidenceBps

/-- A cluster, with its first entry for all of them. -/
def clusterOf (clusterKey : String) (entries : List SourceExtractionCandidate) :
    SourcePublicationCluster where
  averageConfidenceBps :=
    mathRound ((entries.map fun entry => clampBps entry.confidenceBps).sum / entries.length)
  clusterKey := clusterKey
  distinctAgents := ((entries.filterMap fun entry => entry.reviewerAgentId.map Js.trim).filter
    fun agentId => decide (agentId ≠ "")).eraseDups.length
  memberCount := entries.length
  methodology := (entries.head?.map SourceExtractionCandidate.methodology).getD ""
  scope := (entries.head?.map SourceExtractionCandidate.scope).getD ""
  statement := (entries.head?.map SourceExtractionCandidate.statement).getD ""

structure SourceAutoPublicationDecision where
  competingStrengthRatio : Option ℚ
  reason : String
  shouldPublish : Bool
  winningCluster : Option SourcePublicationCluster
  deriving DecidableEq

/-- The clusters, the strongest first. -/
def rankedClusters (candidates : List SourceExtractionCandidate)
    (toLowerCase : String → String := Js.toLowerCase) : List SourcePublicationCluster :=
  List.insertionSort (fun a b => clusterStrength b ≤ clusterStrength a)
    ((Js.groupBy (fun candidate => candidateClusterKey candidate toLowerCase) candidates).map
      fun group => clusterOf group.1 group.2)

def decideSourceAutoPublication (candidates : List SourceExtractionCandidate)
    (toLowerCase : String → String := Js.toLowerCase) : SourceAutoPublicationDecision :=
  match rankedClusters candidates toLowerCase with
  | [] => ⟨none, "No extraction candidates were submitted.", false, none⟩
  | winningCluster :: others =>
    let competingStrengthRatio : Option ℚ := others.head?.bind fun competingCluster =>
      if 0 < clusterStrength winningCluster then
        some (clusterStrength competingCluster / clusterStrength winningCluster)
      else none
    let winningMembers := candidates.filter fun candidate =>
      decide (candidateClusterKey candidate toLowerCase = winningCluster.clusterKey)
    if competingStrengthRatio.any fun ratio => decide (4 / 5 ≤ ratio) then
      ⟨competingStrengthRatio,
        "Competing extraction clusters are still too strong to auto-publish safely.", false,
        some winningCluster⟩
    else if winningCluster.distinctAgents < 2 then
      ⟨competingStrengthRatio,
        "The leading extraction cluster still needs additional distinct agents.", false,
        some winningCluster⟩
    else if winningCluster.averageConfidenceBps < 7000 then
      ⟨competingStrengthRatio,
        "The leading extraction cluster is still below the confidence threshold.", false,
        some winningCluster⟩
    else if winningMembers.any fun candidate => candidate.anchors.isEmpty then
      ⟨competingStrengthRatio,
        "The leading extraction cluster is missing anchored source support.", false,
        some winningCluster⟩
    else
      ⟨competingStrengthRatio,
        "The leading extraction cluster clears the auto-publication policy.", true,
        some winningCluster⟩

/-- What comes of the candidates of a source. -/
inductive AutoOutcome where
  /-- There is nothing to publish. -/
  | nothing (reason : String)
  /-- The source is to be shown as ready, and no more. -/
  | ready (reason : String)
  | publish (candidateId : ℕ) (winner : SourceExtractionCandidate)
  deriving DecidableEq

/-- The candidate of a cluster that `attemptSourceAutoPublication` finds. -/
def winningCandidate (candidates : List (ℕ × SourceExtractionCandidate))
    (cluster : SourcePublicationCluster) : Option (ℕ × SourceExtractionCandidate) :=
  candidates.find? fun candidate => decide (candidate.2.statement = cluster.statement ∧
    candidate.2.scope = cluster.scope ∧
      some candidate.2.claimType = (Js.split '|' cluster.clusterKey)[2]?)

def autoOutcome (candidates : List (ℕ × SourceExtractionCandidate))
    (toLowerCase : String → String := Js.toLowerCase) : AutoOutcome :=
  let decision := decideSourceAutoPublication (candidates.map Prod.snd) toLowerCase
  match decision.winningCluster with
  | none => .nothing decision.reason
  | some cluster =>
    if decision.shouldPublish then
      match winningCandidate candidates cluster with
      | some (candidateId, winner) => .publish candidateId winner
      | none => .ready "winning_candidate_not_found"
    else .ready decision.reason

/-- Publishing is of a candidate of the source. -/
theorem mem_of_autoOutcome {candidates : List (ℕ × SourceExtractionCandidate)} {candidateId : ℕ}
    {winner : SourceExtractionCandidate}
    (h : autoOutcome candidates = .publish candidateId winner) :
    (candidateId, winner) ∈ candidates := by
  simp only [autoOutcome] at h
  split at h
  next => exact absurd h nofun
  next cluster _ =>
    split at h
    next =>
      split at h
      next hfind =>
        obtain ⟨rfl, rfl⟩ := AutoOutcome.publish.inj h
        exact List.mem_of_find?_eq_some hfind
      next => exact absurd h nofun
    next => exact absurd h nofun

end ScientificProtocol.Sources
