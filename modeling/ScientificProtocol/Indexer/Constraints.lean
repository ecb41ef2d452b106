import ScientificProtocol.Indexer.Sync
import ScientificProtocol.Sql.Constraints

/-!
# What the tables ask of their rows

The migrations give the columns types, and name foreign keys and unique columns:
`001_read_model.sql`, `002_indexer_state.sql`, `003_extension_read_model.sql`,
`027_resolution_decisions.sql` and `030_forecast_effective_decision_at_commit.sql`. A statement
of a chunk that breaks one of them fails, and the chunk is rolled back
(`ScientificProtocol.Indexer.Commits`). The numbers and texts of the chain are wider than the
columns, and a getter answers for the head, so that a snapshot may name what the chunk does
not have: neither is ruled out by the contracts.

Where a column holds a word or an identifier as a text, nothing is asked of it here; neither
is anything of the numbers of an enumeration and of a `uint16`, which fit.
-/

namespace ScientificProtocol.Indexer

open Evm Sql

/-! ### Columns -/

/-- What `INTEGER` holds. -/
def IsInteger (n : ℕ) : Prop := n < 2 ^ 31

/-- What `TEXT` holds: no zero character. -/
def IsText (s : String) : Prop := Char.ofNat 0 ∉ s.toList

instance (n : ℕ) : Decidable (IsInteger n) := inferInstanceAs (Decidable (n < 2 ^ 31))

instance (s : String) : Decidable (IsText s) :=
  inferInstanceAs (Decidable (Char.ofNat 0 ∉ s.toList))

def ClaimView.Fits (row : ClaimView) : Prop :=
  IsInteger row.domainId.toNat ∧ IsInteger row.createdAtBlock

def ArtifactView.Fits (row : ArtifactView) : Prop := IsText row.uri

def ReplicationView.Fits (row : ReplicationView) : Prop := ∀ uri ∈ row.evidenceURI, IsText uri

def CheckpointView.Fits (row : CheckpointView) : Prop :=
  IsInteger row.domainId.toNat ∧ IsText row.uri

def AgentView.Fits (row : AgentView) : Prop := IsText row.uri

def ForecastView.Fits (row : ForecastView) : Prop :=
  IsInteger row.committedAt.toNat ∧ IsInteger row.revealDeadline.toNat

def ChallengeView.Fits (row : ChallengeView) : Prop :=
  IsText row.evidenceURI ∧ IsInteger row.createdAt ∧ ∀ time ∈ row.resolvedAt, IsInteger time

def AppealView.Fits (row : AppealView) : Prop :=
  IsText row.uri ∧ (∀ uri ∈ row.adjudicationURI, IsText uri) ∧ IsInteger row.createdAt ∧
    ∀ time ∈ row.adjudicatedAt, IsInteger time

instance (row : AgentView) : Decidable row.Fits := inferInstanceAs (Decidable (IsText _))

instance (row : ForecastView) : Decidable row.Fits := inferInstanceAs (Decidable (_ ∧ _))

instance (row : ChallengeView) : Decidable row.Fits := inferInstanceAs (Decidable (_ ∧ _ ∧ _))

instance (row : AppealView) : Decidable row.Fits := inferInstanceAs (Decidable (_ ∧ _ ∧ _ ∧ _))

/-- The numbers of a log that are written to `INTEGER`. -/
def EventLog.integers (log : EventLog) : List ℕ :=
  match log.event with
  | .claimRegistry (.claimCreated _ _ domainId _ _ _) => [domainId.toNat, log.blockNumber]
  | .reputationCheckpointRegistry (.reputationCheckpointPublished _ domainId _ _ _ _) =>
    [domainId.toNat]
  | _ => []

/-- The texts of a log that are written to `TEXT`. -/
def EventLog.texts (log : EventLog) : List String :=
  match log.event with
  | .artifactRegistry (.artifactAdded _ _ _ _ uri _) => [uri]
  | .replicationRegistry (.replicationResolved _ _ _ _ _ _ _ _ evidenceURI) => [evidenceURI]
  | .reputationCheckpointRegistry (.reputationCheckpointPublished _ _ _ _ _ uri) => [uri]
  | .appealsRegistry (.appealAdjudicated _ _ _ adjudicationURI _ _ _) => [adjudicationURI]
  | _ => []

/-- What a log says fits the columns it is written to. -/
def EventLog.Fits (log : EventLog) : Prop :=
  (∀ n ∈ log.integers, IsInteger n) ∧ ∀ s ∈ log.texts, IsText s

instance (log : EventLog) : Decidable log.Fits := inferInstanceAs (Decidable (_ ∧ _))

/-- What a getter answers fits the columns it is written to. -/
def Getter.Fits (w : World) : Getter → Prop
  | .getAgent k => (agentSnapshot (.ofWorld w) k).Fits
  | .getForecast k => (forecastSnapshot (.ofWorld w) k).Fits
  | .getChallenge k => (challengeSnapshot (.ofWorld w) k).Fits
  | .getAppeal k => (appealSnapshot (.ofWorld w) k).Fits
  | _ => True

instance (w : World) : DecidablePred (Getter.Fits w)
  | .getAgent k => inferInstanceAs (Decidable (agentSnapshot (.ofWorld w) k).Fits)
  | .getForecast k => inferInstanceAs (Decidable (forecastSnapshot (.ofWorld w) k).Fits)
  | .getChallenge k => inferInstanceAs (Decidable (challengeSnapshot (.ofWorld w) k).Fits)
  | .getAppeal k => inferInstanceAs (Decidable (appealSnapshot (.ofWorld w) k).Fits)
  | .getClaim _ | .getResolutionDecision _ => .isTrue trivial

/-- The decision a forecast is read to be settled by, if any, was made before a block. -/
def Getter.Named (w before : World) : Getter → Prop
  | .getForecast k =>
    (w.epistemicMarket.forecasts k).resolutionDecisionId ≠ 0 →
      (before.claimRegistry.decisions
        (w.epistemicMarket.forecasts k).resolutionDecisionId).decisionId ≠ 0
  | _ => True

instance (w before : World) : DecidablePred (Getter.Named w before)
  | .getForecast k => inferInstanceAs (Decidable
    ((w.epistemicMarket.forecasts k).resolutionDecisionId ≠ 0 →
      (before.claimRegistry.decisions
        (w.epistemicMarket.forecasts k).resolutionDecisionId).decisionId ≠ 0))
  | .getClaim _ | .getResolutionDecision _ | .getAgent _ | .getChallenge _ | .getAppeal _ =>
    .isTrue trivial

/-! ### Keys -/

/-- A foreign key: there is such a row. -/
def Names {κ ρ : Type} (parent : Table κ ρ) (k : κ) : Prop := (parent k).isSome = true

abbrev ClaimsMeet : Table ℕ ClaimView → Prop := Rows fun _ row => row.Fits

abbrev ArtifactsMeet (claims : Table ℕ ClaimView) : Table ℕ ArtifactView → Prop :=
  Rows fun _ row => row.Fits ∧ Names claims row.claimId

abbrev ReplicationsMeet (claims : Table ℕ ClaimView) : Table ℕ ReplicationView → Prop :=
  Rows fun _ row => row.Fits ∧ Names claims row.claimId

/-- The replications of the decisions are unique, and so are the claims of those that are
marked as effective. -/
structure DecisionsMeet (claims : Table ℕ ClaimView) (replications : Table ℕ ReplicationView)
    (t : Table ℕ ResolutionDecisionView) : Prop where
  names : Rows (fun _ row => Names claims row.claimId ∧ Names replications row.replicationId) t
  replicationId_unique : ∀ k k' row row', t k = some row → t k' = some row' →
    row.replicationId = row'.replicationId → k = k'
  one_effective_per_claim : ∀ k k' row row', t k = some row → t k' = some row' →
    row.effective = true → row'.effective = true → row.claimId = row'.claimId → k = k'

abbrev CheckpointsMeet : Table ℕ CheckpointView → Prop := Rows fun _ row => row.Fits

abbrev AgentsMeet : Table ℕ AgentView → Prop := Rows fun _ row => row.Fits

abbrev AgentControllersMeet (agents : Table ℕ AgentView) :
    Table (ℕ × Address) AgentControllerView → Prop :=
  Rows fun _ row => Names agents row.agentId

abbrev ForecastsMeet (claims : Table ℕ ClaimView)
    (resolutionDecisions : Table ℕ ResolutionDecisionView) : Table ℕ ForecastView → Prop :=
  Rows fun _ row => row.Fits ∧ Names claims row.claimId ∧
    (∀ d ∈ row.effectiveDecisionIdAtCommit, Names resolutionDecisions d) ∧
    ∀ d ∈ row.resolutionDecisionId, Names resolutionDecisions d

abbrev ChallengesMeet (claims : Table ℕ ClaimView) : Table ℕ ChallengeView → Prop :=
  Rows fun _ row => row.Fits ∧ Names claims row.claimId

abbrev AppealsMeet (claims : Table ℕ ClaimView) : Table ℕ AppealView → Prop :=
  Rows fun _ row => row.Fits ∧ Names claims row.claimId

/-- The constraints hold of the tables. -/
structure Tables.Lawful (t : Tables) : Prop where
  claims : ClaimsMeet t.claims
  artifacts : ArtifactsMeet t.claims t.artifacts
  replications : ReplicationsMeet t.claims t.replications
  resolutionDecisions : DecisionsMeet t.claims t.replications t.resolutionDecisions
  checkpoints : CheckpointsMeet t.checkpoints
  agents : AgentsMeet t.agents
  agentControllers : AgentControllersMeet t.agents t.agentControllers
  forecasts : ForecastsMeet t.claims t.resolutionDecisions t.forecasts
  challenges : ChallengesMeet t.claims t.challenges
  appeals : AppealsMeet t.claims t.appeals

theorem lawful_empty : Tables.empty.Lawful where
  claims := .empty _
  artifacts := .empty _
  replications := .empty _
  resolutionDecisions := ⟨.empty _, fun _ _ _ _ h => absurd h (by simp [Tables.empty]),
    fun _ _ _ _ h => absurd h (by simp [Tables.empty])⟩
  checkpoints := .empty _
  agents := .empty _
  agentControllers := .empty _
  forecasts := .empty _
  challenges := .empty _
  appeals := .empty _

/-! ### The transaction -/

/-- **The transaction of a chunk commits**: every row it changes is there, and no statement of
it breaks a constraint. The tables a foreign key refers to are written before the ones that
have it, and the last block of the chunk is written as the new cursor. -/
structure Commits (lastBlock : ℕ) (r : Reads) (events : ChunkEvents) (t t' : Tables) : Prop where
  rows : applyChunk r events t = .ok t'
  claims : (claimsBatch r events).Keeps ClaimsMeet t.claims
  artifacts : (artifactsBatch events).Keeps (ArtifactsMeet t'.claims) t.artifacts
  replications : (replicationsBatch events).Keeps (ReplicationsMeet t'.claims) t.replications
  resolutionDecisions : (resolutionDecisionsBatch r events).Keeps
    (DecisionsMeet t'.claims t'.replications) t.resolutionDecisions
  checkpoints : (checkpointsBatch events).Keeps CheckpointsMeet t.checkpoints
  agents : (agentsBatch r events).Keeps AgentsMeet t.agents
  agentControllers : (agentControllersBatch events).Keeps (AgentControllersMeet t'.agents)
    t.agentControllers
  forecasts : (forecastsBatch r events).Keeps
    (ForecastsMeet t'.claims t'.resolutionDecisions) t.forecasts
  challenges : (challengesBatch r events).Keeps (ChallengesMeet t'.claims) t.challenges
  appeals : (appealsBatch r events).Keeps (AppealsMeet t'.claims) t.appeals
  cursor : IsInteger lastBlock

/-- What has been committed is lawful. -/
theorem Commits.lawful {lastBlock : ℕ} {r : Reads} {events : ChunkEvents} {t t' : Tables}
    (h : Commits lastBlock r events t t') : t'.Lawful := by
  obtain ⟨h₁, h₂, h₃, h₄, h₅, h₆, h₇, h₈, h₉, h₁₀⟩ := applyChunk_eq_ok.mp h.rows
  exact
    { claims := h.claims.run h₁
      artifacts := h.artifacts.run h₂
      replications := h.replications.run h₃
      resolutionDecisions := h.resolutionDecisions.run h₄
      checkpoints := h.checkpoints.run h₅
      agents := h.agents.run h₆
      agentControllers := h.agentControllers.run h₇
      forecasts := h.forecasts.run h₈
      challenges := h.challenges.run h₉
      appeals := h.appeals.run h₁₀ }

namespace Sync

variable {D : Deployment} {C : Chain D} {s : Sync}

/-- **What the indexer can come to on a database with the constraints.** -/
inductive Committed (C : Chain D) : Sync → Prop
  | start : Committed C .start
  | grow {s : Sync} {head : ℕ} : Committed C s → s.head ≤ head → Committed C { s with head }
  | chunk {s : Sync} {toBlock head : ℕ} {answeredAt : Getter → ℕ} {r : Reads} {t : Tables} :
      Committed C s → s.cursor < toBlock → toBlock ≤ s.head →
      (∀ g, s.head ≤ answeredAt g ∧ answeredAt g ≤ head) → s.head ≤ head →
      C.ask answeredAt (getters (queryFilter (C.logs s.cursor toBlock))) = .ok r →
      Commits (C.deploymentBlock + toBlock - 1) r (queryFilter (C.logs s.cursor toBlock)) s.tables
        t → Committed C ⟨toBlock, head, t⟩

/-- Constraints only make chunks fail. -/
theorem Committed.reachable (h : Committed C s) : Reachable C s := by
  induction h with
  | start => exact .refl
  | grow _ hhead ih => exact ih.tail (.grow hhead)
  | chunk _ hcursor hto hanswered hhead hask hcommits ih =>
    refine ih.tail (.chunk hcursor hto hanswered hhead ?_)
    rw [Chain.chunk, hask]
    exact hcommits.rows

theorem Committed.lawful (h : Committed C s) : s.tables.Lawful := by
  induction h with
  | start => exact lawful_empty
  | grow _ _ ih => exact ih
  | chunk _ _ _ _ _ _ hcommits => exact hcommits.lawful

end Sync

end ScientificProtocol.Indexer
