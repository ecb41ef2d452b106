import ScientificProtocol.Indexer.Records
import ScientificProtocol.Appeals.Conservation
import ScientificProtocol.Claims.History
import ScientificProtocol.Market.Solvency

/-!
# What a record is about

Artifacts, replications, forecasts, challenges and appeals are about a claim, and a forecast
may have been committed on a decision. The contracts look both up when they make the record,
and never rewrite them: **what a record names was there before the record, and stays**
(`ScientificProtocol.Indexer.founded_of_reachable`), and **the record names it ever after**
(`ScientificProtocol.Indexer.Emits.reference`). The foreign keys of the read model rest on
this.
-/

namespace ScientificProtocol.Indexer

open Evm

/-- The records that are about a claim. -/
inductive RecordKind where
  | artifact
  | replication
  | forecast
  | challenge
  | appeal

/-- The number of a record, and what it names. -/
structure Reference where
  recordId : ℕ
  claimId : ℕ
  /-- The decision it was committed on, or zero. -/
  decisionId : ℕ

namespace Reference

def ofArtifact (record : ArtifactCommitment) : Reference := ⟨record.artifactId, record.claimId, 0⟩

def ofReplication (record : ReplicationRecord) : Reference :=
  ⟨record.replicationId, record.claimId, 0⟩

def ofForecast (record : ForecastCommitment) : Reference :=
  ⟨record.forecastId, record.claimId, record.effectiveDecisionIdAtCommit⟩

def ofChallenge (record : ChallengeBond) : Reference := ⟨record.challengeId, record.claimId, 0⟩

def ofAppeal (record : AppealRecord) : Reference := ⟨record.appealId, record.claimId, 0⟩

/-- What is named is there. -/
structure Founded (x : Reference) (w : World) : Prop where
  claim : (w.claimRegistry.claims x.claimId).claimId ≠ 0
  decision : x.decisionId ≠ 0 → (w.claimRegistry.decisions x.decisionId).decisionId ≠ 0

/-- A record names what it has named, or is new and names what is there. -/
def Moves (w : World) (x x' : Reference) : Prop := x' = x ∨ x.recordId = 0 ∧ x'.Founded w

variable {w w' : World} {x : Reference}

theorem Founded.extend (h : x.Founded w) (hextends : HistoryExtends w w') : x.Founded w' where
  claim := (hextends.status x.claimId h.claim).1
  decision hd := by
    rw [hextends.decision x.decisionId (h.decision hd)]
    exact h.decision hd

/-- A table of records of which one is written. -/
theorem moves_set {V : Type} [Inhabited V] (view : V → Reference) {m : Mapping ℕ V} {k : ℕ}
    {v : V} (h : Moves w (view (m k)) (view v)) (k' : ℕ) :
    Moves w (view (m k')) (view (m.set k v k')) := by
  rw [Mapping.set_apply]
  split
  next hk => exact hk ▸ h
  next => exact .inl rfl

/-- A record of which only the claim is named. -/
theorem moves_new {recordId claimId : ℕ} (hblank : x.recordId = 0)
    (hclaim : (w.claimRegistry.claims claimId).claimId ≠ 0) :
    Moves w x ⟨recordId, claimId, 0⟩ :=
  .inr ⟨hblank, hclaim, fun hd => absurd rfl hd⟩

end Reference

open Reference

/-- What a record names. -/
def reference (w : World) : RecordKind → ℕ → Reference
  | .artifact, k => .ofArtifact (w.artifactRegistry.artifacts k)
  | .replication, k => .ofReplication (w.replicationRegistry.replications k)
  | .forecast, k => .ofForecast (w.epistemicMarket.forecasts k)
  | .challenge, k => .ofChallenge (w.epistemicMarket.challenges k)
  | .appeal, k => .ofAppeal (w.appealsRegistry.appeals k)

section

variable {D : Deployment} {c c' : Config World Suspended} {a : Action Message Suspended}
  {w' : World} {events : List ChainEvent}

theorem reference_artifact (hc : (protocol D).Reachable c)
    (h : (protocol D).Effect a c.world w') (k : ℕ) :
    Moves c.world (reference c.world .artifact k) (reference w' .artifact k) := by
  have hindexed := (records_indexed hc).1
  cases World.step_of_effect h with
  | @artifactRegistry _ _ call s _ hexec =>
    simp only [ArtifactRegistry.exec, bind_eq_ok, Ctx.nonPayable_eq_ok] at hexec
    obtain ⟨-, -, hexec⟩ := hexec
    cases call with
    | addArtifact =>
      obtain ⟨⟨id, s⟩, hrun, rfl⟩ := map_eq_ok.mp hexec
      simp only [ArtifactRegistry.addArtifact, bind_eq_ok, revertIf_eq_ok, checkedAdd_eq_ok,
        pure_eq_ok, Except.ok.injEq, Prod.mk.injEq, ClaimRegistry.claimExists, decide_eq_true_eq,
        not_not] at hrun
      obtain ⟨-, hclaim, next, ⟨-, rfl⟩, -, rfl⟩ := hrun
      refine moves_set ofArtifact (moves_new ?_ hclaim) k
      rw [hindexed.blank_next]
      rfl
  | resume p w => cases p <;> exact .inl rfl
  | _ => exact .inl rfl

theorem reference_replication (hc : (protocol D).Reachable c)
    (h : (protocol D).Effect a c.world w') (k : ℕ) :
    Moves c.world (reference c.world .replication k) (reference w' .replication k) := by
  simp only [reference]
  rcases (World.step_of_effect h).replicationRegistry_cases with heq | ⟨m, call, -, -, hstep⟩
  · exact .inl (by rw [heq])
  · generalize w'.replicationRegistry = s at hstep ⊢
    cases hstep with
    | submitReplication hclaim =>
      refine moves_set ofReplication (moves_new ?_ hclaim) k
      rw [(registries_indexed hc).2.replications.blank_next]
      rfl
    | resolveReplicationOutcome =>
      refine moves_set ofReplication ?_ k
      exact .inl rfl

theorem reference_forecast (hc : (protocol D).Reachable c)
    (h : (protocol D).Effect a c.world w') (k : ℕ) :
    Moves c.world (reference c.world .forecast k) (reference w' .forecast k) := by
  simp only [reference]
  rcases (World.step_of_effect h).epistemicMarket_cases with
    ⟨-, heq⟩ | ⟨m, call, -, -, hmarket, -⟩ | ⟨p, -, heq⟩
  · exact .inl (by rw [heq])
  · generalize w'.epistemicMarket = s at hmarket ⊢
    cases hmarket with
    | fundRewardPool | openChallenge | withdrawChallenge | resolveChallenge | withdrawPayout
    | setDepositsPaused => exact .inl rfl
    | @commitForecast claimId _ _ _ _ _ hclaim =>
      refine moves_set ofForecast (.inr ⟨?_, hclaim, fun hd => ?_⟩) k
      · rw [(EpistemicMarket.indexed_of_reachable hc).forecasts.blank_next]
        rfl
      · exact (effectiveAgrees_of_reachable hc claimId).decision_exists hd
    | revealForecast | settleForecast | forfeitUnrevealedForecast | reclaimForecast =>
      refine moves_set ofForecast ?_ k
      exact .inl rfl
  · exact .inl (by rw [heq]; rfl)

theorem reference_challenge (hc : (protocol D).Reachable c)
    (h : (protocol D).Effect a c.world w') (k : ℕ) :
    Moves c.world (reference c.world .challenge k) (reference w' .challenge k) := by
  simp only [reference]
  rcases (World.step_of_effect h).epistemicMarket_cases with
    ⟨-, heq⟩ | ⟨m, call, -, -, hmarket, -⟩ | ⟨p, -, heq⟩
  · exact .inl (by rw [heq])
  · generalize w'.epistemicMarket = s at hmarket ⊢
    cases hmarket with
    | fundRewardPool | commitForecast | revealForecast | settleForecast
    | forfeitUnrevealedForecast | reclaimForecast | withdrawPayout | setDepositsPaused =>
      exact .inl rfl
    | openChallenge _ hclaim =>
      refine moves_set ofChallenge (moves_new ?_ hclaim) k
      rw [(EpistemicMarket.indexed_of_reachable hc).challenges.blank_next]
      rfl
    | withdrawChallenge | resolveChallenge =>
      refine moves_set ofChallenge ?_ k
      exact .inl rfl
  · exact .inl (by rw [heq]; rfl)

theorem reference_appeal (hc : (protocol D).Reachable c)
    (h : (protocol D).Effect a c.world w') (k : ℕ) :
    Moves c.world (reference c.world .appeal k) (reference w' .appeal k) := by
  simp only [reference]
  rcases (World.step_of_effect h).appealsRegistry_cases with
    ⟨-, heq⟩ | ⟨m, call, o, -, -, -, hstep, heq⟩ | ⟨p, -, heq⟩
  · exact .inl (by rw [heq])
  · rw [heq]
    cases hstep with
    | fileAppeal _ hclaim =>
      have hexists := of_decide_eq_true hclaim
      refine moves_set ofAppeal (moves_new ?_ hexists) k
      rw [(AppealsRegistry.conserved_of_reachable hc).numbered.blank_next]
      rfl
    | forfeitBond | creditBond =>
      refine moves_set ofAppeal ?_ k
      exact .inl rfl
    | withdrawRefundedBond | setDepositsPaused => exact .inl rfl
  · exact .inl (by rw [heq]; cases p <;> rfl)

/-- **What a step does to what a record names.** -/
theorem reference_of_effect (hc : (protocol D).Reachable c)
    (h : (protocol D).Effect a c.world w') (kind : RecordKind) (k : ℕ) :
    Moves c.world (reference c.world kind k) (reference w' kind k) := by
  cases kind with
  | artifact => exact reference_artifact hc h k
  | replication => exact reference_replication hc h k
  | forecast => exact reference_forecast hc h k
  | challenge => exact reference_challenge hc h k
  | appeal => exact reference_appeal hc h k

/-- **What a record names is there.** -/
theorem founded_of_reachable (hc : (protocol D).Reachable c) (kind : RecordKind) (k : ℕ)
    (hk : (reference c.world kind k).recordId ≠ 0) :
    (reference c.world kind k).Founded c.world := by
  refine hc.invariant (I := fun w => ∀ kind k, (reference w kind k).recordId ≠ 0 →
    (reference w kind k).Founded w) ?_ (fun {c a w'} hc hI heffect kind k hk => ?_) kind k hk
  · rintro _ ⟨now, hasRole, -, -, rfl⟩ kind k hk
    cases kind <;> exact absurd rfl hk
  · have hextends := historyExtends_of_effect hc heffect
    rcases reference_of_effect hc heffect kind k with heq | ⟨-, hfounded⟩
    · rw [heq] at hk ⊢
      exact (hI kind k hk).extend hextends
    · exact hfounded.extend hextends

/-- **A record names the same ever after.** -/
theorem Emits.reference (h : Emits D c events c') (hc : (protocol D).Reachable c)
    (kind : RecordKind) (k : ℕ) (hk : (reference c.world kind k).recordId ≠ 0) :
    reference c'.world kind k = reference c.world kind k :=
  h.relation (Q := fun c _ c' => ∀ kind k, (Indexer.reference c.world kind k).recordId ≠ 0 →
      Indexer.reference c'.world kind k = Indexer.reference c.world kind k)
    (fun _ _ _ _ => rfl)
    (fun h h' kind k hk => (h' kind k ((h kind k hk).symm ▸ hk)).trans (h kind k hk))
    (fun hc hfwd kind k hk => (reference_of_effect hc hfwd.effect kind k).resolve_right
      fun hnew => hk hnew.1) hc kind k hk

end

end ScientificProtocol.Indexer
