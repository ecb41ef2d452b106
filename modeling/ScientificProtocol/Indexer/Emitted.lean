import ScientificProtocol.Evm.Emits
import ScientificProtocol.Indexer.Events
import ScientificProtocol.System.World

/-!
# The logs the protocol emits

What a step of the protocol adds to the logs of the seven contracts the indexer reads, and
how the words that are said of the records of one contract are found in it. A word is said
by one contract alone, so a lemma about the logs of that contract is a lemma about all of
them.
-/

namespace ScientificProtocol.Indexer

open Evm

/-- The logs that have been added between two states. -/
def emitted (w w' : World) : List ChainEvent :=
  (w'.claimRegistry.logs.drop w.claimRegistry.logs.length).map .claimRegistry ++
    (w'.artifactRegistry.logs.drop w.artifactRegistry.logs.length).map .artifactRegistry ++
    (w'.replicationRegistry.logs.drop w.replicationRegistry.logs.length).map
      .replicationRegistry ++
    (w'.agentRegistry.logs.drop w.agentRegistry.logs.length).map .agentRegistry ++
    (w'.reputationCheckpointRegistry.logs.drop w.reputationCheckpointRegistry.logs.length).map
      .reputationCheckpointRegistry ++
    (w'.epistemicMarket.logs.drop w.epistemicMarket.logs.length).map .epistemicMarket ++
    (w'.appealsRegistry.logs.drop w.appealsRegistry.logs.length).map .appealsRegistry

/-- A stretch of the protocol, with the logs it adds. -/
abbrev Emits (D : Deployment) : Config World Suspended → List ChainEvent →
    Config World Suspended → Prop :=
  (protocol D).Emits emitted

/-- What an event says of the records of one kind: of which, and whether it ends it. -/
def ChainEvent.word? (touches ends : ChainEvent → Option ℕ) (e : ChainEvent) :
    Option (ℕ × Bool) :=
  (touches e).map fun k => (k, (ends e).isSome)

theorem map_fst_filterMap_word? (touches ends : ChainEvent → Option ℕ) (events : List ChainEvent) :
    (events.filterMap (ChainEvent.word? touches ends)).map Prod.fst =
      events.filterMap touches := by
  rw [List.map_filterMap]
  congr 1
  ext e : 1
  rw [ChainEvent.word?, Option.map_map]
  cases touches e <;> rfl

/-- The claim whose status the event sets. -/
def ChainEvent.statusClaimId? (e : ChainEvent) : Option ℕ :=
  e.createdClaimId?.or e.movedClaimId?

section

variable {α : Type} {w w' : World} {f : ChainEvent → Option α}

theorem filterMap_emitted (f : ChainEvent → Option α) (w w' : World) :
    (emitted w w').filterMap f =
      (w'.claimRegistry.logs.drop w.claimRegistry.logs.length).filterMap (f ∘ .claimRegistry) ++
      (w'.artifactRegistry.logs.drop w.artifactRegistry.logs.length).filterMap
        (f ∘ .artifactRegistry) ++
      (w'.replicationRegistry.logs.drop w.replicationRegistry.logs.length).filterMap
        (f ∘ .replicationRegistry) ++
      (w'.agentRegistry.logs.drop w.agentRegistry.logs.length).filterMap (f ∘ .agentRegistry) ++
      (w'.reputationCheckpointRegistry.logs.drop
        w.reputationCheckpointRegistry.logs.length).filterMap
        (f ∘ .reputationCheckpointRegistry) ++
      (w'.epistemicMarket.logs.drop w.epistemicMarket.logs.length).filterMap
        (f ∘ .epistemicMarket) ++
      (w'.appealsRegistry.logs.drop w.appealsRegistry.logs.length).filterMap
        (f ∘ .appealsRegistry) := by
  simp only [emitted, List.filterMap_append, List.filterMap_map]

theorem eq_none_of_said {γ : Type} {said : γ → ChainEvent}
    (hf : ∀ e, f e ≠ none → ∃ event, e = said event) {e : ChainEvent}
    (hne : ∀ event, e ≠ said event) : f e = none :=
  by_contra fun hsaid => Exists.elim (hf e hsaid) hne

/-- What only the claim registry says. -/
theorem filterMap_emitted_claimRegistry {new : List ClaimRegistry.Event}
    (hlogs : w'.claimRegistry.logs = w.claimRegistry.logs ++ new)
    (hf : ∀ e, f e ≠ none → ∃ event, e = .claimRegistry event) :
    (emitted w w').filterMap f = new.filterMap (f ∘ .claimRegistry) := by
  rw [filterMap_emitted, hlogs, List.drop_left]
  simp [eq_none_of_said hf]

/-- What only the agent registry says. -/
theorem filterMap_emitted_agentRegistry {new : List AgentRegistry.Event}
    (hlogs : w'.agentRegistry.logs = w.agentRegistry.logs ++ new)
    (hf : ∀ e, f e ≠ none → ∃ event, e = .agentRegistry event) :
    (emitted w w').filterMap f = new.filterMap (f ∘ .agentRegistry) := by
  rw [filterMap_emitted, hlogs, List.drop_left]
  simp [eq_none_of_said hf]

/-- What only the market says. -/
theorem filterMap_emitted_epistemicMarket {new : List EpistemicMarket.Event}
    (hlogs : w'.epistemicMarket.logs = w.epistemicMarket.logs ++ new)
    (hf : ∀ e, f e ≠ none → ∃ event, e = .epistemicMarket event) :
    (emitted w w').filterMap f = new.filterMap (f ∘ .epistemicMarket) := by
  rw [filterMap_emitted, hlogs, List.drop_left]
  simp [eq_none_of_said hf]

/-- What only the appeals registry says. -/
theorem filterMap_emitted_appealsRegistry (new : List AppealsRegistry.Event)
    (hlogs : w'.appealsRegistry.logs = w.appealsRegistry.logs ++ new)
    (hf : ∀ e, f e ≠ none → ∃ event, e = .appealsRegistry event) :
    (emitted w w').filterMap f = new.filterMap (f ∘ .appealsRegistry) := by
  rw [filterMap_emitted, hlogs, List.drop_left]
  simp [eq_none_of_said hf]

end

end ScientificProtocol.Indexer
