import ScientificProtocol.Indexer.AgentLogs
import ScientificProtocol.Indexer.AppealLogs
import ScientificProtocol.Indexer.ClaimLogs
import ScientificProtocol.Indexer.Getters
import ScientificProtocol.Indexer.MarketLogs

/-!
# The chain the indexer reads

A chain is the protocol as it is deployed and then, block by block, what the transactions
of the block do to it and emit (`ScientificProtocol.Indexer.Chain`). Two things are read
of it: the logs of a range of blocks, and the records its contracts have after some block.

* **The logs keep the promises** that chunks rely on
  (`ScientificProtocol.Indexer.Chain.logSound`).
* **What is not told of stays**: a record that no log of a range of blocks asks for is the
  same before and after them (`ScientificProtocol.Indexer.Chain.same_of_quiet`). A block
  ends with an empty stack, so nothing is still to be told.
-/

namespace ScientificProtocol.Indexer

open Evm

/-! ### What the logs of a stretch promise -/

/-- Words are told apart in the logs they are said by. -/
theorem pairwise_of_words {touches ends : ChainEvent → Option ℕ}
    (hends : ∀ e k, ends e = some k → touches e = some k) {L : List EventLog}
    (h : ((L.map EventLog.event).filterMap (ChainEvent.word? touches ends)).Pairwise
      fun word word' => word.2 = true → word'.1 ≠ word.1) :
    L.Pairwise fun log log' => ∀ k, ends log.event = some k → touches log'.event ≠ some k := by
  rw [List.filterMap_map, List.pairwise_filterMap] at h
  refine h.imp fun {log log'} hwords k hlast htouch => ?_
  refine hwords (k, true) ?_ (k, (ends log'.event).isSome) ?_ rfl rfl
  · simp only [Function.comp_apply, ChainEvent.word?, hends _ _ hlast, hlast, Option.map_some,
      Option.isSome_some]
  · simp only [Function.comp_apply, ChainEvent.word?, htouch, Option.map_some]

/-- **The logs of a stretch keep the promises.** -/
theorem Emits.logSound {D : Deployment} {c c' : Config World Suspended} {L : List EventLog}
    (h : Emits D c (L.map EventLog.event) c') (hc : (protocol D).Reachable c) : LogSound L where
  claims := by
    have hnodup := (h.claims hc).created.nodup
    rwa [List.filterMap_map] at hnodup
  decisions := by
    have hnodup := (h.claims hc).decided.nodup
    rwa [List.filterMap_map] at hnodup
  forecasts := pairwise_of_words
    (fun e k hk => by
      unfold ChainEvent.settledForecastId? at hk
      split at hk
      · exact hk
      · exact absurd hk (by simp))
    (h.epistemicMarket hc).settlements.pairwise
  challenges := pairwise_of_words
    (fun e k hk => by
      unfold ChainEvent.closedChallengeId? at hk
      split at hk
      · exact hk
      · exact hk
      · exact absurd hk (by simp))
    (h.epistemicMarket hc).closures.pairwise
  appeals := pairwise_of_words
    (fun e k hk => by
      unfold ChainEvent.adjudicatedAppealId? at hk
      split at hk
      · exact hk
      · exact absurd hk (by simp))
    (h.appeals hc).adjudications.pairwise

/-! ### Chains -/

/-- **A chain** that is not reorganized: the protocol as it is deployed, and block by block
what the transactions of the block make of it and emit. A chain that has stopped goes on
with empty blocks. -/
structure Chain (D : Deployment) where
  deploymentBlock : ℕ
  /-- The protocol before the block of this index. -/
  world : ℕ → World
  /-- The logs of the block of this index. -/
  events : ℕ → List ChainEvent
  deployed : (protocol D).genesis (world 0)
  block : ∀ n, Emits D ⟨world n, []⟩ (events n) ⟨world (n + 1), []⟩

namespace Chain

variable {D : Deployment} (C : Chain D)

/-- The logs of the blocks from one index up to another. -/
def logs (m n : ℕ) : List EventLog :=
  (List.range' m (n - m)).flatMap fun i => (C.events i).map (EventLog.mk (C.deploymentBlock + i))

variable {C} {m n p : ℕ} {g : Getter}

@[simp] theorem logs_self (n : ℕ) : C.logs n n = [] := by
  rw [logs, Nat.sub_self]
  rfl

theorem logs_append (h : m ≤ n) (h' : n ≤ p) : C.logs m n ++ C.logs n p = C.logs m p := by
  obtain ⟨i, rfl⟩ := Nat.exists_eq_add_of_le h
  obtain ⟨j, rfl⟩ := Nat.exists_eq_add_of_le h'
  rw [logs, logs, logs, ← List.flatMap_append, Nat.add_sub_cancel_left, Nat.add_sub_cancel_left,
    Nat.add_assoc, Nat.add_sub_cancel_left, List.range'_append_1]

theorem logs_succ (n : ℕ) :
    C.logs n (n + 1) = (C.events n).map (EventLog.mk (C.deploymentBlock + n)) := by
  rw [logs, Nat.add_sub_cancel_left]
  exact List.append_nil _

theorem mem_logs_of_mem {log : EventLog} (h : log ∈ C.logs n p) (hm : m ≤ n) (hp : n ≤ p) :
    log ∈ C.logs m p := by
  rw [← logs_append hm hp]
  exact List.mem_append_right _ h

/-- A range of blocks is a stretch of the protocol. -/
theorem emits (C : Chain D) (h : m ≤ n) :
    Emits D ⟨C.world m, []⟩ ((C.logs m n).map EventLog.event) ⟨C.world n, []⟩ := by
  induction n, h using Nat.le_induction with
  | base =>
    rw [logs_self]
    exact .refl _
  | succ n h ih =>
    have hevents : (C.logs n (n + 1)).map EventLog.event = C.events n := by
      rw [logs_succ, List.map_map]
      exact List.map_id _
    rw [← logs_append h (Nat.le_succ n), List.map_append, hevents]
    exact ih.trans (C.block n)

theorem reachable (C : Chain D) (n : ℕ) : (protocol D).Reachable ⟨C.world n, []⟩ :=
  (C.emits (Nat.zero_le n)).reachable (.genesis C.deployed)

theorem logSound (C : Chain D) (h : m ≤ n) : LogSound (C.logs m n) :=
  (C.emits h).logSound (C.reachable m)

/-- A log of a range that says a number. -/
theorem exists_log {idOf : ChainEvent → Option ℕ} {k : ℕ}
    (h : k ∈ ((C.logs m n).map EventLog.event).filterMap idOf) :
    ∃ log ∈ C.logs m n, idOf log.event = some k := by
  rw [List.filterMap_map] at h
  exact List.mem_filterMap.mp h

/-! ### What stays -/

/-- A record that is told of whenever it changes, once nothing is still to be told. -/
theorem eq_of_tells {V : Type} {record record' : ℕ → V} {pending pending' : ℕ → Prop}
    {idOf : ChainEvent → Option ℕ} {k : ℕ}
    (h : Tells record pending (((C.logs m n).map EventLog.event).filterMap idOf) record' pending')
    (hpending : ¬pending' k) (hquiet : ∀ log ∈ C.logs m n, idOf log.event ≠ some k) :
    record' k = record k := by
  rcases h.kept k with heq | hk | hk
  · exact heq
  · exact absurd hk hpending
  · obtain ⟨log, hlog, hid⟩ := exists_log hk
    exact absurd hid (hquiet log hlog)

/-- **A record no log asks for is the same** before and after the blocks, and of a claim what
no log moves. -/
theorem same_of_quiet {L : List EventLog} (hle : m ≤ n)
    (hquiet : ∀ log ∈ C.logs m n, ¬log.event.asks g)
    (hmoved : ∀ log ∈ C.logs m n, ∀ k, log.event.movedClaimId? = some k → log ∈ L) :
    g.Same L (.ofWorld (C.world m)) (.ofWorld (C.world n)) := by
  have hclaims := (C.emits hle).claims (C.reachable m)
  have hmarket := (C.emits hle).epistemicMarket (C.reachable m)
  cases g with
  | getClaim k =>
    refine ⟨(eq_of_tells hclaims.revisions id hquiet).symm, ?_⟩
    by_cases h : ∃ log ∈ C.logs m n, log.event.movedClaimId? = some k
    · obtain ⟨log, hlog, hid⟩ := h
      exact .inr ⟨log, hmoved log hlog k hid, hid⟩
    · refine .inl (eq_of_tells hclaims.statuses id fun log hlog hid => ?_).symm
      rcases Option.or_eq_some_iff.mp hid with hcreated | ⟨-, hid⟩
      · exact hquiet log hlog hcreated
      · exact h ⟨log, hlog, hid⟩
  | getResolutionDecision k =>
    exact congrArg ResolutionDecision.createdAt (eq_of_tells hclaims.decisions id hquiet).symm
  | getAgent k =>
    have hagents := ((C.emits hle).agents (C.reachable m)).agents
    refine Getter.SameRecord.same ?_ L
    exact (eq_of_tells hagents List.not_mem_nil hquiet).symm
  | getForecast k =>
    refine Getter.SameRecord.same ?_ L
    exact (eq_of_tells hmarket.forecasts id hquiet).symm
  | getChallenge k =>
    refine Getter.SameRecord.same ?_ L
    exact (eq_of_tells hmarket.challenges id hquiet).symm
  | getAppeal k =>
    have happeals := ((C.emits hle).appeals (C.reachable m)).appeals
    refine Getter.SameRecord.same ?_ L
    exact (eq_of_tells happeals List.not_mem_nil hquiet).symm

end Chain

end ScientificProtocol.Indexer
