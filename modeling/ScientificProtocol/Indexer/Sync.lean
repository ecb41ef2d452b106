import ScientificProtocol.Indexer.Chain
import ScientificProtocol.Indexer.Merging
import Mathlib.Logic.Relation

/-!
# The run of the indexer

`syncReadModel` of `src/indexer/projector.ts`, from the cursor on: range of blocks by range
of blocks the logs are fetched, the getters the logs ask for are called, and the rows are
written together with the new cursor. The chain goes on in the meantime. The getters answer
for the head of the chain and not for the blocks of the chunk, each for the head at the
moment of its call (`ScientificProtocol.Indexer.Chain.ask`), so that a row can be ahead of
the cursor. A process that is stopped between two commits leaves what the last one wrote;
another one, with whatever sizes of chunks, goes on from there.

**A caught-up read model is a function of the chain**
(`ScientificProtocol.Indexer.Sync.tables_eq`): once the blocks after the cursor are empty,
the tables are those that one chunk with all the logs makes of an empty read model, if its
getters answer for the cursor. How the blocks were cut into chunks, which of them were read
while the chain went on, and where a process was stopped cannot be seen in them.
-/

namespace ScientificProtocol.Indexer

open Evm Sql

/-- The cursor and the tables, with the head of the chain. The cursor counts the blocks that
are indexed, from the deployment on. -/
structure Sync where
  cursor : ℕ
  head : ℕ
  tables : Tables

/-- The read model before the first chunk. -/
def Sync.start : Sync := ⟨0, 0, .empty⟩

namespace Chain

variable {D : Deployment} (C : Chain D)

/-- Calling getters one after the other, each for a block of its own. -/
def ask (answeredAt : Getter → ℕ) (asked : List Getter) : Tx Revert Reads :=
  asked.foldlM (fun r g => g.read (C.world (answeredAt g)) r) default

/-- `applyChunk` for a range of blocks: a getter that reverts stops it, and so does a row
that is not there. -/
def chunk (answeredAt : Getter → ℕ) (m n : ℕ) (t : Tables) : Except String Tables :=
  match C.ask answeredAt (getters (queryFilter (C.logs m n))) with
  | .ok r => applyChunk r (queryFilter (C.logs m n)) t
  | .error _ => .error "missing revert data"

end Chain

namespace Sync

variable {D : Deployment} (C : Chain D)

/-- What happens: the chain goes on, or a chunk is indexed while it does. -/
inductive Step : Sync → Sync → Prop
  | grow {s : Sync} {head : ℕ} : s.head ≤ head → Step s { s with head }
  /-- The chunk ends at the head or before it, the head the getters answer for is at least
  that, and the transaction commits. -/
  | chunk {s : Sync} {toBlock head : ℕ} {answeredAt : Getter → ℕ} {t : Tables} :
      s.cursor < toBlock → toBlock ≤ s.head →
      (∀ g, s.head ≤ answeredAt g ∧ answeredAt g ≤ head) → s.head ≤ head →
      C.chunk answeredAt s.cursor toBlock s.tables = .ok t → Step s ⟨toBlock, head, t⟩

/-- What the indexer can come to. -/
def Reachable (s : Sync) : Prop := Relation.ReflTransGen (Step C) .start s

end Sync

/-! ### What a chunk reads -/

section

variable {D : Deployment} {C : Chain D} {answeredAt : Getter → ℕ} {m n : ℕ}

/-- Every getter that is called is answered. -/
theorem Chain.sameRecord_of_ask {asked : List Getter} {r r' : Reads}
    (h : asked.foldlM (fun r g => g.read (C.world (answeredAt g)) r) r = .ok r') {g : Getter}
    (hg : g ∈ asked ∨ g.SameRecord r (.ofWorld (C.world (answeredAt g)))) :
    g.SameRecord r' (.ofWorld (C.world (answeredAt g))) := by
  induction asked generalizing r with
  | nil =>
    obtain rfl := Except.ok.inj h
    exact hg.resolve_left List.not_mem_nil
  | cons g' asked ih =>
    obtain ⟨r₁, hread, hrest⟩ := bind_eq_ok.mp h
    refine ih hrest ?_
    by_cases heq : g = g'
    · subst heq
      exact .inr (Getter.sameRecord_of_read hread)
    · rcases hg with hmem | hsame
      · exact .inl (List.mem_of_ne_of_mem heq hmem)
      · exact .inr ((Getter.sameRecord_of_read_of_ne hread heq).trans hsame)

/-- What a chunk that succeeds has read, and what it has made of it. -/
theorem Chain.exists_reads {t t' : Tables} (h : C.chunk answeredAt m n t = .ok t') :
    ∃ r, applyChunk r (queryFilter (C.logs m n)) t = .ok t' ∧
      ∀ g, (∃ log ∈ C.logs m n, log.event.asks g) →
        g.SameRecord r (.ofWorld (C.world (answeredAt g))) := by
  unfold Chain.chunk at h
  split at h
  next r hask =>
    exact ⟨r, h, fun g hg => Chain.sameRecord_of_ask hask (.inl (mem_getters.mpr hg))⟩
  next => exact absurd h (by simp)

end

/-! ### What the rows have been read from -/

/-- What a forecast was committed on stays. -/
theorem Chain.commitment_later {D : Deployment} (C : Chain D) {i j k : ℕ} (hle : i ≤ j) :
    ((C.world i).epistemicMarket.forecasts k).effectiveDecisionIdAtCommit ≠ 0 →
      ((C.world j).epistemicMarket.forecasts k).effectiveDecisionIdAtCommit =
        ((C.world i).epistemicMarket.forecasts k).effectiveDecisionIdAtCommit :=
  ((C.emits hle).epistemicMarket (C.reachable i)).commitments k

/-- A decision that a forecast was settled by stays. -/
theorem Chain.resolution_later {D : Deployment} (C : Chain D) {i j k : ℕ} (hle : i ≤ j)
    (h : ((C.world i).epistemicMarket.forecasts k).resolutionDecisionId ≠ 0) :
    ((C.world j).epistemicMarket.forecasts k).resolutionDecisionId =
      ((C.world i).epistemicMarket.forecasts k).resolutionDecisionId := by
  have hmarket := (C.emits hle).epistemicMarket (C.reachable i)
  have hsettled : ((C.world i).epistemicMarket.forecasts k).settled = true := by
    by_contra hnot
    exact h ((EpistemicMarket.staked_of_reachable (C.reachable i) k).unnamed
      (Bool.eq_false_of_not_eq_true hnot))
  refine congrArg ForecastCommitment.resolutionDecisionId ?_
  refine Chain.eq_of_tells (C := C) hmarket.forecasts id fun log hlog hid => ?_
  -- Nothing is said of a forecast that is settled.
  refine hmarket.settlements.alive (k, (log.event.settledForecastId?).isSome) ?_ hsettled
  rw [List.filterMap_map]
  refine List.mem_filterMap.mpr ⟨log, hlog, ?_⟩
  simp only [Function.comp_apply, ChainEvent.word?, hid, Option.map_some]

namespace Sync

variable {D : Deployment} {C : Chain D} {s s' : Sync}

/-- **What the tables are**: what one chunk makes of all the logs up to the cursor, if each
getter answers for some block between the cursor and the head. -/
structure Indexed (C : Chain D) (s : Sync) : Prop where
  le : s.cursor ≤ s.head
  rows : ∃ r, applyChunk r (queryFilter (C.logs 0 s.cursor)) .empty = .ok s.tables ∧
    ∀ g, (∃ log ∈ C.logs 0 s.cursor, log.event.asks g) →
      ∃ j, s.cursor ≤ j ∧ j ≤ s.head ∧ g.Same (C.logs 0 s.cursor) r (.ofWorld (C.world j))

theorem indexed_start (C : Chain D) : Indexed C .start where
  le := le_rfl
  rows := ⟨default, by rw [start, Chain.logs_self]; rfl, fun g hg => by
    obtain ⟨log, hlog, -⟩ := hg
    rw [start, Chain.logs_self] at hlog
    exact absurd hlog List.not_mem_nil⟩

theorem nullIfZero_injective : Function.Injective nullIfZero := by
  intro value value' h
  unfold nullIfZero at h
  grind

/-- **The reads of the merged chunk** are answers of one block, if those of the two chunks
are and the second chunk was read later. -/
theorem same_followed {m n i j : ℕ} {r₁ r₂ : Reads} {g : Getter} (hi : i ≤ j)
    (hasked : ∃ log ∈ C.logs m n, log.event.asks g)
    (h₁ : (∃ log ∈ C.logs 0 m, log.event.asks g) →
      g.Same (C.logs 0 m) r₁ (.ofWorld (C.world i)))
    (h₂ : g.SameRecord r₂ (.ofWorld (C.world j))) :
    g.SameRecord (r₁.followed r₂ (C.logs 0 m) (C.logs m n)) (.ofWorld (C.world j)) := by
  cases g with
  | getClaim k => exact (if_pos hasked).trans h₂
  | getResolutionDecision k => exact (if_pos hasked).trans h₂
  | getAgent k => exact (if_pos (mem_touchedAgentIds.mpr hasked)).trans h₂
  | getChallenge k => exact (if_pos (mem_touchedChallengeIds.mpr hasked)).trans h₂
  | getAppeal k => exact (if_pos (mem_touchedAppealIds.mpr hasked)).trans h₂
  | getForecast k =>
    refine (if_pos (mem_touchedForecastIds.mpr hasked)).trans ?_
    by_cases hL : k ∈ touchedForecastIds (queryFilter (C.logs 0 m))
    -- The decisions of the earlier snapshot are kept, and are those of the later one.
    · rw [if_pos hL]
      have hsame : forecastSnapshot r₁ k = forecastSnapshot (.ofWorld (C.world i)) k :=
        h₁ (mem_touchedForecastIds.mp hL)
      have hcommitted : (r₁.getForecast k).effectiveDecisionIdAtCommit =
          ((C.world i).epistemicMarket.forecasts k).effectiveDecisionIdAtCommit :=
        nullIfZero_injective (congrArg ForecastView.effectiveDecisionIdAtCommit hsame)
      have hresolved : (r₁.getForecast k).resolutionDecisionId =
          ((C.world i).epistemicMarket.forecasts k).resolutionDecisionId :=
        nullIfZero_injective (congrArg ForecastView.resolutionDecisionId hsame)
      have hread : r₂.getForecast k = (C.world j).epistemicMarket.forecasts k := h₂
      rw [hcommitted, hresolved, hread]
      have hkept : ∀ {value later : ℕ}, (value ≠ 0 → later = value) →
          (if value = 0 then later else value) = later := by
        intro value later h
        split
        next => rfl
        next hne => exact (h hne).symm
      rw [hkept (C.commitment_later (k := k) hi), hkept (C.resolution_later (k := k) hi)]
      rfl
    · exact (if_neg hL).trans h₂

/-- What the second chunk does not ask is what the first one has read. -/
theorem followed_of_not_asked {m n : ℕ} {r₁ r₂ : Reads} {g : Getter}
    (hasked : ¬∃ log ∈ C.logs m n, log.event.asks g) :
    g.SameRecord (r₁.followed r₂ (C.logs 0 m) (C.logs m n)) r₁ := by
  cases g with
  | getClaim k => exact if_neg hasked
  | getResolutionDecision k => exact if_neg hasked
  | getAgent k => exact if_neg fun h => hasked (mem_touchedAgentIds.mp h)
  | getForecast k => exact if_neg fun h => hasked (mem_touchedForecastIds.mp h)
  | getChallenge k => exact if_neg fun h => hasked (mem_touchedChallengeIds.mp h)
  | getAppeal k => exact if_neg fun h => hasked (mem_touchedAppealIds.mp h)

/-- **What a step does to the tables.** -/
theorem Step.indexed (h : Step C s s') (hs : Indexed C s) : Indexed C s' := by
  obtain ⟨hle, r₁, hrun₁, hreads₁⟩ := hs
  cases h with
  | @grow head hhead =>
    refine ⟨hle.trans hhead, r₁, hrun₁, fun g hg => ?_⟩
    obtain ⟨j, hcursor, hj, hsame⟩ := hreads₁ g hg
    exact ⟨j, hcursor, hj.trans hhead, hsame⟩
  | @chunk toBlock head answeredAt t hcursor hto hanswered hhead hchunk =>
    obtain ⟨r₂, hrun₂, hreads₂⟩ := Chain.exists_reads hchunk
    have happend := C.logs_append (Nat.zero_le s.cursor) hcursor.le
    have hsound : LogSound (C.logs 0 s.cursor ++ C.logs s.cursor toBlock) :=
      happend ▸ C.logSound (Nat.zero_le _)
    have hrun := applyChunk_append hsound hrun₁ hrun₂
    refine ⟨hto.trans hhead, _, happend ▸ hrun, fun g hg => ?_⟩
    rw [← happend] at hg ⊢
    by_cases hasked : ∃ log ∈ C.logs s.cursor toBlock, log.event.asks g
    -- The getter was called again, for a head that is not before the first one.
    · obtain ⟨hmin, hmax⟩ := hanswered g
      refine ⟨answeredAt g, hto.trans hmin, hmax, ?_⟩
      by_cases hfirst : ∃ log ∈ C.logs 0 s.cursor, log.event.asks g
      · obtain ⟨i, -, hi, hsame⟩ := hreads₁ g hfirst
        exact (same_followed (hi.trans hmin) hasked (fun _ => hsame) (hreads₂ g hasked)).same _
      · exact (same_followed (le_refl (answeredAt g)) hasked (fun h => absurd h hfirst)
          (hreads₂ g hasked)).same _
    -- It was not, so nothing has been said of the record since.
    · obtain ⟨i, hi, hi', hsame⟩ := hreads₁ g
        ((exists_or_append.mp hg).resolve_right hasked)
      have hfollowed : g.Same (C.logs 0 s.cursor ++ C.logs s.cursor toBlock)
          (r₁.followed r₂ (C.logs 0 s.cursor) (C.logs s.cursor toBlock)) r₁ :=
        (followed_of_not_asked hasked).same _
      have hsame := hsame.mono (M := C.logs 0 s.cursor ++ C.logs s.cursor toBlock)
        fun log => List.mem_append_left _
      by_cases hahead : toBlock ≤ i
      · exact ⟨i, hahead, hi'.trans hhead, hfollowed.trans hsame⟩
      · have hbehind := Nat.le_of_not_le hahead
        refine ⟨toBlock, le_rfl, hto.trans hhead, hfollowed.trans (hsame.trans ?_)⟩
        have hmem : ∀ log ∈ C.logs i toBlock, log ∈ C.logs s.cursor toBlock := fun log hlog =>
          Chain.mem_logs_of_mem hlog hi hbehind
        exact Chain.same_of_quiet hbehind (fun log hlog hasks => hasked ⟨log, hmem log hlog, hasks⟩)
          fun log hlog _ _ => List.mem_append_right _ (hmem log hlog)

theorem indexed_of_reachable (h : Reachable C s) : Indexed C s := by
  induction h with
  | refl => exact indexed_start C
  | tail _ hstep ih => exact hstep.indexed ih

/-- The chunk with all the logs makes the tables of a caught-up read model, if its getters
answer for the cursor. -/
theorem applyChunk_caught_up (h : Reachable C s) (hquiet : C.logs s.cursor s.head = []) :
    applyChunk (.ofWorld (C.world s.cursor)) (queryFilter (C.logs 0 s.cursor)) .empty =
      .ok s.tables := by
  obtain ⟨hle, r, hrun, hreads⟩ := indexed_of_reachable h
  refine applyChunk_congr (fun log hlog g hasks => ?_) hrun
  obtain ⟨j, hcursor, hj, hsame⟩ := hreads g ⟨log, hlog, hasks⟩
  have hnone : ∀ log, log ∉ C.logs s.cursor j := fun log hmem => by
    have hmem := List.mem_append_left (C.logs j s.head) hmem
    rw [Chain.logs_append hcursor hj, hquiet] at hmem
    exact List.not_mem_nil hmem
  exact hsame.trans (Chain.same_of_quiet hcursor (fun log hlog => absurd hlog (hnone log))
    fun log hlog => absurd hlog (hnone log)).symm

/-- **A caught-up read model is what one chunk makes of all the logs**, if its getters answer
for the cursor. -/
theorem tables_eq (h : Reachable C s) (hquiet : C.logs s.cursor s.head = []) :
    applyChunk (.ofWorld (C.world s.cursor)) (queryFilter (C.logs 0 s.cursor)) .empty =
      .ok s.tables :=
  applyChunk_caught_up h hquiet

end Sync

/-! ### A chain of two blocks -/

/-- The block in which claim 1 is created, with an artifact, and replication 1 of it is submitted.
The controller of agent 1 forecasts the outcome and challenges the claim, and somebody appeals. -/
def submitting : List (Move Message) :=
  opening ++
    [send 0xEE 0 (.agentRegistry (.registerAgent 5 "" 100)),
      send 0xEE 0 (.agentRegistry (.authorizeController 1 0xCC true)),
      send 0xAA 0 (.artifactRegistry (.addArtifact 1 .manuscript 5 "ipfs://data" 6)),
      send 0xCC 10 (.epistemicMarket (.commitForecast 1
        0x470a3d52539f2460d48f07329f3d4f704cc54d801e5367b98185fcd305c38765 200000 1)),
      send 0xCC 7 (.epistemicMarket (.openChallenge 1 0 0 "" 1)),
      send 0xBD 9 (.appealsRegistry (.fileAppeal 1 0 0 .moduleBoundary 4 "")),
      send 0xBB 0 (.replicationRegistry (.submitReplication 1 1 2 3 0))]

theorem playDevnet_submitting : (playDevnet submitting).isSome := by decide

def submitted : Config World Suspended := ((playDevnet submitting).get playDevnet_submitting).2

/-- The block in which replication 1 is resolved, and claim 1 with it. The forecast is settled, the
challenge is withdrawn, the appeal is adjudicated, and a checkpoint is published. -/
def resolving : List (Move Message) :=
  [send 0x0A 0 (.replicationRegistry (.resolveReplicationOutcome 1 (devnetResult .supported))),
    send 0x0A 0 (.claimRegistry (.finalizeClaimResolution 1 1)),
    send 0xCC 0 (.epistemicMarket (.revealForecast 1 .supports 7000 1)),
    send 0x0A 0 (.epistemicMarket (.settleForecast 1 1)),
    .tick 100000,
    send 0xCC 0 (.epistemicMarket (.withdrawChallenge 1)),
    send 0x0A 0 (.appealsRegistry (.adjudicateAppeal 1 .closed 5 "")),
    send 0x0A 0 (.reputationCheckpointRegistry
      (.publishCheckpoint 1 ⟨.agent, 0, 0, 1, 0⟩ 9 10 "ipfs://scores"))]

theorem play_resolving : ((protocol devnet).play resolving submitted).isSome := by decide

def resolved : Config World Suspended :=
  (((protocol devnet).play resolving submitted).get play_resolving).2

def devnetChain : Chain devnet where
  deploymentBlock := 100
  world
    | 0 => devnetGenesis
    | 1 => submitted.world
    | _ => resolved.world
  events
    | 0 => ((playDevnet submitting).get playDevnet_submitting).1.flatMap fun e =>
      emitted e.before e.after
    | 1 => (((protocol devnet).play resolving submitted).get play_resolving).1.flatMap fun e =>
      emitted e.before e.after
    | _ => []
  deployed := devnetGenesis_genesis
  block
    | 0 => Machine.emits_of_play (Option.some_get playDevnet_submitting).symm
    | 1 => Machine.emits_of_play (Option.some_get play_resolving).symm
    | _ + 2 => .refl _

namespace Sync

/-- Until the first chunk is read there is one block. -/
theorem reachable_devnet : Reachable devnetChain ⟨0, 1, .empty⟩ :=
  .single (.grow (s := .start) (Nat.zero_le 1))

/-- While it is read there is a second one: only the forecasts are read before. -/
def devnetAnsweredAt : Getter → ℕ
  | .getForecast _ => 1
  | _ => 2

theorem devnetAnsweredAt_between (g : Getter) :
    1 ≤ devnetAnsweredAt g ∧ devnetAnsweredAt g ≤ 2 := by
  cases g <;> simp [devnetAnsweredAt]

/-- The first block is indexed by itself. -/
theorem chunk_submitting :
    (devnetChain.chunk devnetAnsweredAt 0 1 .empty).toOption.isSome := by decide

def submittedTables : Tables :=
  (devnetChain.chunk devnetAnsweredAt 0 1 .empty).toOption.get chunk_submitting

theorem chunk_resolving :
    (devnetChain.chunk (fun _ => 2) 1 2 submittedTables).toOption.isSome := by decide

def resolvedTables : Tables :=
  (devnetChain.chunk (fun _ => 2) 1 2 submittedTables).toOption.get chunk_resolving

theorem eq_ok_get {ε α : Type} {x : Except ε α} (h : x.toOption.isSome) :
    x = .ok (x.toOption.get h) := by
  cases x with
  | error _ => exact absurd h (by simp [Except.toOption])
  | ok _ => rfl

theorem reachable_resolved : Reachable devnetChain ⟨2, 2, resolvedTables⟩ := by
  have hfirst : Step devnetChain ⟨0, 1, .empty⟩ ⟨1, 2, submittedTables⟩ :=
    .chunk Nat.one_pos le_rfl devnetAnsweredAt_between one_le_two (eq_ok_get _)
  have hsecond : Step devnetChain ⟨1, 2, submittedTables⟩ ⟨2, 2, resolvedTables⟩ :=
    .chunk Nat.one_lt_two le_rfl (fun _ => ⟨le_rfl, le_rfl⟩) le_rfl (eq_ok_get _)
  exact (reachable_devnet.tail hfirst).tail hsecond

/-- The two chunks are the one with the logs of both blocks. -/
theorem tables_eq_devnet :
    applyChunk (.ofWorld resolved.world) (queryFilter (devnetChain.logs 0 2)) .empty =
      .ok resolvedTables :=
  tables_eq reachable_resolved (Chain.logs_self 2)

end Sync

end ScientificProtocol.Indexer
