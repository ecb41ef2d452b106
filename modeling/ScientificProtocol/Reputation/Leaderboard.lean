import Mathlib.Algebra.Ring.Int.Defs
import Mathlib.Data.String.Basic
import ScientificProtocol.Indexer.Columns
import ScientificProtocol.Js.Tally
import ScientificProtocol.Order.Ranking
import ScientificProtocol.Reputation.Payloads

/-!
# The leaderboard of a domain

`computeDomainLeaderboard` of `src/reputation/engine.ts` goes through the claims of a domain, what
has been replicated of them and the checkpoints of the domain, and counts for each actor, in a map
by the address in lower case. The actors are then sorted by score, and by address where the scores
are the same.

Which spelling of its address an actor is shown with depends on what has come first. Nothing else
does, and checkpoints are only counted: they have no influence on the scores or on who comes before
whom. But one of the reads is a listing of replications, so there is a leaderboard only where that
is answered (`ScientificProtocol.Reputation.leaderboard_orderFree_iff`).
-/

namespace ScientificProtocol.Reputation

/-! ### Records -/

def isHexDigit (c : Char) : Bool :=
  decide ('0' ≤ c ∧ c ≤ '9') || decide ('a' ≤ c ∧ c ≤ 'f') || decide ('A' ≤ c ∧ c ≤ 'F')

/-- Whether a text is an address, in any letter case. -/
def isAddress (text : String) : Bool :=
  decide (text.toList.take 2 = ['0', 'x'] ∧ text.toList.length = 42) &&
    (text.toList.drop 2).all isHexDigit

/-- An address, as it is spelled. -/
abbrev Actor : Type := { text : String // isAddress text = true }

/-- What actors are told apart by. -/
def Actor.key (actor : Actor) : String := Js.toLowerCase actor.val

def zeroAddress : String := "0x0000000000000000000000000000000000000000"

structure ClaimView where
  claimId : String
  author : Actor
  status : ℕ
  deriving DecidableEq

structure ReplicationView where
  claimId : String
  replicator : Actor
  resolutionStatus : Option ℕ
  deriving DecidableEq

structure CheckpointView where
  domainId : ℕ
  subjectActor : Actor
  deriving DecidableEq

/-- How the host compares two texts. It puts addresses in lower case in a total order. -/
structure AddressOrder where
  localeCompare : String → String → ℤ
  total : ∀ a b : Actor, localeCompare a.key b.key ≤ 0 ∨ localeCompare b.key a.key ≤ 0
  trans : ∀ a b c : Actor, localeCompare a.key b.key ≤ 0 → localeCompare b.key c.key ≤ 0 →
    localeCompare a.key c.key ≤ 0
  antisymm : ∀ a b : Actor, localeCompare a.key b.key ≤ 0 → localeCompare b.key a.key ≤ 0 →
    a.key = b.key

/-- Which of two texts comes first by the codes of its characters. -/
def codeCompare (a b : String) : ℤ := if a ≤ b then if b ≤ a then 0 else -1 else 1

theorem codeCompare_le {a b : String} : codeCompare a b ≤ 0 ↔ a ≤ b := by
  rw [codeCompare]
  split_ifs <;> simp [*]

/-- Addresses in lower case are digits and letters, which come in the order of their codes. -/
def AddressOrder.byCode : AddressOrder where
  localeCompare := codeCompare
  total a b := by
    rw [codeCompare_le, codeCompare_le]
    exact le_total a.key b.key
  trans a b c := by
    rw [codeCompare_le, codeCompare_le, codeCompare_le]
    exact le_trans
  antisymm a b := by
    rw [codeCompare_le, codeCompare_le]
    exact le_antisymm

/-! ### Counting -/

def replicationWorkQualityScore : Option ℕ → ℤ
  | some 1 | some 2 => 25
  | some 3 => 10
  | some 4 => 30
  | some 5 => 35
  | some 6 => 5
  | _ => 0

/-- An actor of whom nothing has been counted yet. -/
def newAggregate (subjectActor : String) : ActorAggregate where
  checkpointCount := 0
  claimCount := 0
  fraudSignalReplicationCount := 0
  fraudulentClaimCount := 0
  inconclusiveReplicationCount := 0
  refutedClaimCount := 0
  refutedReplicationCount := 0
  replicationCount := 0
  score := 0
  subjectActor := subjectActor
  supportedClaimCount := 0
  supportedReplicationCount := 0

def countClaim (status : ℕ) (aggregate : ActorAggregate) : ActorAggregate :=
  let counted := { aggregate with
    claimCount := aggregate.claimCount + 1
    score := aggregate.score + 10 }
  if status = 3 ∨ status = 4 then
    { counted with
      supportedClaimCount := counted.supportedClaimCount + 1
      score := counted.score + if status = 4 then 40 else 25 }
  else if status = 5 then
    { counted with
      refutedClaimCount := counted.refutedClaimCount + 1
      score := counted.score - 20 }
  else if status = 6 then
    { counted with
      fraudulentClaimCount := counted.fraudulentClaimCount + 1
      score := counted.score - 60 }
  else counted

def countReplication (resolutionStatus : Option ℕ) (aggregate : ActorAggregate) :
    ActorAggregate :=
  let counted := { aggregate with
    replicationCount := aggregate.replicationCount + 1
    score := aggregate.score + replicationWorkQualityScore resolutionStatus }
  if resolutionStatus = some 1 ∨ resolutionStatus = some 2 then
    { counted with supportedReplicationCount := counted.supportedReplicationCount + 1 }
  else if resolutionStatus = some 3 then
    { counted with inconclusiveReplicationCount := counted.inconclusiveReplicationCount + 1 }
  else if resolutionStatus = some 4 then
    { counted with refutedReplicationCount := counted.refutedReplicationCount + 1 }
  else if resolutionStatus = some 5 then
    { counted with fraudSignalReplicationCount := counted.fraudSignalReplicationCount + 1 }
  else counted

def countCheckpoint (aggregate : ActorAggregate) : ActorAggregate :=
  { aggregate with checkpointCount := aggregate.checkpointCount + 1 }

/-- What is counted for an actor. -/
inductive Counted where
  | claim (claim : ClaimView)
  | replication (replication : ReplicationView)
  | checkpoint (checkpoint : CheckpointView)
  deriving DecidableEq

def Counted.actor : Counted → Actor
  | .claim row => row.author
  | .replication row => row.replicator
  | .checkpoint row => row.subjectActor

def Counted.count : Counted → ActorAggregate → ActorAggregate
  | .claim row => countClaim row.status
  | .replication row => countReplication row.resolutionStatus
  | .checkpoint _ => countCheckpoint

/-- What a record adds to the score of its actor. -/
def Counted.score : Counted → ℤ
  | .claim row =>
    10 + match row.status with
      | 3 => 25
      | 4 => 40
      | 5 => -20
      | 6 => -60
      | _ => 0
  | .replication row => replicationWorkQualityScore row.resolutionStatus
  | .checkpoint _ => 0

/-! ### The leaderboard -/

/-- What `computeDomainLeaderboard` reads: the claims of the domain, and all replications and
checkpoints. -/
structure LeaderboardInput where
  createdAt : String
  latestBlock : ℕ
  cursorBlock : Option ℕ
  domainId : ℕ
  claims : List ClaimView
  allReplications : List ReplicationView
  allCheckpoints : List CheckpointView

namespace LeaderboardInput

variable (input : LeaderboardInput)

def replications : List ReplicationView :=
  input.allReplications.filter fun replication =>
    decide (replication.claimId ∈ input.claims.map (·.claimId))

/-- The checkpoints of the domain, without those of nobody. -/
def checkpoints : List CheckpointView :=
  (input.allCheckpoints.filter fun checkpoint =>
    decide (checkpoint.domainId = input.domainId)).filter fun checkpoint =>
      decide (checkpoint.subjectActor.val ≠ zeroAddress)

/-- What the three loops go through. -/
def counted : List Counted :=
  input.claims.map .claim ++ input.replications.map .replication ++
    input.checkpoints.map .checkpoint

/-- The map of the aggregates, after the loops. -/
def aggregates : List (String × ActorAggregate) :=
  input.counted.foldl (fun aggregates record =>
    Js.upsert record.actor.key (newAggregate record.actor.val) record.count aggregates) []

end LeaderboardInput

section

variable (order : AddressOrder)

def AddressOrder.le (a b : String) : Bool := decide (order.localeCompare a b ≤ 0)

/-- How the actors are sorted. -/
def aggregateLE (left right : ActorAggregate) : Bool :=
  if left.score = right.score then
    order.le (Js.toLowerCase left.subjectActor) (Js.toLowerCase right.subjectActor)
  else decide (right.score < left.score)

/-- The body of the payload, of what has been read. -/
def leaderboardBody (input : LeaderboardInput) : PayloadBody where
  createdAt := input.createdAt
  cutoffBlock := input.latestBlock
  cursorBlock := input.cursorBlock
  domainId := input.domainId
  ordered := (input.aggregates.map Prod.snd).mergeSort (aggregateLE order)

/-- `computeDomainLeaderboard`, up to the body of its payload. -/
def computeDomainLeaderboard (schema : Indexer.ReplicationsSchema) (input : LeaderboardInput) :
    Except Sql.UndefinedColumn PayloadBody := do
  let allReplications ← Indexer.queryReplications schema input.allReplications
  return leaderboardBody order { input with allReplications }

variable {order} {schema : Indexer.ReplicationsSchema} {input : LeaderboardInput}

theorem computeDomainLeaderboard_of_hasDecisionColumn (h : schema.HasDecisionColumn) :
    computeDomainLeaderboard order schema input = .ok (leaderboardBody order input) := by
  rw [computeDomainLeaderboard, Indexer.queryReplications_of_hasDecisionColumn h]
  rfl

/-- **Without the column of the replications nothing is computed.** -/
theorem computeDomainLeaderboard_of_not_hasDecisionColumn (h : ¬schema.HasDecisionColumn) :
    computeDomainLeaderboard order schema input = .error ⟨"resolution_decision_id"⟩ := by
  rw [computeDomainLeaderboard, Indexer.queryReplications_of_not_hasDecisionColumn h]
  rfl

end

/-! ### In lower case -/

/-- An aggregate with the address in lower case. -/
def ActorAggregate.lowered (aggregate : ActorAggregate) : ActorAggregate :=
  { aggregate with subjectActor := Js.toLowerCase aggregate.subjectActor }

/-- A row with the address in lower case. -/
def LeaderboardEntryView.lowered (entry : LeaderboardEntryView) : LeaderboardEntryView :=
  { entry with subjectActor := Js.toLowerCase entry.subjectActor }

/-- What has been counted in two aggregates, for the actor of the first. -/
def ActorAggregate.plus (aggregate more : ActorAggregate) : ActorAggregate where
  checkpointCount := aggregate.checkpointCount + more.checkpointCount
  claimCount := aggregate.claimCount + more.claimCount
  fraudSignalReplicationCount :=
    aggregate.fraudSignalReplicationCount + more.fraudSignalReplicationCount
  fraudulentClaimCount := aggregate.fraudulentClaimCount + more.fraudulentClaimCount
  inconclusiveReplicationCount :=
    aggregate.inconclusiveReplicationCount + more.inconclusiveReplicationCount
  refutedClaimCount := aggregate.refutedClaimCount + more.refutedClaimCount
  refutedReplicationCount := aggregate.refutedReplicationCount + more.refutedReplicationCount
  replicationCount := aggregate.replicationCount + more.replicationCount
  score := aggregate.score + more.score
  subjectActor := aggregate.subjectActor
  supportedClaimCount := aggregate.supportedClaimCount + more.supportedClaimCount
  supportedReplicationCount :=
    aggregate.supportedReplicationCount + more.supportedReplicationCount

/-- What a record adds. -/
def Counted.added (record : Counted) : ActorAggregate := record.count (newAggregate "")

/-- **A record is added**, whatever has been counted before. -/
theorem count_eq_plus (record : Counted) (aggregate : ActorAggregate) :
    record.count aggregate = aggregate.plus record.added := by
  rw [Counted.added]
  cases record with
  | claim row =>
    simp only [Counted.count, countClaim, newAggregate, ActorAggregate.plus]
    split_ifs <;> simp [add_assoc, sub_eq_add_neg]
  | replication row =>
    simp only [Counted.count, countReplication, newAggregate, ActorAggregate.plus]
    split_ifs <;> simp
  | checkpoint row => simp [Counted.count, countCheckpoint, newAggregate, ActorAggregate.plus]

/-- **The order in which an actor's records are counted does not matter.** -/
theorem count_comm (record record' : Counted) (aggregate : ActorAggregate) :
    record.count (record'.count aggregate) = record'.count (record.count aggregate) := by
  rw [count_eq_plus, count_eq_plus record', count_eq_plus record', count_eq_plus record]
  simp only [ActorAggregate.plus, add_right_comm]

theorem count_lowered (record : Counted) (aggregate : ActorAggregate) :
    (record.count aggregate).lowered = record.count aggregate.lowered := by
  rw [count_eq_plus, count_eq_plus]
  rfl

theorem score_added (record : Counted) : record.added.score = record.score := by
  cases record with
  | claim row =>
    simp only [Counted.added, Counted.count, countClaim, newAggregate, Counted.score]
    split_ifs <;> split <;> simp_all
  | replication row =>
    simp only [Counted.added, Counted.count, countReplication, newAggregate, Counted.score]
    split_ifs <;> simp
  | checkpoint row => rfl

/-- The score of an actor is the sum of what its records add. -/
theorem score_foldl_count (records : List Counted) (aggregate : ActorAggregate) :
    (records.foldl (fun aggregate record => record.count aggregate) aggregate).score =
      aggregate.score + (records.map Counted.score).sum := by
  induction records generalizing aggregate with
  | nil => simp
  | cons record records ih =>
    rw [List.foldl_cons, ih, List.map_cons, List.sum_cons, ← add_assoc, count_eq_plus,
      ← score_added]
    rfl

theorem subjectActor_foldl_count (records : List Counted) (aggregate : ActorAggregate) :
    (records.foldl (fun aggregate record => record.count aggregate) aggregate).subjectActor =
      aggregate.subjectActor := by
  induction records generalizing aggregate with
  | nil => rfl
  | cons record records ih =>
    rw [List.foldl_cons, ih, count_eq_plus]
    rfl

/-! ### Aggregates -/

section

variable (input : LeaderboardInput)

/-- The aggregates by address, in lower case. -/
theorem map_lowered_aggregates :
    input.aggregates.map (Prod.map id ActorAggregate.lowered) =
      Js.tally (fun record => record.actor.key) newAggregate Counted.count input.counted :=
  Js.map_foldl_upsert (fun record : Counted => record.actor.key) newAggregate Counted.count
    (f := ActorAggregate.lowered) (fun _ => rfl) count_lowered input.counted

/-- What is counted for an actor in all. -/
def aggregateOf (key : String) : ActorAggregate :=
  (input.counted.filter fun record => decide (record.actor.key = key)).foldl
    (fun aggregate record => record.count aggregate) (newAggregate key)

/-- The actors of whom something is counted. -/
def actorKeys : List String := (input.counted.map fun record => record.actor.key).eraseDups

/-- **One aggregate for each actor.** -/
theorem map_snd_lowered :
    (input.aggregates.map Prod.snd).map ActorAggregate.lowered =
      (actorKeys input).map (aggregateOf input) := by
  have h := congrArg (List.map Prod.snd) (map_lowered_aggregates input)
  rw [List.map_map, Js.tally, List.map_map] at h
  rw [List.map_map]
  exact h

theorem subjectActor_aggregateOf (key : String) :
    (aggregateOf input key).subjectActor = key :=
  subjectActor_foldl_count _ _

/-- What the claims and the replications of an actor add to its score. -/
def actorScore (key : String) : ℤ :=
  ((input.claims.filter fun row => decide (row.author.key = key)).map fun row =>
      (Counted.claim row).score).sum +
    ((input.replications.filter fun row => decide (row.replicator.key = key)).map fun row =>
      (Counted.replication row).score).sum

/-- **The score is what the claims and the replications add.** -/
theorem score_aggregateOf (key : String) :
    (aggregateOf input key).score = actorScore input key := by
  rw [aggregateOf, score_foldl_count, LeaderboardInput.counted]
  simp only [List.filter_append, List.map_append, List.sum_append, List.filter_map, List.map_map]
  have hcheckpoints : ∀ rows : List CheckpointView,
      (rows.map (Counted.score ∘ Counted.checkpoint)).sum = 0 := fun rows => by
    rw [List.sum_eq_zero]
    intro score hscore
    obtain ⟨row, -, rfl⟩ := List.mem_map.mp hscore
    rfl
  have hnew : (newAggregate key).score = 0 := rfl
  rw [hcheckpoints, add_zero, hnew, zero_add, actorScore]
  rfl

end

/-! ### The order of the actors -/

section

variable (order : AddressOrder)

/-- How actors with scores are sorted. -/
def keyLE (score : String → ℤ) (key key' : String) : Bool :=
  if score key = score key' then order.le key key' else decide (score key' < score key)

/-- **Actors are in a total order**, by score and then by address. -/
theorem orders_keyLE (score : String → ℤ) :
    Ranking.Orders (keyLE order score) fun key => ∃ actor : Actor, key = actor.key where
  total := by
    rintro _ _ ⟨a, rfl⟩ ⟨b, rfl⟩
    rcases lt_trichotomy (score a.key) (score b.key) with hlt | heq | hgt
    · exact Or.inr (by simp [keyLE, hlt, hlt.ne'])
    · simpa [keyLE, heq, AddressOrder.le] using order.total a b
    · exact Or.inl (by simp [keyLE, hgt, hgt.ne'])
  trans := by
    rintro _ _ _ ⟨a, rfl⟩ ⟨b, rfl⟩ ⟨c, rfl⟩ hab hbc
    have htrans := order.trans a b c
    simp only [keyLE, AddressOrder.le] at hab hbc ⊢
    split_ifs at hab hbc ⊢ with h₁ h₂ h₃ <;> simp only [decide_eq_true_eq] at hab hbc ⊢
    all_goals first | exact htrans hab hbc | omega
  antisymm := by
    rintro _ _ ⟨a, rfl⟩ ⟨b, rfl⟩ hab hba
    simp only [keyLE, AddressOrder.le] at hab hba
    split_ifs at hab hba with h₁ h₂ <;> simp only [decide_eq_true_eq] at hab hba
    · exact order.antisymm a b hab hba
    · omega
    · omega
    · omega

section

variable (input : LeaderboardInput)

/-- The actors of a leaderboard, from the first to the last. -/
def rankedKeys : List String := (actorKeys input).mergeSort (keyLE order (actorScore input))

/-- How aggregates with the addresses in lower case are sorted. -/
def loweredLE (left right : ActorAggregate) : Bool :=
  if left.score = right.score then order.le left.subjectActor right.subjectActor
  else decide (right.score < left.score)

/-- **The leaderboard, up to the letter case of the addresses.** -/
theorem map_lowered_ordered :
    (leaderboardBody order input).ordered.map ActorAggregate.lowered =
      (rankedKeys order input).map (aggregateOf input) := by
  have hkeys : ∀ key ∈ actorKeys input, ∀ key' ∈ actorKeys input,
      keyLE order (actorScore input) key key' =
        loweredLE order (aggregateOf input key) (aggregateOf input key') := by
    intro key _ key' _
    simp only [keyLE, loweredLE, score_aggregateOf, subjectActor_aggregateOf]
  have hordered : (leaderboardBody order input).ordered =
      (input.aggregates.map Prod.snd).mergeSort (aggregateLE order) := rfl
  have hlowered : ∀ a ∈ input.aggregates.map Prod.snd, ∀ b ∈ input.aggregates.map Prod.snd,
      aggregateLE order a b = loweredLE order a.lowered b.lowered := fun _ _ _ _ => rfl
  rw [hordered, List.map_mergeSort hlowered, map_snd_lowered, rankedKeys, List.map_mergeSort hkeys]

theorem mem_actorKeys {key : String} : key ∈ actorKeys input ↔
    (∃ claim ∈ input.claims, claim.author.key = key) ∨
      (∃ replication ∈ input.replications, replication.replicator.key = key) ∨
        ∃ checkpoint ∈ input.checkpoints, checkpoint.subjectActor.key = key := by
  rw [actorKeys, List.mem_eraseDups, LeaderboardInput.counted]
  simp only [List.map_append, List.map_map, List.mem_append, List.mem_map, or_assoc]
  rfl

theorem exists_actor {key : String} (h : key ∈ actorKeys input) :
    ∃ actor : Actor, key = actor.key := by
  obtain ⟨record, -, rfl⟩ := List.mem_map.mp (List.mem_eraseDups.mp h)
  exact ⟨record.actor, rfl⟩

theorem nodup_rankedKeys : (rankedKeys order input).Nodup :=
  (List.mergeSort_perm _ _).nodup_iff.mpr (Js.nodup_eraseDups _)

theorem mem_rankedKeys {key : String} : key ∈ rankedKeys order input ↔ key ∈ actorKeys input :=
  (List.mergeSort_perm _ _).mem_iff

/-- **Each actor comes before the next.** -/
theorem pairwise_rankedKeys : (rankedKeys order input).Pairwise fun key key' =>
    keyLE order (actorScore input) key key' = true :=
  Ranking.pairwise_mergeSort (orders_keyLE order (actorScore input)) fun _ => exists_actor input

end

end

/-! ### The order of the records -/

section

variable {input input' : LeaderboardInput}

/-- The same records, in another order. -/
structure SameRecords (input input' : LeaderboardInput) : Prop where
  domainId : input.domainId = input'.domainId
  claims : input.claims.Perm input'.claims
  allReplications : input.allReplications.Perm input'.allReplications
  allCheckpoints : input.allCheckpoints.Perm input'.allCheckpoints

theorem SameRecords.counted (h : SameRecords input input') :
    input.counted.Perm input'.counted := by
  have hreplications : input.replications.Perm input'.replications := by
    have hsame : input'.replications = input'.allReplications.filter fun replication =>
        decide (replication.claimId ∈ input.claims.map (·.claimId)) := by
      refine List.filter_congr fun replication _ => ?_
      rw [decide_eq_decide]
      exact (h.claims.map _).symm.mem_iff
    rw [hsame]
    exact h.allReplications.filter _
  have hcheckpoints : input.checkpoints.Perm input'.checkpoints := by
    rw [LeaderboardInput.checkpoints, LeaderboardInput.checkpoints, h.domainId]
    exact (h.allCheckpoints.filter _).filter _
  exact ((h.claims.map _).append (hreplications.map _)).append (hcheckpoints.map _)

theorem SameRecords.aggregateOf (h : SameRecords input input') :
    aggregateOf input = aggregateOf input' := by
  funext key
  exact (h.counted.filter _).foldl_eq'
    (fun record _ record' _ aggregate => count_comm record' record aggregate) _

theorem SameRecords.rankedKeys (h : SameRecords input input') (order : AddressOrder) :
    rankedKeys order input = rankedKeys order input' := by
  have hscore : actorScore input = actorScore input' := by
    funext key
    rw [← score_aggregateOf, ← score_aggregateOf, h.aggregateOf]
  have hkeys : (actorKeys input).Perm (actorKeys input') := by
    refine (List.perm_ext_iff_of_nodup (Js.nodup_eraseDups _) (Js.nodup_eraseDups _)).mpr
      fun key => ?_
    rw [List.mem_eraseDups, List.mem_eraseDups]
    exact (h.counted.map _).mem_iff
  rw [Reputation.rankedKeys, Reputation.rankedKeys, hscore]
  refine Ranking.mergeSort_eq_of_perm (orders_keyLE order _) (fun _ hkey => ?_) hkeys
  exact exists_actor input hkey

end

/-! ### The rows -/

section

variable (order : AddressOrder) (input : LeaderboardInput) (payloadId : ℕ)

/-- The rows of a leaderboard, of what has been read. -/
def leaderboardRows : List LeaderboardEntryView :=
  (leaderboardBody order input).entries payloadId

/-- The row of an actor at a place. -/
def rowOf (index : ℕ) (entry : ActorAggregate) : LeaderboardEntryView :=
  { payloadId
    domainId := input.domainId
    rank := index + 1
    subjectActor := entry.subjectActor
    score := entry.score
    claimCount := entry.claimCount
    supportedClaimCount := entry.supportedClaimCount
    refutedClaimCount := entry.refutedClaimCount
    fraudulentClaimCount := entry.fraudulentClaimCount
    replicationCount := entry.replicationCount
    checkpointCount := entry.checkpointCount }

/-- **The rows, up to the letter case of the addresses.** -/
theorem map_lowered_rows :
    (leaderboardRows order input payloadId).map LeaderboardEntryView.lowered =
      (rankedKeys order input).mapIdx fun index key =>
        rowOf input payloadId index (aggregateOf input key) := by
  have hlowered : (leaderboardRows order input payloadId).map LeaderboardEntryView.lowered =
      ((leaderboardBody order input).ordered.map ActorAggregate.lowered).mapIdx
        (rowOf input payloadId) := by
    refine List.ext_getElem? fun index => ?_
    rw [leaderboardRows, PayloadBody.entries]
    simp only [List.getElem?_map, List.getElem?_mapIdx, Option.map_map]
    rfl
  rw [hlowered, map_lowered_ordered]
  refine List.ext_getElem? fun index => ?_
  simp only [List.getElem?_map, List.getElem?_mapIdx, Option.map_map]
  rfl

/-- The actors in the rows. -/
def rowKeys (rows : List LeaderboardEntryView) : List String :=
  rows.map fun row => row.lowered.subjectActor

theorem rowKeys_eq :
    rowKeys (leaderboardRows order input payloadId) = rankedKeys order input := by
  have h := congrArg (List.map LeaderboardEntryView.subjectActor)
    (map_lowered_rows order input payloadId)
  rw [List.map_map] at h
  refine Eq.trans h (List.ext_getElem? fun index => ?_)
  simp only [List.getElem?_map, List.getElem?_mapIdx, Option.map_map]
  have hkey : (LeaderboardEntryView.subjectActor ∘ fun key =>
      rowOf input payloadId index (aggregateOf input key)) = id :=
    funext fun key => subjectActor_aggregateOf input key
  rw [hkey, Option.map_id, id_eq]

/-- A row is that of an actor. -/
theorem score_of_mem_rows {row : LeaderboardEntryView}
    (h : row ∈ leaderboardRows order input payloadId) :
    row.score = actorScore input row.lowered.subjectActor := by
  have hlowered := List.mem_map_of_mem (f := LeaderboardEntryView.lowered) h
  rw [map_lowered_rows] at hlowered
  obtain ⟨index, hindex, hrow⟩ := List.mem_mapIdx.mp hlowered
  have hscore : row.lowered.score = row.score := rfl
  rw [← hscore, ← hrow]
  simp only [rowOf, subjectActor_aggregateOf, score_aggregateOf]

end

/-! ### The law of the leaderboard -/

/-- The rows `computeDomainLeaderboard` inserts, if it comes to that. -/
def computedRows (order : AddressOrder) (schema : Indexer.ReplicationsSchema) (payloadId : ℕ)
    (input : LeaderboardInput) : Except Sql.UndefinedColumn (List LeaderboardEntryView) :=
  (computeDomainLeaderboard order schema input).map (·.entries payloadId)

/-- **A leaderboard does not depend on the order of the records**, and its scores not on
checkpoints. -/
structure OrderFree (order : AddressOrder) (schema : Indexer.ReplicationsSchema) (payloadId : ℕ)
    (input : LeaderboardInput) : Prop where
  /-- There is one. -/
  computes : ∃ rows, computedRows order schema payloadId input = .ok rows
  perm : ∀ {input'}, SameRecords input input' →
    (computedRows order schema payloadId input').map (List.map LeaderboardEntryView.lowered) =
      (computedRows order schema payloadId input).map (List.map LeaderboardEntryView.lowered)
  /-- Each actor has one row. -/
  nodup : ∀ {rows}, computedRows order schema payloadId input = .ok rows → (rowKeys rows).Nodup
  actors : ∀ {rows key}, computedRows order schema payloadId input = .ok rows →
    (key ∈ rowKeys rows ↔
      (∃ claim ∈ input.claims, claim.author.key = key) ∨
        (∃ replication ∈ input.replications, replication.replicator.key = key) ∨
          ∃ checkpoint ∈ input.checkpoints, checkpoint.subjectActor.key = key)
  score : ∀ {rows}, computedRows order schema payloadId input = .ok rows →
    ∀ row ∈ rows, row.score = actorScore input row.lowered.subjectActor
  ranks : ∀ {rows}, computedRows order schema payloadId input = .ok rows →
    rows.map LeaderboardEntryView.rank = (List.range rows.length).map (· + 1)
  sorted : ∀ {rows}, computedRows order schema payloadId input = .ok rows →
    rows.Pairwise fun row row' => row'.score ≤ row.score
  /-- Whatever checkpoints there are, the scores are the same. -/
  cadenceScore : ∀ {allCheckpoints rows rows'},
    computedRows order schema payloadId input = .ok rows →
      computedRows order schema payloadId { input with allCheckpoints } = .ok rows' →
        ∀ row ∈ rows, ∀ row' ∈ rows',
          row'.lowered.subjectActor = row.lowered.subjectActor → row'.score = row.score
  /-- Two actors that are in both leaderboards are in the same order. -/
  cadenceOrder : ∀ {allCheckpoints rows rows' key key'},
    computedRows order schema payloadId input = .ok rows →
      computedRows order schema payloadId { input with allCheckpoints } = .ok rows' →
        key ∈ rowKeys rows → key' ∈ rowKeys rows → key ∈ rowKeys rows' → key' ∈ rowKeys rows' →
          ([key, key'].Sublist (rowKeys rows') ↔ [key, key'].Sublist (rowKeys rows))

/-- **Of two actors the one with the higher score comes first**, or the one with the lower
address. -/
theorem pair_sublist_rankedKeys (order : AddressOrder) (input : LeaderboardInput)
    {key key' : String} (hkey : key ∈ rankedKeys order input)
    (hkey' : key' ∈ rankedKeys order input) :
    [key, key'].Sublist (rankedKeys order input) ↔
      key ≠ key' ∧ keyLE order (actorScore input) key key' = true := by
  refine Ranking.pair_sublist_iff (pairwise_rankedKeys order input)
    (nodup_rankedKeys order input) (fun a ha b hb => ?_) hkey hkey'
  exact (orders_keyLE order (actorScore input)).antisymm
    (exists_actor input ((mem_rankedKeys order input).mp ha))
    (exists_actor input ((mem_rankedKeys order input).mp hb))

section

variable {order : AddressOrder} {schema : Indexer.ReplicationsSchema} {payloadId : ℕ}
  {input : LeaderboardInput}

theorem computedRows_of_hasDecisionColumn (h : schema.HasDecisionColumn) :
    computedRows order schema payloadId input = .ok (leaderboardRows order input payloadId) := by
  rw [computedRows, computeDomainLeaderboard_of_hasDecisionColumn h]
  rfl

/-- The rows by rank. -/
theorem map_rank_rows : (leaderboardRows order input payloadId).map LeaderboardEntryView.rank =
    (List.range (leaderboardRows order input payloadId).length).map (· + 1) := by
  refine List.ext_getElem (by simp) fun index hindex hindex' => ?_
  simp [leaderboardRows, PayloadBody.entries]

/-- Whoever comes first has at least the score of whoever comes later. -/
theorem pairwise_score_rows :
    (leaderboardRows order input payloadId).Pairwise fun row row' => row'.score ≤ row.score := by
  have hkeys := pairwise_rankedKeys order input
  rw [← rowKeys_eq order input payloadId, rowKeys, List.pairwise_map] at hkeys
  refine hkeys.imp_of_mem fun hrow hrow' hle => ?_
  rw [score_of_mem_rows order input payloadId hrow, score_of_mem_rows order input payloadId hrow']
  rw [keyLE] at hle
  split_ifs at hle with hsame
  · exact hsame.ge
  · exact (of_decide_eq_true hle).le

end

/-- **The leaderboard of a domain** is order-free, and free of the cadence of checkpoints, exactly
where the replications can be listed. -/
theorem leaderboard_orderFree_iff (order : AddressOrder) (schema : Indexer.ReplicationsSchema)
    (payloadId : ℕ) (input : LeaderboardInput) :
    OrderFree order schema payloadId input ↔ schema.HasDecisionColumn := by
  constructor
  · intro h
    by_contra hmissing
    obtain ⟨rows, hrows⟩ := h.computes
    rw [computedRows, computeDomainLeaderboard_of_not_hasDecisionColumn hmissing] at hrows
    exact absurd hrows (by simp [Except.map])
  · intro hcolumn
    have hcomputed : ∀ input, computedRows order schema payloadId input =
        .ok (leaderboardRows order input payloadId) :=
      fun _ => computedRows_of_hasDecisionColumn hcolumn
    refine ⟨⟨_, hcomputed input⟩, ?_, ?_, ?_, ?_, ?_, ?_, ?_, ?_⟩
    · intro input' h
      have hsame : (leaderboardRows order input' payloadId).map LeaderboardEntryView.lowered =
          (leaderboardRows order input payloadId).map LeaderboardEntryView.lowered := by
        rw [map_lowered_rows, map_lowered_rows, h.rankedKeys, h.aggregateOf]
        simp only [rowOf, h.domainId]
      rw [hcomputed, hcomputed]
      exact congrArg Except.ok hsame
    · intro rows hrows
      obtain rfl := Except.ok.inj ((hcomputed input).symm.trans hrows)
      rw [rowKeys_eq]
      exact nodup_rankedKeys order input
    · intro rows key hrows
      obtain rfl := Except.ok.inj ((hcomputed input).symm.trans hrows)
      rw [rowKeys_eq, mem_rankedKeys, mem_actorKeys]
    · intro rows hrows row hrow
      obtain rfl := Except.ok.inj ((hcomputed input).symm.trans hrows)
      exact score_of_mem_rows order input payloadId hrow
    · intro rows hrows
      obtain rfl := Except.ok.inj ((hcomputed input).symm.trans hrows)
      exact map_rank_rows
    · intro rows hrows
      obtain rfl := Except.ok.inj ((hcomputed input).symm.trans hrows)
      exact pairwise_score_rows
    · intro allCheckpoints rows rows' hrows hrows' row hrow row' hrow' hsame
      obtain rfl := Except.ok.inj ((hcomputed input).symm.trans hrows)
      obtain rfl := Except.ok.inj ((hcomputed _).symm.trans hrows')
      rw [score_of_mem_rows order _ payloadId hrow', score_of_mem_rows order input payloadId hrow,
        hsame]
      rfl
    · intro allCheckpoints rows rows' key key' hrows hrows' hkey hkey' hother hother'
      obtain rfl := Except.ok.inj ((hcomputed input).symm.trans hrows)
      obtain rfl := Except.ok.inj ((hcomputed _).symm.trans hrows')
      rw [rowKeys_eq] at hkey hkey' hother hother' ⊢
      rw [rowKeys_eq, pair_sublist_rankedKeys order _ hother hother',
        pair_sublist_rankedKeys order input hkey hkey']
      rfl

/-- An actor who has written a claim with capital letters, and replicated it with small ones. -/
def spelledTwice : LeaderboardInput where
  createdAt := "2026-01-01T00:00:00.000Z"
  latestBlock := 100
  cursorBlock := none
  domainId := 1
  claims := [⟨"1", ⟨"0xAB00000000000000000000000000000000000000", by decide⟩, 3⟩]
  allReplications := [⟨"1", ⟨"0xab00000000000000000000000000000000000000", by decide⟩, some 1⟩]
  allCheckpoints := [⟨1, ⟨"0x0000000000000000000000000000000000000001", by decide⟩⟩]

/-- **On the schema of the migrations there is no leaderboard**: the listing of the replications
fails. -/
theorem not_orderFree_committed :
    computeDomainLeaderboard .byCode .committed spelledTwice =
        .error ⟨"resolution_decision_id"⟩ ∧
      ¬OrderFree .byCode .committed 1 spelledTwice := by
  have hfails : computeDomainLeaderboard .byCode .committed spelledTwice =
      .error ⟨"resolution_decision_id"⟩ :=
    computeDomainLeaderboard_of_not_hasDecisionColumn
      Indexer.ReplicationsSchema.not_hasDecisionColumn_committed
  refine ⟨hfails, fun h => ?_⟩
  obtain ⟨rows, hrows⟩ := h.computes
  rw [computedRows, hfails] at hrows
  exact absurd hrows (by simp [Except.map])

/-- With the column there is one. -/
theorem spelledTwice_orderFree : OrderFree .byCode .repaired 1 spelledTwice :=
  (leaderboard_orderFree_iff .byCode .repaired 1 spelledTwice).mpr
    Indexer.ReplicationsSchema.hasDecisionColumn_repaired

end ScientificProtocol.Reputation
