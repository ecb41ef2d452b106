import ScientificProtocol.RewardPolicy.Candidates
import ScientificProtocol.Concurrency.Processes

/-!
# Runs of the automatic reward policy

`applyAutomaticRewardPolicy` of `src/rewards/policy.ts` as a process. A run reads the
candidates and what has been recorded for each item, once; then it goes through the
groups, reads the pool of each and computes targets; and for each candidate who is owed
more than is recorded it asks the vault for the difference, waits for the transaction,
and records it (`insertWorkRewardSettlement` and `readAccruedRewardTotals` of
`src/rewards/store.ts`).

The chain and the table of settlements are shared, and every number of runs of one policy
version may be under way. Whatever else is shared is left open. The candidates are any
candidates at all, since the tables they are built from change under a run, and so is
what the settlement resolves a work item to. A run may crash at any point – an exception
is a crash, too – and the transaction it has sent then stays where it is: it may still be
executed, or not.

The first reads of a run list the replications, and they fail where the column is missing
that the query names. Then the run has thrown before it has a candidate.
-/

namespace ScientificProtocol.RewardPolicy

open Evm Concurrency

/-! ### The table of settlements -/

/-- A row of `work_reward_settlements`, with the columns that are unique or added up. -/
structure WorkRewardSettlementRow where
  settlementId : Bytes32
  itemId : String
  policyVersion : String
  settlementLabel : String
  amountWei : ℕ
  deriving DecidableEq

/-- What is recorded for an item: the sum, and the number of settlements. -/
structure AccruedTotal where
  accruedWei : ℕ
  count : ℕ
  deriving DecidableEq

/-- The rows of an item under a policy version. -/
def rowsOf (policyVersion itemId : String) (rows : List WorkRewardSettlementRow) :
    List WorkRewardSettlementRow :=
  rows.filter fun row => row.policyVersion = policyVersion ∧ row.itemId = itemId

def readAccruedRewardTotals (rows : List WorkRewardSettlementRow) (policyVersion : String) :
    String → AccruedTotal := fun itemId =>
  { accruedWei := ((rowsOf policyVersion itemId rows).map (·.amountWei)).sum
    count := (rowsOf policyVersion itemId rows).length }

/-- The primary key, or the unique index on item, policy version and label. -/
def WorkRewardSettlementRow.conflicts (row row' : WorkRewardSettlementRow) : Bool :=
  decide (row.settlementId = row'.settlementId) ||
    decide (row.itemId = row'.itemId ∧ row.policyVersion = row'.policyVersion ∧
      row.settlementLabel = row'.settlementLabel)

/-- Inserting a row, if nothing in the table has its keys. -/
def insertWorkRewardSettlement (rows : List WorkRewardSettlementRow)
    (row : WorkRewardSettlementRow) : Option (List WorkRewardSettlementRow) :=
  if rows.any row.conflicts then none else some (rows ++ [row])

/-! ### The loop of a run -/

/-- What a candidate is owed: the target, against what the run knows to be recorded. -/
structure Charge where
  candidate : PolicyCandidate
  targetTotalWei : ℕ
  existing : AccruedTotal
  deriving DecidableEq

namespace Charge

def itemId (charge : Charge) : String := charge.candidate.itemId

def deltaWei (charge : Charge) : ℕ := charge.targetTotalWei - charge.existing.accruedWei

/-- The number of the settlement. -/
def step (charge : Charge) : ℕ := charge.existing.count + 1

end Charge

/-- `${policyVersion}:step-${n}`. -/
def stepLabel (policyVersion : String) (n : ℕ) : String :=
  policyVersion ++ (":step-" ++ toString n)

/-- The variables of a run, between two of its effects. -/
structure PolicyLoop where
  /-- The option, where 0 is none. -/
  maxSettlements : ℕ
  /-- How many settlements the run has made. -/
  settlements : ℕ
  accruedByItem : String → AccruedTotal
  /-- The groups to come. -/
  groups : List ((ℕ × ClaimRewardWorkKind) × List PolicyCandidate)
  /-- The targets of the group at hand. -/
  targets : List (String × ℕ)
  /-- The candidates to come of the group at hand. -/
  candidates : List PolicyCandidate

namespace PolicyLoop

variable (loop : PolicyLoop)

/-- A run that begins, with what is recorded at that moment. -/
def begin (policyVersion : String) (rows : List WorkRewardSettlementRow) (maxSettlements : ℕ)
    (candidates : List PolicyCandidate) : PolicyLoop where
  maxSettlements := maxSettlements
  settlements := 0
  accruedByItem := readAccruedRewardTotals rows policyVersion
  groups := candidatesByGroup candidates
  targets := []
  candidates := []

/-- What a candidate is owed now, if anything. -/
def chargeFor (candidate : PolicyCandidate) : Option Charge :=
  let targetTotalWei := (Js.mapGet loop.targets candidate.itemId).getD 0
  let existing := loop.accruedByItem candidate.itemId
  if targetTotalWei = 0 ∨ targetTotalWei ≤ existing.accruedWei then none
  else some { candidate, targetTotalWei, existing }

/-- The next group: its pool is read, and its targets are computed, unless there is nothing
to distribute. -/
def readPool (w : World) (attentionPressureBps : ℕ) : Option PolicyLoop :=
  match loop.candidates, loop.groups with
  | [], ((claimId, workKind), group) :: groups =>
    let poolBalanceWei := w.claimRewardVault.claimRewardPools claimId workKind.code
    let adjustedCandidates := applyCandidateQualityDiscounts group
    let derivedTargets :=
      deriveRewardTargetsForGroup attentionPressureBps adjustedCandidates poolBalanceWei workKind
    if poolBalanceWei = 0 ∨ derivedTargets.distributablePoolWei = 0 then some { loop with groups }
    else some { loop with
      groups
      targets := derivedTargets.allocations
      candidates := adjustedCandidates }
  | _, _ => none

/-- The next candidate of the group: the group is left if the run has made all the
settlements it may, and the candidate is passed over if nothing is owed. -/
def consider : Option (PolicyLoop × Option Charge) :=
  match loop.candidates with
  | [] => none
  | candidate :: candidates =>
    if loop.maxSettlements ≠ 0 ∧ loop.settlements ≥ loop.maxSettlements then
      some ({ loop with candidates := [] }, none)
    else some ({ loop with candidates }, loop.chargeFor candidate)

/-- The run has recorded a settlement. -/
def record (charge : Charge) : PolicyLoop :=
  { loop with
    settlements := loop.settlements + 1
    accruedByItem := Function.update loop.accruedByItem charge.itemId
      { accruedWei := charge.targetTotalWei, count := charge.existing.count + 1 } }

end PolicyLoop

/-! ### Runs -/

/-- A transaction a run has sent: for which charge, resolved to what, by whom. -/
structure PolicyTx where
  charge : Charge
  target : ResolvedWorkTarget
  settler : Address
  reply : ModuleReply

namespace PolicyTx

variable (D : Deployment) (policyVersion : String) (tx : PolicyTx)

/-- What the settlement makes of the charge. -/
def call : WorkRewardCall :=
  workRewardCall D (tx.charge.candidate.settleInput tx.charge.deltaWei
    (stepLabel policyVersion tx.charge.step)) tx.target

def accrual : ClaimRewardVault.Accrual := (tx.call D policyVersion).accrual

def message : Message where
  sender := tx.settler
  value := 0
  reply := tx.reply
  target := .claimRewardVault (.accrueWorkReward (tx.accrual D policyVersion))

/-- The row that records it. -/
def row : WorkRewardSettlementRow where
  settlementId := (tx.accrual D policyVersion).settlementId
  itemId := tx.charge.itemId
  policyVersion := policyVersion
  settlementLabel := (tx.call D policyVersion).settlementLabel
  amountWei := (tx.accrual D policyVersion).amount

end PolicyTx

/-- Where a run is. -/
inductive PolicyRun where
  /-- It has not begun. -/
  | idle
  /-- It is about to look at the next candidate or group. -/
  | running (loop : PolicyLoop)
  /-- It has called `settleWorkReward`, which looks up what it needs. -/
  | settling (loop : PolicyLoop) (charge : Charge)
  /-- It waits for a transaction. -/
  | sent (loop : PolicyLoop) (tx : PolicyTx)
  /-- The vault has paid, and the row is not there yet. -/
  | confirmed (loop : PolicyLoop) (tx : PolicyTx)
  /-- It has crashed, and a transaction may be under way. -/
  | crashed (inFlight : Option PolicyTx)
  /-- It has returned, or thrown because its reads failed or the vault rejected an accrual. -/
  | ended

/-- What the runs share. Nobody changes the columns of a table while they go on. -/
structure PolicyState where
  chain : Evm.Config World Suspended
  rows : List WorkRewardSettlementRow
  replicationsSchema : Indexer.ReplicationsSchema

/-- What a run does. -/
inductive PolicyAction where
  /-- The snapshot is read, and gives these candidates if the replications can be listed. -/
  | start (maxSettlements : ℕ) (candidates : List PolicyCandidate)
  | readPool (attentionPressureBps : ℕ)
  | consider
  /-- The settlement has resolved the work item, and sends its transaction. -/
  | send (target : ResolvedWorkTarget) (settler : Address) (reply : ModuleReply)
  /-- The chain executes the transaction. -/
  | execute
  | insert
  | return
  | crash

/-- What others do. -/
inductive PolicyEnv where
  /-- Any step of the protocol. -/
  | chain (action : Evm.Action Message Suspended)
  /-- A row of another policy version. -/
  | insert (row : WorkRewardSettlementRow)

section

variable (D : Deployment) (policyVersion : String)

/-- What is left of a run that crashes. -/
def PolicyRun.afterCrash : PolicyRun → Option PolicyRun
  | .running _ | .settling _ _ | .confirmed _ _ => some (.crashed none)
  | .sent _ tx => some (.crashed (some tx))
  | .idle | .crashed _ | .ended => none

/-- The chain executes a transaction, between two others: `paid` if the vault pays,
`rejected` if it reverts. -/
def executeTx (tx : PolicyTx) (s : PolicyState) (paid rejected : PolicyRun) :
    Option (PolicyState × PolicyRun) :=
  match s.chain.frames, World.exec D (tx.message D policyVersion) s.chain.world with
  | [], .ok (.done w) => some ({ s with chain := ⟨w, []⟩ }, paid)
  | [], .error _ => some (s, rejected)
  | _, _ => none

/-- **One action of a run.** -/
def policyAct : PolicyAction → PolicyState → PolicyRun → Option (PolicyState × PolicyRun)
  | .start maxSettlements candidates, s, .idle =>
    if s.replicationsSchema.HasDecisionColumn then
      some (s, .running (.begin policyVersion s.rows maxSettlements candidates))
    else some (s, .ended)
  | .readPool attentionPressureBps, s, .running loop =>
    (loop.readPool s.chain.world attentionPressureBps).map fun loop => (s, .running loop)
  | .consider, s, .running loop =>
    loop.consider.map fun considered => match considered with
      | (loop, some charge) => (s, .settling loop charge)
      | (loop, none) => (s, .running loop)
  | .send target settler reply, s, .settling loop charge =>
    some (s, .sent loop { charge, target, settler, reply })
  | .execute, s, .sent loop tx => executeTx D policyVersion tx s (.confirmed loop tx) .ended
  -- The transaction of a run that has crashed is executed all the same.
  | .execute, s, .crashed (some tx) => executeTx D policyVersion tx s (.crashed none) .ended
  | .insert, s, .confirmed loop tx =>
    (insertWorkRewardSettlement s.rows (tx.row D policyVersion)).map fun rows =>
      ({ s with rows }, .running (loop.record tx.charge))
  | .return, s, .running loop =>
    if loop.candidates.isEmpty && loop.groups.isEmpty then some (s, .ended) else none
  | .crash, s, run => run.afterCrash.map fun run => (s, run)
  | _, _, _ => none

/-- What others do to the shared state. -/
inductive PolicyEnvStep : PolicyEnv → PolicyState → PolicyState → Prop
  | chain {s : PolicyState} {a : Evm.Action Message Suspended}
      {c : Evm.Config World Suspended} : (protocol D).Forward s.chain a c →
      PolicyEnvStep (.chain a) s { s with chain := c }
  | insert {s : PolicyState} {row : WorkRewardSettlementRow}
      {rows : List WorkRewardSettlementRow} : row.policyVersion ≠ policyVersion →
      insertWorkRewardSettlement s.rows row = some rows →
      PolicyEnvStep (.insert row) s { s with rows }

/-- **The runs of one policy version**, on any chain that can be observed, before the first
of them has recorded anything. -/
def rewardPolicy : Processes PolicyState PolicyRun PolicyAction PolicyEnv where
  genesis s := (protocol D).Reachable s.chain ∧ ∀ row ∈ s.rows, row.policyVersion ≠ policyVersion
  idle := .idle
  act := policyAct D policyVersion
  env := PolicyEnvStep D policyVersion

end

/-- One step of a history. Runs are numbered in any way. -/
abbrev PolicyEvent : Type := Concurrency.Event ℕ PolicyState PolicyRun PolicyAction PolicyEnv

/-- A moment of a history. -/
abbrev PolicyMoment : Type := Concurrency.Config ℕ PolicyState PolicyRun

/-! ### What an action does -/

section

variable {loop loop' : PolicyLoop} {candidate : PolicyCandidate} {charge : Charge}

/-- **What is charged**: the difference between a target of the group and what the run
knows of the item. -/
theorem PolicyLoop.chargeFor_eq_some (h : loop.chargeFor candidate = some charge) :
    Js.mapGet loop.targets charge.itemId = some charge.targetTotalWei ∧
      charge.existing = loop.accruedByItem charge.itemId ∧
      charge.existing.accruedWei < charge.targetTotalWei := by
  rw [chargeFor] at h
  split at h
  next => exact absurd h (by simp)
  next howed =>
    obtain ⟨hne, hlt⟩ := not_or.mp howed
    obtain rfl := Option.some.inj h
    refine ⟨?_, rfl, Nat.lt_of_not_le hlt⟩
    rcases htarget : Js.mapGet loop.targets candidate.itemId with _ | target
    · exact absurd (by rw [htarget, Option.getD_none]) hne
    · simp only [Charge.itemId, htarget, Option.getD_some]

/-- A run that looks at a candidate learns nothing. -/
theorem PolicyLoop.consider_eq_some {considered : Option Charge}
    (h : loop.consider = some (loop', considered)) :
    loop'.accruedByItem = loop.accruedByItem ∧ loop'.targets = loop.targets ∧
      ∀ charge, considered = some charge → ∃ candidate, loop.chargeFor candidate = some charge := by
  rw [consider] at h
  split at h
  next => exact absurd h (by simp)
  next candidate candidates _ =>
    split at h
    · obtain ⟨rfl, rfl⟩ := Prod.mk.inj (Option.some.inj h)
      exact ⟨rfl, rfl, fun charge hcharge => absurd hcharge (by simp)⟩
    · obtain ⟨rfl, rfl⟩ := Prod.mk.inj (Option.some.inj h)
      exact ⟨rfl, rfl, fun charge hcharge => ⟨candidate, hcharge⟩⟩

/-- A run that reads a pool learns nothing of what is recorded. -/
theorem PolicyLoop.accruedByItem_readPool {w : World} {attentionPressureBps : ℕ}
    (h : loop.readPool w attentionPressureBps = some loop') :
    loop'.accruedByItem = loop.accruedByItem := by
  rw [readPool] at h
  split at h
  next =>
    dsimp only at h
    split at h
    all_goals
      obtain rfl := Option.some.inj h
      rfl
  next => exact absurd h (by simp)

/-- After a settlement has been recorded. -/
theorem PolicyLoop.accruedByItem_record_self :
    (loop.record charge).accruedByItem charge.itemId =
      { accruedWei := charge.targetTotalWei, count := charge.existing.count + 1 } :=
  Function.update_self _ _ _

theorem PolicyLoop.accruedByItem_record_of_ne {itemId : String} (h : charge.itemId ≠ itemId) :
    (loop.record charge).accruedByItem itemId = loop.accruedByItem itemId :=
  Function.update_of_ne (Ne.symm h) _ _

end

section

variable {policyVersion itemId : String} {rows rows' : List WorkRewardSettlementRow}
  {row : WorkRewardSettlementRow}

theorem insertWorkRewardSettlement_eq_some (h : insertWorkRewardSettlement rows row = some rows') :
    rows' = rows ++ [row] := by
  rw [insertWorkRewardSettlement] at h
  split at h
  next => exact absurd h (by simp)
  next => exact (Option.some.inj h).symm

/-- The rows of an item, when one more is inserted for it. -/
theorem rowsOf_insert_self (h : insertWorkRewardSettlement rows row = some rows')
    (hversion : row.policyVersion = policyVersion) :
    rowsOf policyVersion row.itemId rows' = rowsOf policyVersion row.itemId rows ++ [row] := by
  rw [insertWorkRewardSettlement_eq_some h, rowsOf, List.filter_append, List.filter_singleton,
    decide_eq_true ⟨hversion, rfl⟩, cond_true, rowsOf]

theorem rowsOf_insert_of_ne (h : insertWorkRewardSettlement rows row = some rows')
    (hrow : ¬(row.policyVersion = policyVersion ∧ row.itemId = itemId)) :
    rowsOf policyVersion itemId rows' = rowsOf policyVersion itemId rows := by
  rw [insertWorkRewardSettlement_eq_some h, rowsOf, List.filter_append, List.filter_singleton,
    decide_eq_false hrow, cond_false, List.append_nil, rowsOf]

end

section

variable (D : Deployment) (policyVersion : String)

/-- **What an action of a run does**, to the shared state and to the run. -/
inductive PolicyStep :
    PolicyAction → PolicyState → PolicyRun → PolicyState → PolicyRun → Prop
  | start {s : PolicyState} {maxSettlements : ℕ} {candidates : List PolicyCandidate} :
      s.replicationsSchema.HasDecisionColumn →
      PolicyStep (.start maxSettlements candidates) s .idle s
        (.running (.begin policyVersion s.rows maxSettlements candidates))
  | failed {s : PolicyState} {maxSettlements : ℕ} {candidates : List PolicyCandidate} :
      ¬s.replicationsSchema.HasDecisionColumn →
      PolicyStep (.start maxSettlements candidates) s .idle s .ended
  | readPool {s : PolicyState} {attentionPressureBps : ℕ} {loop loop' : PolicyLoop} :
      loop.readPool s.chain.world attentionPressureBps = some loop' →
      PolicyStep (.readPool attentionPressureBps) s (.running loop) s (.running loop')
  | pass {s : PolicyState} {loop loop' : PolicyLoop} :
      loop.consider = some (loop', none) →
      PolicyStep .consider s (.running loop) s (.running loop')
  | charge {s : PolicyState} {loop loop' : PolicyLoop} {charge : Charge} :
      loop.consider = some (loop', some charge) →
      PolicyStep .consider s (.running loop) s (.settling loop' charge)
  | send {s : PolicyState} {loop : PolicyLoop} {charge : Charge} {target : ResolvedWorkTarget}
      {settler : Address} {reply : ModuleReply} :
      PolicyStep (.send target settler reply) s (.settling loop charge) s
        (.sent loop { charge, target, settler, reply })
  | paid {s : PolicyState} {loop : PolicyLoop} {tx : PolicyTx} {w : World} :
      s.chain.frames = [] →
      World.exec D (tx.message D policyVersion) s.chain.world = .ok (.done w) →
      PolicyStep .execute s (.sent loop tx) { s with chain := ⟨w, []⟩ } (.confirmed loop tx)
  | rejected {s : PolicyState} {loop : PolicyLoop} {tx : PolicyTx} {err : Failure Revert} :
      s.chain.frames = [] →
      World.exec D (tx.message D policyVersion) s.chain.world = .error err →
      PolicyStep .execute s (.sent loop tx) s .ended
  | paidLate {s : PolicyState} {tx : PolicyTx} {w : World} :
      s.chain.frames = [] →
      World.exec D (tx.message D policyVersion) s.chain.world = .ok (.done w) →
      PolicyStep .execute s (.crashed (some tx)) { s with chain := ⟨w, []⟩ } (.crashed none)
  | rejectedLate {s : PolicyState} {tx : PolicyTx} {err : Failure Revert} :
      s.chain.frames = [] →
      World.exec D (tx.message D policyVersion) s.chain.world = .error err →
      PolicyStep .execute s (.crashed (some tx)) s .ended
  | insert {s : PolicyState} {loop : PolicyLoop} {tx : PolicyTx}
      {rows : List WorkRewardSettlementRow} :
      insertWorkRewardSettlement s.rows (tx.row D policyVersion) = some rows →
      PolicyStep .insert s (.confirmed loop tx) { s with rows }
        (.running (loop.record tx.charge))
  | return {s : PolicyState} {loop : PolicyLoop} :
      PolicyStep .return s (.running loop) s .ended
  | crash {s : PolicyState} {run run' : PolicyRun} :
      run.afterCrash = some run' → PolicyStep .crash s run s run'

end

section

variable {D : Deployment} {policyVersion : String} {s s' : PolicyState} {run run' : PolicyRun}

theorem executeTx_eq_some {tx : PolicyTx} {paid rejected : PolicyRun}
    (h : executeTx D policyVersion tx s paid rejected = some (s', run')) :
    s.chain.frames = [] ∧
      ((∃ w, World.exec D (tx.message D policyVersion) s.chain.world = .ok (.done w) ∧
          s' = { s with chain := ⟨w, []⟩ } ∧ run' = paid) ∨
        ∃ err, World.exec D (tx.message D policyVersion) s.chain.world = .error err ∧
          s' = s ∧ run' = rejected) := by
  unfold executeTx at h
  split at h
  next w hframes hexec =>
    obtain ⟨rfl, rfl⟩ := Prod.mk.inj (Option.some.inj h)
    exact ⟨hframes, .inl ⟨w, hexec, rfl, rfl⟩⟩
  next err hframes hexec =>
    obtain ⟨rfl, rfl⟩ := Prod.mk.inj (Option.some.inj h)
    exact ⟨hframes, .inr ⟨err, hexec, rfl, rfl⟩⟩
  next => exact absurd h (by simp)

/-- **Every action of a run is one of the steps above.** -/
theorem policyStep_of_act {a : PolicyAction}
    (h : policyAct D policyVersion a s run = some (s', run')) :
    PolicyStep D policyVersion a s run s' run' := by
  unfold policyAct at h
  split at h
  · split at h
    next hcolumn =>
      obtain ⟨rfl, rfl⟩ := Prod.mk.inj (Option.some.inj h)
      exact .start hcolumn
    next hcolumn =>
      obtain ⟨rfl, rfl⟩ := Prod.mk.inj (Option.some.inj h)
      exact .failed hcolumn
  · obtain ⟨loop', hloop, heq⟩ := Option.map_eq_some_iff.mp h
    obtain ⟨rfl, rfl⟩ := Prod.mk.inj heq
    exact .readPool hloop
  · obtain ⟨⟨loop', charge⟩, hconsider, heq⟩ := Option.map_eq_some_iff.mp h
    cases charge with
    | none =>
      obtain ⟨rfl, rfl⟩ := Prod.mk.inj heq
      exact .pass hconsider
    | some charge =>
      obtain ⟨rfl, rfl⟩ := Prod.mk.inj heq
      exact .charge hconsider
  · obtain ⟨rfl, rfl⟩ := Prod.mk.inj (Option.some.inj h)
    exact .send
  · obtain ⟨hframes, ⟨w, hexec, rfl, rfl⟩ | ⟨err, hexec, rfl, rfl⟩⟩ := executeTx_eq_some h
    · exact .paid hframes hexec
    · exact .rejected hframes hexec
  · obtain ⟨hframes, ⟨w, hexec, rfl, rfl⟩ | ⟨err, hexec, rfl, rfl⟩⟩ := executeTx_eq_some h
    · exact .paidLate hframes hexec
    · exact .rejectedLate hframes hexec
  · obtain ⟨rows, hrows, heq⟩ := Option.map_eq_some_iff.mp h
    obtain ⟨rfl, rfl⟩ := Prod.mk.inj heq
    exact .insert hrows
  · split at h
    · obtain ⟨rfl, rfl⟩ := Prod.mk.inj (Option.some.inj h)
      exact .return
    · exact absurd h (by simp)
  · obtain ⟨run', hcrash, heq⟩ := Option.map_eq_some_iff.mp h
    obtain ⟨rfl, rfl⟩ := Prod.mk.inj heq
    exact .crash hcrash
  · exact absurd h (by simp)

/-- Nobody changes the columns. -/
theorem PolicyStep.replicationsSchema_eq {a : PolicyAction}
    (h : PolicyStep D policyVersion a s run s' run') :
    s'.replicationsSchema = s.replicationsSchema := by
  cases h <;> rfl

theorem PolicyEnvStep.replicationsSchema_eq {b : PolicyEnv}
    (h : PolicyEnvStep D policyVersion b s s') :
    s'.replicationsSchema = s.replicationsSchema := by
  cases h <;> rfl

/-- What others do leaves the rows of the policy version alone. -/
theorem PolicyEnvStep.rowsOf_eq {b : PolicyEnv} (h : PolicyEnvStep D policyVersion b s s')
    (itemId : String) :
    rowsOf policyVersion itemId s'.rows = rowsOf policyVersion itemId s.rows := by
  cases h with
  | chain _ => rfl
  | insert hversion hrows => exact rowsOf_insert_of_ne hrows fun heq => hversion heq.1

end

end ScientificProtocol.RewardPolicy
