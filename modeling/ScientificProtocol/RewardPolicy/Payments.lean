import ScientificProtocol.RewardPolicy.Policy
import ScientificProtocol.Rewards.Conservation
import Mathlib.Data.List.MinMax

/-!
# What the runs of a policy pay

What can be read off a history of `ScientificProtocol.RewardPolicy.rewardPolicy`: the
accruals that were paid, each with the run that sent it and the charge it was sent for;
the targets the runs have computed; and the history of the chain.

The only thing an accrual says to the vault about its item and its step is the hash of
both, `ScientificProtocol.RewardPolicy.policySettlement`. So what the vault rejects is
told here in those terms: `ScientificProtocol.RewardPolicy.settled_of_paid`.
-/

namespace ScientificProtocol.RewardPolicy

open Evm Concurrency

/-! ### The settlement of a step -/

section

variable (D : Deployment) (policyVersion : String)

/-- The settlement of a step of an item. -/
def policySettlement (itemId : String) (n : ℕ) : Bytes32 :=
  settlementId D itemId (Js.trim (stepLabel policyVersion n))

end

section

variable {D : Deployment} {policyVersion : String} {tx : PolicyTx}

/-- A label of a step trims to something. -/
theorem trim_stepLabel_ne_empty (n : ℕ) : Js.trim (stepLabel policyVersion n) ≠ "" := by
  obtain ⟨digits, last, hdigits, hlast⟩ := Js.toList_toString n
  have htail : (":step-" ++ toString n).toList = ':' :: ("step-".toList ++ digits) ++ [last] := by
    rw [String.toList_append, hdigits, ← List.append_assoc]
    rfl
  rw [stepLabel, Js.trim_append htail (by decide) (Js.isSpace_of_isDigit hlast)]
  intro hempty
  have hlist := congrArg String.toList hempty
  rw [String.toList_append, htail] at hlist
  exact absurd hlist (by simp)

/-- **The settlement an accrual asks for** is that of its item and its step. -/
theorem settlementId_accrual : (tx.accrual D policyVersion).settlementId =
    policySettlement D policyVersion tx.charge.itemId tx.charge.step := by
  rw [PolicyTx.accrual, PolicyTx.call, workRewardCall_settlementId,
    PolicyCandidate.settleInput_settlementLabel, settlementLabelOf_some (trim_stepLabel_ne_empty _),
    PolicyCandidate.settleInput_itemId, policySettlement, Charge.itemId]

/-- **The amount an accrual asks for** is the difference to the target. -/
theorem amount_accrual : (tx.accrual D policyVersion).amount = tx.charge.deltaWei := rfl

end

/-! ### Payments -/

/-- The transaction an action of a run has paid, if it has. -/
def paidTx : PolicyAction → PolicyRun → PolicyRun → Option PolicyTx
  | .execute, .sent _ tx, .confirmed _ _ => some tx
  | .execute, .crashed (some tx), .crashed none => some tx
  | _, _, _ => none

/-- What is paid in a step: by which run, and what it had sent. -/
def paymentOf (e : PolicyEvent) : Option (ℕ × PolicyTx) :=
  match e.label with
  | .act i a => (paidTx a (e.before.process i) (e.after.process i)).map (i, ·)
  | .env _ => none

/-- What was paid for an item, the oldest payment first. -/
def payments (itemId : String) (tr : List PolicyEvent) : List (ℕ × PolicyTx) :=
  (tr.filterMap paymentOf).filter (·.2.charge.itemId = itemId)

/-- The total paid for an item. -/
def paidTotal (D : Deployment) (policyVersion itemId : String) (tr : List PolicyEvent) : ℕ :=
  ((payments itemId tr).map fun payment => (payment.2.accrual D policyVersion).amount).sum

/-- The target an action of a run has computed for an item, if it has: it has read a pool,
and sets out with the targets of the group. -/
def targetBy (itemId : String) : PolicyAction → PolicyRun → Option ℕ
  | .readPool _, .running loop => Js.mapGet loop.targets itemId
  | _, _ => none

/-- The target that is computed for an item in a step, and by which run. -/
def targetOf (itemId : String) (e : PolicyEvent) : Option (ℕ × ℕ) :=
  match e.label with
  | .act i a => (targetBy itemId a (e.after.process i)).map (i, ·)
  | .env _ => none

/-- Every target computed for an item, with the run that did. -/
def computedTargets (itemId : String) (tr : List PolicyEvent) : List (ℕ × ℕ) :=
  tr.filterMap (targetOf itemId)

/-- The largest target ever computed for an item. -/
def largestTarget (itemId : String) (tr : List PolicyEvent) : ℕ :=
  ((computedTargets itemId tr).map (·.2)).foldr max 0

section

variable {itemId : String} {tr : List PolicyEvent} {e : PolicyEvent} {target : ℕ × ℕ}

/-- What a list of events tells, when one more happens. -/
theorem filterMap_snoc {α β : Type} (f : α → Option β) (l : List α) (a : α) :
    (l ++ [a]).filterMap f = l.filterMap f ++ (f a).toList := by
  rw [List.filterMap_append]
  rcases h : f a with _ | b
  · rw [List.filterMap_cons_none h, List.filterMap_nil, Option.toList_none]
  · rw [List.filterMap_cons_some h, List.filterMap_nil, Option.toList_some]

theorem payments_snoc : payments itemId (tr ++ [e]) = payments itemId tr ++
    (paymentOf e).toList.filter (·.2.charge.itemId = itemId) := by
  rw [payments, filterMap_snoc, List.filter_append, payments]

theorem payments_snoc_of_none (h : paymentOf e = none) :
    payments itemId (tr ++ [e]) = payments itemId tr := by
  rw [payments_snoc, h, Option.toList_none, List.filter_nil, List.append_nil]

/-- A payment is the last one of its item. -/
theorem payments_snoc_self {payment : ℕ × PolicyTx} (h : paymentOf e = some payment) :
    payments payment.2.charge.itemId (tr ++ [e]) =
      payments payment.2.charge.itemId tr ++ [payment] := by
  rw [payments_snoc, h, Option.toList_some, List.filter_singleton, decide_eq_true rfl,
    cond_true]

/-- It leaves the other items alone. -/
theorem payments_snoc_of_ne {payment : ℕ × PolicyTx} (h : paymentOf e = some payment)
    (hitem : payment.2.charge.itemId ≠ itemId) :
    payments itemId (tr ++ [e]) = payments itemId tr := by
  rw [payments_snoc, h, Option.toList_some, List.filter_singleton, decide_eq_false hitem,
    cond_false, List.append_nil]

theorem mem_payments_snoc {payment payment' : ℕ × PolicyTx} (h : paymentOf e = some payment) :
    payment' ∈ payments itemId (tr ++ [e]) ↔
      payment' ∈ payments itemId tr ∨ payment' = payment ∧ payment.2.charge.itemId = itemId := by
  by_cases hitem : payment.2.charge.itemId = itemId
  · subst hitem
    rw [payments_snoc_self h, List.mem_append, List.mem_singleton, and_iff_left rfl]
  · rw [payments_snoc_of_ne h hitem, or_iff_left fun hnow => hitem hnow.2]

theorem computedTargets_snoc : computedTargets itemId (tr ++ [e]) =
    computedTargets itemId tr ++ (targetOf itemId e).toList :=
  filterMap_snoc _ _ _

/-- A target that has been computed is at most the largest one. -/
theorem le_largestTarget (h : target ∈ computedTargets itemId tr) :
    target.2 ≤ largestTarget itemId tr :=
  List.le_max_of_le (List.mem_map_of_mem h) le_rfl

end

/-! ### The chain -/

section

variable (D : Deployment) (policyVersion : String)

/-- What a step does on the chain, if it does something there. -/
def chainEvent (e : PolicyEvent) : Option ProtocolEvent :=
  match e.label with
  | .act _ _ => (paymentOf e).map fun payment => ⟨e.before.shared.chain.world,
      .exec (payment.2.message D policyVersion), e.after.shared.chain.world⟩
  | .env (.chain action) =>
    some ⟨e.before.shared.chain.world, action, e.after.shared.chain.world⟩
  | .env (.insert _) => none

/-- **The history of the chain** in a history of the policy. -/
def chainTrace (tr : List PolicyEvent) : List ProtocolEvent :=
  tr.filterMap (chainEvent D policyVersion)

end

section

variable {D : Deployment} {policyVersion : String} {s s' : PolicyState} {run run' : PolicyRun}
  {tx : PolicyTx} {w w' : World}

/-- A transaction that goes through is an accrual that goes through. -/
theorem vaultCall_message : vaultCall (.exec (tx.message D policyVersion)) =
    some (.accrueWorkReward (tx.accrual D policyVersion)) := rfl

/-- **A payment spends its settlement**, which was not spent before. -/
theorem settled_of_paid
    (h : World.exec D (tx.message D policyVersion) w = .ok (.done w')) :
    rewardSettled (policySettlement D policyVersion tx.charge.itemId tx.charge.step) w = false ∧
      rewardSettled (policySettlement D policyVersion tx.charge.itemId tx.charge.step) w' =
        true := by
  have heffect := (World.step_of_exec h).accrualEffect vaultCall_message
  rw [← settlementId_accrual]
  exact heffect.settled

/-- What is spent stays spent. -/
theorem settled_of_step {a : Evm.Action Message Suspended} {id : Bytes32}
    (h : World.Step D a w w') (hsettled : rewardSettled id w = true) :
    rewardSettled id w' = true := by
  rw [(h.rewardSettled id).2, hsettled, Bool.true_or]

/-- It stays spent whatever others do. -/
theorem PolicyEnvStep.settled {b : PolicyEnv} (h : PolicyEnvStep D policyVersion b s s')
    {id : Bytes32} (hsettled : rewardSettled id s.chain.world = true) :
    rewardSettled id s'.chain.world = true := by
  cases h with
  | chain hforward => exact settled_of_step (World.step_of_effect hforward.effect) hsettled
  | insert _ _ => exact hsettled

/-- **What an action of a run does on the chain**: it pays, or it does nothing there. -/
theorem PolicyStep.chain_cases {a : PolicyAction}
    (h : PolicyStep D policyVersion a s run s' run') :
    (paidTx a run run' = none ∧ s'.chain = s.chain) ∨
      ∃ tx w, paidTx a run run' = some tx ∧ s.chain.frames = [] ∧
        World.exec D (tx.message D policyVersion) s.chain.world = .ok (.done w) ∧
        s'.chain = ⟨w, []⟩ := by
  cases h with
  | paid hframes hexec | paidLate hframes hexec =>
    exact .inr ⟨_, _, rfl, hframes, hexec, rfl⟩
  | start _ | failed _ | readPool _ | pass _ | charge _ | send | rejected _ _ | rejectedLate _ _
  | insert _ | «return» | crash _ => exact .inl ⟨rfl, rfl⟩

end

section

variable {D : Deployment} {policyVersion : String} {c c' : PolicyMoment} {i : ℕ}
  {a : PolicyAction} {s : PolicyState} {run : PolicyRun} {tr : List PolicyEvent}

/-- What an action of a run pays, read off the event. -/
theorem paymentOf_act :
    paymentOf ⟨c, .act i a, ⟨s, Function.update c.process i run⟩⟩ =
      (paidTx a (c.process i) run).map (i, ·) := by
  simp only [paymentOf, Function.update_self]

/-- What it computes, read off the event. -/
theorem targetOf_act {itemId : String} :
    targetOf itemId ⟨c, .act i a, ⟨s, Function.update c.process i run⟩⟩ =
      (targetBy itemId a run).map (i, ·) := by
  simp only [targetOf, Function.update_self]

/-- **Every payment is an accrual on the chain.** -/
theorem exec_of_payment {l : Label ℕ PolicyAction PolicyEnv} {payment : ℕ × PolicyTx}
    (hstep : (rewardPolicy D policyVersion).Step c l c')
    (hpay : paymentOf ⟨c, l, c'⟩ = some payment) :
    c.shared.chain.frames = [] ∧ World.exec D (payment.2.message D policyVersion)
      c.shared.chain.world = .ok (.done c'.shared.chain.world) := by
  cases hstep with
  | act hact =>
    rw [paymentOf_act] at hpay
    obtain ⟨tx, htx, rfl⟩ := Option.map_eq_some_iff.mp hpay
    rcases (policyStep_of_act hact).chain_cases with ⟨hnone, -⟩ | ⟨tx', w, htx', hframes, hexec, hw⟩
    · exact absurd (hnone.symm.trans htx) (by simp)
    · obtain rfl := Option.some.inj (htx'.symm.trans htx)
      exact ⟨hframes, by rw [hw]; exact hexec⟩
  | env _ => exact absurd hpay (by simp [paymentOf])

/-- An action that pays computes no targets. -/
theorem targetOf_of_payment {e : PolicyEvent} {payment : ℕ × PolicyTx}
    (hpay : paymentOf e = some payment) (itemId : String) : targetOf itemId e = none := by
  obtain ⟨before, label, after⟩ := e
  cases label with
  | env _ => rfl
  | act i a =>
    cases a with
    | execute => rfl
    | _ => exact absurd hpay (by simp [paymentOf, paidTx])

/-- **What the runs do on the chain is a history of the chain**, behind what had happened
before. -/
theorem run_chainTrace (h : (rewardPolicy D policyVersion).Run tr c) :
    ∃ past, (protocol D).Run (past ++ chainTrace D policyVersion tr) c.shared.chain := by
  refine h.history (Q := fun tr c =>
    ∃ past, (protocol D).Run (past ++ chainTrace D policyVersion tr) c.shared.chain) ?_ ?_
  · rintro s ⟨hreachable, -⟩
    obtain ⟨past, hpast⟩ := hreachable.exists_run
    exact ⟨past, by rwa [chainTrace, List.filterMap_nil, List.append_nil]⟩
  · intro tr c l c' _ ih hstep
    obtain ⟨past, hpast⟩ := ih
    refine ⟨past, ?_⟩
    rw [chainTrace, filterMap_snoc, ← List.append_assoc, ← chainTrace]
    cases hstep with
    | @act i a s run hact =>
      have hevent : chainEvent D policyVersion
          ⟨c, .act i a, ⟨s, Function.update c.process i run⟩⟩ =
          (paidTx a (c.process i) run).map fun tx =>
            ⟨c.shared.chain.world, .exec (tx.message D policyVersion), s.chain.world⟩ := by
        rw [chainEvent, paymentOf_act, Option.map_map]
        rfl
      rw [hevent]
      rcases (policyStep_of_act hact).chain_cases with ⟨hnone, hchain⟩ |
        ⟨tx, w, htx, hframes, hexec, hchain⟩
      · rw [hnone, Option.map_none, Option.toList_none, List.append_nil, hchain]
        exact hpast
      · rw [htx, Option.map_some, Option.toList_some, hchain]
        have hforward : (protocol D).Forward c.shared.chain (.exec (tx.message D policyVersion))
            ⟨w, []⟩ := by
          generalize c.shared.chain = chain at hframes hexec
          obtain ⟨w₀, frames⟩ := chain
          obtain rfl : frames = [] := hframes
          exact .call hexec
        exact hpast.snoc hforward
    | @env b s henv =>
      cases henv with
      | chain hforward => exact hpast.snoc hforward
      | insert _ _ => simpa [chainEvent] using hpast

end

end ScientificProtocol.RewardPolicy
