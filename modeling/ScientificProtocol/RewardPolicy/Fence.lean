import ScientificProtocol.RewardPolicy.Payments
import ScientificProtocol.RewardPolicy.Keys
import ScientificProtocol.Concurrency.StepLedger

/-!
# The fence of the reward policy

Nothing keeps two runs of the policy apart but the number in the settlement label: a run
that has not seen all payments of an item asks for a settlement that is spent, and the
vault rejects it. So the payments of an item are a ledger of numbered steps
(`Concurrency.StepLedger`), and everything a run knows of it is a view, in the sense of
`Concurrency.View`: what it has read of the table, and the table itself, which lags
behind by the payments whose row was not inserted.

`ScientificProtocol.RewardPolicy.Fence` is the invariant of the chain and the table,
`ScientificProtocol.RewardPolicy.Owns` what each run may rely on while the others act. A
run that has paid and not yet recorded owns the last entry of the ledger, and nobody else
can pay for the item before the row is there.
-/

namespace ScientificProtocol.RewardPolicy

open Evm Concurrency

/-! ### The ledger of an item -/

/-- The number of a payment. -/
def stepOf (payment : ℕ × PolicyTx) : ℕ := payment.2.charge.step

/-- The amount of a payment. -/
def deltaOf (payment : ℕ × PolicyTx) : ℕ := payment.2.charge.deltaWei

/-- The total a payment is meant to reach. -/
def targetTotalOf (payment : ℕ × PolicyTx) : ℕ := payment.2.charge.targetTotalWei

section

variable (D : Deployment) (policyVersion : String) (tr : List PolicyEvent) (s : PolicyState)

/-- **The invariant** of the chain and the table. -/
structure Fence : Prop where
  ledger : ∀ itemId, StepLedger stepOf deltaOf targetTotalOf (payments itemId tr)
  /-- The table is a view of the ledger. -/
  rows : ∀ itemId, View deltaOf (payments itemId tr) (rowsOf policyVersion itemId s.rows).length
    ((rowsOf policyVersion itemId s.rows).map (·.amountWei)).sum
  settled : ∀ itemId, ∀ payment ∈ payments itemId tr,
    rewardSettled (policySettlement D policyVersion itemId (stepOf payment)) s.chain.world = true
  computed : ∀ itemId, ∀ payment ∈ payments itemId tr,
    (payment.1, targetTotalOf payment) ∈ computedTargets itemId tr

/-! ### What a run owns -/

/-- What was read of an item is a view of its ledger, no longer than the table is. -/
structure Seen (itemId : String) (total : AccruedTotal) : Prop where
  view : View deltaOf (payments itemId tr) total.count total.accruedWei
  count_le : total.count ≤ (rowsOf policyVersion itemId s.rows).length

/-- What the variables of a run are good for. -/
structure Informed (i : ℕ) (loop : PolicyLoop) : Prop where
  seen : ∀ itemId, Seen policyVersion tr s itemId (loop.accruedByItem itemId)
  computed : ∀ itemId target, Js.mapGet loop.targets itemId = some target →
    (i, target) ∈ computedTargets itemId tr

/-- What a charge is good for. -/
structure Due (i : ℕ) (charge : Charge) : Prop where
  seen : Seen policyVersion tr s charge.itemId charge.existing
  lt : charge.existing.accruedWei < charge.targetTotalWei
  computed : (i, charge.targetTotalWei) ∈ computedTargets charge.itemId tr

/-- The run has made the last payment of the item, and only that one is not in the table. -/
def Unrecorded (i : ℕ) (tx : PolicyTx) : Prop :=
  ∃ others, payments tx.charge.itemId tr = others ++ [(i, tx)] ∧
    (rowsOf policyVersion tx.charge.itemId s.rows).length = others.length

/-- **What a run owns**, wherever it is. -/
def Owns (i : ℕ) : PolicyRun → Prop
  | .idle | .ended | .crashed none => True
  | .running loop => Informed policyVersion tr s i loop
  | .settling loop charge => Informed policyVersion tr s i loop ∧ Due policyVersion tr s i charge
  | .sent loop tx => Informed policyVersion tr s i loop ∧ Due policyVersion tr s i tx.charge
  | .confirmed loop tx => Informed policyVersion tr s i loop ∧
      Due policyVersion tr s i tx.charge ∧ Unrecorded policyVersion tr s i tx
  | .crashed (some tx) => Due policyVersion tr s i tx.charge

end

/-! ### What time does to it -/

section

variable {D : Deployment} {policyVersion : String} {tr : List PolicyEvent} {s s' : PolicyState}
  {e : PolicyEvent} {i : ℕ} {run : PolicyRun}

/-- No row of the policy version is taken away. -/
def RowsGrow (policyVersion : String) (s s' : PolicyState) : Prop :=
  ∀ itemId, (rowsOf policyVersion itemId s.rows).length ≤
    (rowsOf policyVersion itemId s'.rows).length

theorem rowsGrow_insert {row : WorkRewardSettlementRow} {rows : List WorkRewardSettlementRow}
    (h : insertWorkRewardSettlement s.rows row = some rows) :
    RowsGrow policyVersion s { s with rows } := by
  intro itemId
  rw [insertWorkRewardSettlement_eq_some h, rowsOf, rowsOf, List.filter_append, List.length_append]
  exact Nat.le_add_right _ _

theorem Seen.later {itemId : String} {total : AccruedTotal}
    (h : Seen policyVersion tr s itemId total) (hrows : RowsGrow policyVersion s s') :
    Seen policyVersion (tr ++ [e]) s' itemId total where
  view := by
    rw [payments_snoc]
    exact h.view.append _
  count_le := h.count_le.trans (hrows itemId)

theorem mem_computedTargets_snoc {itemId : String} {target : ℕ × ℕ}
    (h : target ∈ computedTargets itemId tr) : target ∈ computedTargets itemId (tr ++ [e]) := by
  rw [computedTargets_snoc]
  exact List.mem_append_left _ h

theorem Informed.later {loop : PolicyLoop} (h : Informed policyVersion tr s i loop)
    (hrows : RowsGrow policyVersion s s') : Informed policyVersion (tr ++ [e]) s' i loop where
  seen itemId := (h.seen itemId).later hrows
  computed itemId target htarget := mem_computedTargets_snoc (h.computed itemId target htarget)

theorem Due.later {charge : Charge} (h : Due policyVersion tr s i charge)
    (hrows : RowsGrow policyVersion s s') : Due policyVersion (tr ++ [e]) s' i charge where
  seen := h.seen.later hrows
  lt := h.lt
  computed := mem_computedTargets_snoc h.computed

/-- **What a run owns stays its own** while rows are only added, as long as nobody pays for
or records the item it has paid for. -/
theorem Owns.later (h : Owns policyVersion tr s i run) (hrows : RowsGrow policyVersion s s')
    (hkeep : ∀ loop tx, run = .confirmed loop tx → Unrecorded policyVersion tr s i tx →
      Unrecorded policyVersion (tr ++ [e]) s' i tx) :
    Owns policyVersion (tr ++ [e]) s' i run := by
  cases run with
  | idle | ended => trivial
  | running loop => exact Informed.later h hrows
  | settling loop charge => exact ⟨h.1.later hrows, h.2.later hrows⟩
  | sent loop tx => exact ⟨h.1.later hrows, h.2.later hrows⟩
  | confirmed loop tx =>
    exact ⟨h.1.later hrows, h.2.1.later hrows, hkeep loop tx rfl h.2.2⟩
  | crashed inFlight =>
    cases inFlight with
    | none => trivial
    | some tx => exact Due.later h hrows

/-- Nothing is paid in the step, and nothing is recorded. -/
structure Quiet (policyVersion : String) (e : PolicyEvent) (s s' : PolicyState) : Prop where
  unpaid : paymentOf e = none
  rows_eq : ∀ itemId, rowsOf policyVersion itemId s'.rows = rowsOf policyVersion itemId s.rows
  settled : ∀ id, rewardSettled id s.chain.world = true → rewardSettled id s'.chain.world = true

theorem Quiet.rowsGrow (h : Quiet policyVersion e s s') : RowsGrow policyVersion s s' :=
  fun itemId => by rw [h.rows_eq]

theorem Quiet.owns (h : Quiet policyVersion e s s') (howns : Owns policyVersion tr s i run) :
    Owns policyVersion (tr ++ [e]) s' i run := by
  refine howns.later h.rowsGrow fun loop tx _ hunrecorded => ?_
  rw [Unrecorded, payments_snoc_of_none h.unpaid, h.rows_eq]
  exact hunrecorded

/-- **A quiet step keeps the fence.** -/
theorem Quiet.fence (h : Quiet policyVersion e s s') (hfence : Fence D policyVersion tr s) :
    Fence D policyVersion (tr ++ [e]) s' where
  ledger itemId := by
    rw [payments_snoc_of_none h.unpaid]
    exact hfence.ledger itemId
  rows itemId := by
    rw [payments_snoc_of_none h.unpaid, h.rows_eq]
    exact hfence.rows itemId
  settled itemId payment hpayment := by
    rw [payments_snoc_of_none h.unpaid] at hpayment
    exact h.settled _ (hfence.settled itemId payment hpayment)
  computed itemId payment hpayment := by
    rw [payments_snoc_of_none h.unpaid] at hpayment
    exact mem_computedTargets_snoc (hfence.computed itemId payment hpayment)

/-! ### Paying and recording -/

/-- **A settlement that is not spent fences**: whoever may ask for it has seen every
payment, and so has the table. -/
theorem Fence.seen_all (h : Fence D policyVersion tr s) {itemId : String} {total : AccruedTotal}
    (hseen : Seen policyVersion tr s itemId total)
    (hfresh : rewardSettled (policySettlement D policyVersion itemId (total.count + 1))
      s.chain.world = false) :
    total.count = (payments itemId tr).length ∧
      (rowsOf policyVersion itemId s.rows).length = (payments itemId tr).length := by
  have hcount : total.count = (payments itemId tr).length := by
    refine (h.ledger itemId).seen_eq hseen.view.seen_le fun payment hpayment hstep => ?_
    have hspent := h.settled itemId payment hpayment
    rw [hstep, hfresh] at hspent
    exact absurd hspent (by decide)
  have hcount_le := hseen.count_le
  have hrows_le := (h.rows itemId).seen_le
  omega

/-- A target that is paid up to is the sum of what was paid and of what is paid now. -/
theorem Due.total_eq {charge : Charge} (h : Due policyVersion tr s i charge) :
    charge.existing.accruedWei + charge.deltaWei = charge.targetTotalWei := by
  have hlt := h.lt
  rw [Charge.deltaWei]
  omega

/-- **A payment keeps the fence**, and its run owns it. -/
theorem Fence.paid {tx : PolicyTx} {w : World} (h : Fence D policyVersion tr s)
    (hdue : Due policyVersion tr s i tx.charge)
    (hexec : World.exec D (tx.message D policyVersion) s.chain.world = .ok (.done w))
    (hpay : paymentOf e = some (i, tx)) :
    Fence D policyVersion (tr ++ [e]) { s with chain := ⟨w, []⟩ } ∧
      Unrecorded policyVersion (tr ++ [e]) { s with chain := ⟨w, []⟩ } i tx ∧
      (rowsOf policyVersion tx.charge.itemId s.rows).length =
        (payments tx.charge.itemId tr).length := by
  obtain ⟨hfresh, hspent⟩ := settled_of_paid hexec
  obtain ⟨hcount, hrows⟩ := h.seen_all hdue.seen hfresh
  have hpayments : payments tx.charge.itemId (tr ++ [e]) =
      payments tx.charge.itemId tr ++ [(i, tx)] := payments_snoc_self hpay
  have hlatch : ∀ id, rewardSettled id s.chain.world = true → rewardSettled id w = true :=
    fun id => settled_of_step (World.step_of_exec hexec)
  refine ⟨⟨fun itemId => ?_, fun itemId => ?_, fun itemId payment hpayment => ?_,
    fun itemId payment hpayment => ?_⟩, ⟨_, hpayments, hrows⟩, hrows⟩
  · by_cases hitem : tx.charge.itemId = itemId
    · subst hitem
      rw [hpayments]
      exact (h.ledger _).snoc_of_view hdue.seen.view hcount rfl hdue.total_eq
    · rw [payments_snoc_of_ne hpay hitem]
      exact h.ledger itemId
  · rw [payments_snoc]
    exact (h.rows itemId).append _
  · rcases (mem_payments_snoc hpay).mp hpayment with hbefore | ⟨rfl, rfl⟩
    · exact hlatch _ (h.settled itemId payment hbefore)
    · exact hspent
  · refine mem_computedTargets_snoc ?_
    rcases (mem_payments_snoc hpay).mp hpayment with hbefore | ⟨rfl, rfl⟩
    · exact h.computed itemId payment hbefore
    · exact hdue.computed

/-- **Recording a payment keeps the fence**: the table sees one payment more, and so does
the run. -/
theorem Fence.inserted {tx : PolicyTx} {loop : PolicyLoop} {rows : List WorkRewardSettlementRow}
    (h : Fence D policyVersion tr s) (hunpaid : paymentOf e = none)
    (hinformed : Informed policyVersion tr s i loop)
    (hdue : Due policyVersion tr s i tx.charge) (hlast : Unrecorded policyVersion tr s i tx)
    (hrows : insertWorkRewardSettlement s.rows (tx.row D policyVersion) = some rows) :
    Fence D policyVersion (tr ++ [e]) { s with rows } ∧
      Informed policyVersion (tr ++ [e]) { s with rows } i (loop.record tx.charge) := by
  obtain ⟨others, hpayments, hlength⟩ := hlast
  have hself : rowsOf policyVersion tx.charge.itemId rows =
      rowsOf policyVersion tx.charge.itemId s.rows ++ [tx.row D policyVersion] :=
    rowsOf_insert_self hrows rfl
  have hother : ∀ itemId, tx.charge.itemId ≠ itemId →
      rowsOf policyVersion itemId rows = rowsOf policyVersion itemId s.rows :=
    fun itemId hitem => rowsOf_insert_of_ne hrows fun heq => hitem heq.2
  have hgrow : RowsGrow policyVersion s { s with rows } := rowsGrow_insert hrows
  -- The run has seen all payments but its own.
  have hstep := (hpayments ▸ h.ledger tx.charge.itemId).last.2.1
  have hcount : tx.charge.existing.count = others.length := Nat.succ.inj hstep
  refine ⟨⟨fun itemId => ?_, fun itemId => ?_, fun itemId payment hpayment => ?_,
    fun itemId payment hpayment => ?_⟩, ⟨fun itemId => ?_, fun itemId target htarget => ?_⟩⟩
  · rw [payments_snoc_of_none hunpaid]
    exact h.ledger itemId
  · rw [payments_snoc_of_none hunpaid]
    by_cases hitem : tx.charge.itemId = itemId
    · subst hitem
      have hview := h.rows tx.charge.itemId
      rw [hself, List.length_append, List.length_singleton, List.map_append, List.sum_append,
        List.map_singleton, List.sum_singleton]
      rw [hpayments] at hview ⊢
      exact hview.next hlength
    · rw [hother itemId hitem]
      exact h.rows itemId
  · rw [payments_snoc_of_none hunpaid] at hpayment
    exact h.settled itemId payment hpayment
  · rw [payments_snoc_of_none hunpaid] at hpayment
    exact mem_computedTargets_snoc (h.computed itemId payment hpayment)
  · by_cases hitem : tx.charge.itemId = itemId
    · subst hitem
      have hview := hdue.seen.view
      rw [PolicyLoop.accruedByItem_record_self]
      refine ⟨?_, ?_⟩
      · rw [payments_snoc_of_none hunpaid, ← hdue.total_eq]
        rw [hpayments] at hview ⊢
        exact hview.next hcount
      · rw [hself, List.length_append, List.length_singleton, hlength, hcount]
    · rw [PolicyLoop.accruedByItem_record_of_ne hitem]
      exact (hinformed.seen itemId).later hgrow
  · exact mem_computedTargets_snoc (hinformed.computed itemId target htarget)

/-- Nobody else owns an item that has been paid for and not recorded. -/
theorem Unrecorded.of_ne {j : ℕ} {tx tx' : PolicyTx} (h : Unrecorded policyVersion tr s i tx)
    (h' : Unrecorded policyVersion tr s j tx') (hne : j ≠ i) :
    tx.charge.itemId ≠ tx'.charge.itemId := by
  intro hitem
  obtain ⟨others, hlast, -⟩ := h
  obtain ⟨others', hlast', -⟩ := h'
  rw [hitem, hlast'] at hlast
  have hpayment := (List.append_inj' hlast rfl).2
  exact hne (congrArg Prod.fst (List.cons.inj hpayment).1)

/-! ### One step -/

/-- A run begins with what the table says. -/
theorem Fence.informed_begin (h : Fence D policyVersion tr s) (hunpaid : paymentOf e = none)
    (maxSettlements : ℕ) (candidates : List PolicyCandidate) :
    Informed policyVersion (tr ++ [e]) s i
      (.begin policyVersion s.rows maxSettlements candidates) where
  seen itemId := by
    refine ⟨?_, le_rfl⟩
    rw [payments_snoc_of_none hunpaid]
    exact h.rows itemId
  computed itemId target htarget := absurd htarget (by simp [PolicyLoop.begin, Js.mapGet])

/-- A run that reads a pool sets out with targets it has computed. -/
theorem Informed.readPool {loop loop' : PolicyLoop} {attentionPressureBps : ℕ}
    (h : Informed policyVersion tr s i loop)
    (hloop : loop.readPool s.chain.world attentionPressureBps = some loop')
    (htarget : ∀ itemId, targetOf itemId e = (Js.mapGet loop'.targets itemId).map (i, ·)) :
    Informed policyVersion (tr ++ [e]) s i loop' where
  seen itemId := by
    rw [PolicyLoop.accruedByItem_readPool hloop]
    exact (h.seen itemId).later fun _ => le_rfl
  computed itemId target hget := by
    rw [computedTargets_snoc, htarget, hget]
    exact List.mem_append_right _ (by simp)

/-- What a run charges is due. -/
theorem Informed.due {loop : PolicyLoop} {candidate : PolicyCandidate} {charge : Charge}
    (h : Informed policyVersion tr s i loop) (hcharge : loop.chargeFor candidate = some charge) :
    Due policyVersion tr s i charge := by
  obtain ⟨htarget, hexisting, hlt⟩ := PolicyLoop.chargeFor_eq_some hcharge
  exact ⟨hexisting ▸ h.seen charge.itemId, hlt, h.computed _ _ htarget⟩

/-- A run that has looked at a candidate is as informed as before. -/
theorem Informed.consider {loop loop' : PolicyLoop} {considered : Option Charge}
    (h : Informed policyVersion tr s i loop)
    (hconsider : loop.consider = some (loop', considered)) :
    Informed policyVersion tr s i loop' := by
  obtain ⟨haccrued, htargets, -⟩ := PolicyLoop.consider_eq_some hconsider
  exact ⟨haccrued ▸ h.seen, htargets ▸ h.computed⟩

/-- **A payment takes nothing from the other runs**: none of them owns the item. -/
theorem Fence.others_paid {tx : PolicyTx} {w : World} (h : Fence D policyVersion tr s)
    (hdue : Due policyVersion tr s i tx.charge)
    (hexec : World.exec D (tx.message D policyVersion) s.chain.world = .ok (.done w))
    (hpay : paymentOf e = some (i, tx)) {j : ℕ} (hother : Owns policyVersion tr s j run) :
    Owns policyVersion (tr ++ [e]) { s with chain := ⟨w, []⟩ } j run := by
  refine hother.later (fun _ => le_rfl) fun loop tx' _ hunrecorded => ?_
  obtain ⟨others, hlast, hlength⟩ := hunrecorded
  have hitem : tx.charge.itemId ≠ tx'.charge.itemId := by
    intro hitem
    have hrows := (h.paid hdue hexec hpay).2.2
    rw [hitem, hlast, hlength, List.length_append, List.length_singleton] at hrows
    omega
  refine ⟨others, ?_, hlength⟩
  rw [payments_snoc_of_ne hpay hitem, hlast]

/-- A step in which nothing is paid or recorded keeps the fence, if the run that acts owns what
it should afterwards. -/
theorem Fence.act_quiet {run' : PolicyRun} (h : Fence D policyVersion tr s)
    (hunpaid : paymentOf e = none) (hown : Owns policyVersion (tr ++ [e]) s i run') :
    Fence D policyVersion (tr ++ [e]) s ∧ Owns policyVersion (tr ++ [e]) s i run' ∧
      ∀ j other, j ≠ i → Owns policyVersion tr s j other →
        Owns policyVersion (tr ++ [e]) s j other := by
  have hquiet : Quiet policyVersion e s s :=
    ⟨hunpaid, fun _ => rfl, fun _ hsettled => hsettled⟩
  exact ⟨hquiet.fence h, hown, fun _ _ _ => hquiet.owns⟩

/-- **Every action of a run keeps the fence**, and what each of the runs owns. -/
theorem Fence.act {a : PolicyAction} {run' : PolicyRun} (h : Fence D policyVersion tr s)
    (hown : Owns policyVersion tr s i run) (hstep : PolicyStep D policyVersion a s run s' run')
    (hpay : paymentOf e = (paidTx a run run').map (i, ·))
    (htarget : ∀ itemId, targetOf itemId e = (targetBy itemId a run').map (i, ·)) :
    Fence D policyVersion (tr ++ [e]) s' ∧ Owns policyVersion (tr ++ [e]) s' i run' ∧
      ∀ j other, j ≠ i → Owns policyVersion tr s j other →
        Owns policyVersion (tr ++ [e]) s' j other := by
  cases hstep with
  | start _ => exact h.act_quiet hpay (h.informed_begin hpay _ _)
  | readPool hloop => exact h.act_quiet hpay (Informed.readPool hown hloop htarget)
  | pass hconsider =>
    have hinformed := Informed.consider hown hconsider
    exact h.act_quiet hpay (hinformed.later fun _ => le_rfl)
  | charge hconsider =>
    obtain ⟨candidate, hcharge⟩ := (PolicyLoop.consider_eq_some hconsider).2.2 _ rfl
    have hinformed := Informed.consider hown hconsider
    have hdue := Informed.due hown hcharge
    exact h.act_quiet hpay ⟨hinformed.later fun _ => le_rfl, hdue.later fun _ => le_rfl⟩
  | send =>
    obtain ⟨hinformed, hdue⟩ := hown
    exact h.act_quiet hpay ⟨hinformed.later fun _ => le_rfl, hdue.later fun _ => le_rfl⟩
  | paid _ hexec =>
    obtain ⟨hfence, hunrecorded, -⟩ := h.paid hown.2 hexec hpay
    exact ⟨hfence, ⟨hown.1.later fun _ => le_rfl, hown.2.later fun _ => le_rfl, hunrecorded⟩,
      fun _ _ _ => h.others_paid hown.2 hexec hpay⟩
  | paidLate _ hexec =>
    obtain ⟨hfence, -, -⟩ := h.paid hown hexec hpay
    exact ⟨hfence, trivial, fun _ _ _ => h.others_paid hown hexec hpay⟩
  | failed _ | rejected _ _ | rejectedLate _ _ | «return» => exact h.act_quiet hpay trivial
  | @insert _ loop tx rows hrows =>
    obtain ⟨hinformed, hdue, hlast⟩ := hown
    obtain ⟨hfence, hrecorded⟩ := h.inserted hpay hinformed hdue hlast hrows
    refine ⟨hfence, hrecorded, fun j other hne hother => ?_⟩
    refine hother.later (rowsGrow_insert hrows) fun loop' tx' _ hlast' => ?_
    have hitem := hlast.of_ne hlast' hne
    rw [Unrecorded, payments_snoc_of_none hpay, rowsOf_insert_of_ne hrows fun heq => hitem heq.2]
    exact hlast'
  | crash hcrash =>
    refine h.act_quiet hpay ?_
    cases run with
    | idle | ended | crashed _ => exact absurd hcrash (by simp [PolicyRun.afterCrash])
    | running _ | settling _ _ | confirmed _ _ =>
      obtain rfl := Option.some.inj hcrash
      trivial
    | sent loop tx =>
      obtain rfl := Option.some.inj hcrash
      exact hown.2.later fun _ => le_rfl

/-- Nobody pays for or records anything by what others do. -/
theorem PolicyEnvStep.quiet {b : PolicyEnv} (h : PolicyEnvStep D policyVersion b s s')
    (hunpaid : paymentOf e = none) : Quiet policyVersion e s s' :=
  ⟨hunpaid, h.rowsOf_eq, fun _ => h.settled⟩

end

/-! ### Every history -/

section

variable {D : Deployment} {policyVersion : String} {tr : List PolicyEvent} {c : PolicyMoment}

/-- **The fence holds at the end of every history**, and every run owns what it should. -/
theorem fence_of_run (h : (rewardPolicy D policyVersion).Run tr c) :
    Fence D policyVersion tr c.shared ∧
      ∀ i, Owns policyVersion tr c.shared i (c.process i) := by
  refine h.owned ?_ ?_ ?_
  · rintro s ⟨-, hrows⟩
    have hempty : ∀ itemId, rowsOf policyVersion itemId s.rows = [] := fun itemId =>
      List.filter_eq_nil_iff.mpr fun row hrow => by simp [hrows row hrow]
    refine ⟨⟨fun itemId => .nil, fun itemId => ?_, fun itemId payment hpayment => ?_,
      fun itemId payment hpayment => ?_⟩, fun i => trivial⟩
    · rw [hempty]
      exact ⟨le_rfl, rfl⟩
    · exact absurd hpayment List.not_mem_nil
    · exact absurd hpayment List.not_mem_nil
  · intro tr c i a s run _ hfence howns hact
    obtain ⟨hfence, hown, hothers⟩ := hfence.act (howns i) (policyStep_of_act hact) paymentOf_act
      fun _ => targetOf_act
    exact ⟨hfence, hown, fun j hne => hothers j _ hne (howns j)⟩
  · intro tr c b s _ hfence howns henv
    have hquiet : Quiet policyVersion ⟨c, .env b, ⟨s, c.process⟩⟩ c.shared s :=
      PolicyEnvStep.quiet henv rfl
    exact ⟨hquiet.fence hfence, fun j => hquiet.owns (howns j)⟩

/-- What was paid for an item is what its ledger adds up to. -/
theorem paidTotal_eq {itemId : String} :
    paidTotal D policyVersion itemId tr = ((payments itemId tr).map deltaOf).sum := by
  simp only [paidTotal, amount_accrual]
  rfl

/-- **No double payment**, in a history of any number of runs. -/
structure NeverDoublePays (D : Deployment) (policyVersion : String) (tr : List PolicyEvent)
    (c : PolicyMoment) : Prop where
  /-- What the runs and the others do on the chain is a history of the protocol, -/
  chain : ∃ past, (protocol D).Run (past ++ chainTrace D policyVersion tr) c.shared.chain
  /-- which accrues at most once under the settlement of a step of an item. -/
  settled_once : ∀ itemId n, (chainTrace D policyVersion tr).countP (fun e =>
    (vaultCall e.action).any (·.accrues (policySettlement D policyVersion itemId n))) ≤ 1
  /-- At most one of the runs is paid for it. -/
  paid_once : ∀ itemId n, (payments itemId tr).countP (fun payment => stepOf payment = n) ≤ 1
  /-- The steps of an item are paid in order and without gaps. -/
  in_order : ∀ itemId, (payments itemId tr).map stepOf =
    List.range' 1 (payments itemId tr).length
  /-- A payment is an accrual on the chain, and brings what was paid for the item to a target
  that its run has computed. -/
  reaches_target : ∀ tr₁ e tr₂, tr = tr₁ ++ e :: tr₂ → ∀ i tx, paymentOf e = some (i, tx) →
    AccrualEffect (tx.accrual D policyVersion) e.before.shared.chain.world
        e.after.shared.chain.world ∧
      (i, tx.charge.targetTotalWei) ∈ computedTargets tx.charge.itemId tr₁ ∧
      paidTotal D policyVersion tx.charge.itemId (tr₁ ++ [e]) = tx.charge.targetTotalWei
  /-- What was paid for an item is never more than the largest target computed for it. -/
  total_le : ∀ itemId, paidTotal D policyVersion itemId tr ≤ largestTarget itemId tr

/-- **The reward policy never double-pays**: in every interleaving of any number of its
runs, wherever they crash. -/
theorem never_double_pays (h : (rewardPolicy D policyVersion).Run tr c) :
    NeverDoublePays D policyVersion tr c where
  chain := run_chainTrace h
  settled_once itemId n := by
    obtain ⟨past, hpast⟩ := run_chainTrace h
    have honce := countP_accrues_le_one hpast (policySettlement D policyVersion itemId n)
    rw [List.countP_append] at honce
    omega
  paid_once itemId n := by
    have hnodup : ((payments itemId tr).map stepOf).Nodup := by
      rw [((fence_of_run h).1.ledger itemId).map_step]
      exact List.nodup_range'
    have hcount := List.nodup_iff_count_le_one.mp hnodup n
    rw [List.count, List.countP_map] at hcount
    exact hcount
  in_order itemId := ((fence_of_run h).1.ledger itemId).map_step
  reaches_target tr₁ e tr₂ htr i tx hpay := by
    rw [htr] at h
    obtain ⟨hbefore, hstep⟩ := h.split
    obtain ⟨hfence, -⟩ := fence_of_run h.upTo
    obtain ⟨-, hexec⟩ := exec_of_payment hstep hpay
    have hpayments : payments tx.charge.itemId (tr₁ ++ [e]) =
        payments tx.charge.itemId tr₁ ++ [(i, tx)] := payments_snoc_self hpay
    have hledger := hfence.ledger tx.charge.itemId
    rw [hpayments] at hledger
    refine ⟨(World.step_of_exec hexec).accrualEffect vaultCall_message, ?_, ?_⟩
    · have hcomputed := hfence.computed tx.charge.itemId (i, tx)
        (hpayments ▸ List.mem_append_right _ (List.mem_singleton_self _))
      rw [computedTargets_snoc, targetOf_of_payment hpay, Option.toList_none, List.append_nil]
        at hcomputed
      exact hcomputed
    · rw [paidTotal_eq, hpayments]
      exact hledger.total_eq
  total_le itemId := by
    obtain ⟨hfence, -⟩ := fence_of_run h
    rw [paidTotal_eq]
    exact (hfence.ledger itemId).total_le fun payment hpayment =>
      le_largestTarget (hfence.computed itemId payment hpayment)

end

/-! ### A history with a fence in it -/

/-- Claim 1 with a pool of 100 for its forecasts. -/
def fundedPool : List (Move Message) :=
  opening ++ [ScientificProtocol.send 0xBB 100 (.claimRewardVault (.fundClaimRewards 1 5))]

theorem play_fundedPool : ((protocol rewardNet).play fundedPool ⟨devnetGenesis, []⟩).isSome := by
  decide

/-- The chain with this pool, an empty table, and replications that can be listed. -/
def fundedState : PolicyState where
  chain := (((protocol rewardNet).play fundedPool ⟨devnetGenesis, []⟩).get play_fundedPool).2
  rows := []
  replicationsSchema := .repaired

theorem fundedState_genesis : (rewardPolicy rewardNet "auto-v1").genesis fundedState :=
  ⟨(Machine.run_play rewardNet_genesis play_fundedPool).reachable,
    fun _ hrow => absurd hrow List.not_mem_nil⟩

/-- A candidate for a forecast of claim 1. -/
def fundedCandidate (itemId : String) (recipient : Address) : PolicyCandidate where
  agentId := none
  budgetTopUpBps := 0
  claimId := 1
  itemId := itemId
  operator := none
  qualityBps := 10000
  recipient := some recipient
  workKind := .forecast

/-- The candidates of all the runs below. -/
def twoForecasts : List PolicyCandidate :=
  [fundedCandidate "forecast:1" 0xFC, fundedCandidate "forecast:2" 0xFD]

/-- A run from its start to the accrual it sends for the first forecast. -/
def untilSent (i attentionPressureBps : ℕ) : List (ℕ × PolicyAction) :=
  [(i, .start 0 twoForecasts), (i, .readPool attentionPressureBps), (i, .consider),
    (i, .send forecastTarget 0x0A default)]

/-- What some actions make of that state. -/
def playFunded (moves : List (ℕ × PolicyAction)) : Option (List PolicyEvent × PolicyMoment) :=
  (rewardPolicy rewardNet "auto-v1").play moves ⟨fundedState, fun _ => .idle⟩

theorem run_playFunded {moves : List (ℕ × PolicyAction)} (h : (playFunded moves).isSome) :
    (rewardPolicy rewardNet "auto-v1").Run ((playFunded moves).get h).1
      ((playFunded moves).get h).2 :=
  Processes.run_play fundedState_genesis h

/-- Two runs overlap, so that the second is rejected; the first records its payment and
crashes; a third takes the item to a higher target. -/
def overlapping : List (ℕ × PolicyAction) :=
  untilSent 0 10000 ++ untilSent 1 10000 ++
    [(0, .execute), (1, .execute), (0, .insert), (0, .crash)] ++
    untilSent 2 20000 ++ [(2, .execute), (2, .insert)]

theorem playFunded_overlapping : (playFunded overlapping).isSome := by
  decide

/-- There, 33 was paid for the first forecast in two steps, and 33 was its largest target. -/
theorem never_double_pays_overlapping :
    paidTotal rewardNet "auto-v1" "forecast:1"
        ((playFunded overlapping).get playFunded_overlapping).1 = 33 ∧
      (payments "forecast:1" ((playFunded overlapping).get playFunded_overlapping).1).map stepOf =
        [1, 2] ∧
      paidTotal rewardNet "auto-v1" "forecast:1"
          ((playFunded overlapping).get playFunded_overlapping).1 ≤
        largestTarget "forecast:1" ((playFunded overlapping).get playFunded_overlapping).1 := by
  refine ⟨by decide, by decide, ?_⟩
  exact (never_double_pays (run_playFunded playFunded_overlapping)).total_le "forecast:1"

end ScientificProtocol.RewardPolicy
