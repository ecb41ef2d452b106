import ScientificProtocol.RewardPolicy.Fence

/-!
# Runs after a crash

The payment and its row are two commits, and a run can crash between them. The vault has
then paid a step the table does not know, so the next run counts one settlement too few
and asks for the same step again, which the vault rejects. Nothing ever inserts the
missing row, so this is so of every later run that owes the item something, and each of
them ends there, with the rest of its candidates unpaid.

`ScientificProtocol.RewardPolicy.orphanOf` says which steps of a history leave a payment
without its row: the crash of a run that has paid, and the payment of a run that had
crashed. `ScientificProtocol.RewardPolicy.lag_of_run` says that these, and runs that are
about to insert a row, are all there is between the ledger of an item and the table. In
histories in which one run follows another, what a run asks for is therefore spent
exactly if the item is an orphan – or somebody else has spent it.
-/

namespace ScientificProtocol.RewardPolicy

open Evm Concurrency

/-! ### Payments without a row -/

/-- The transaction whose row an action of a run loses, if it does. -/
def orphanedTx : PolicyAction → PolicyRun → PolicyRun → Option PolicyTx
  | .crash, .confirmed _ tx, _ => some tx
  | .execute, .crashed (some tx), .crashed none => some tx
  | _, _, _ => none

/-- The transaction whose row is lost in a step. -/
def orphanOf (e : PolicyEvent) : Option PolicyTx :=
  match e.label with
  | .act i a => orphanedTx a (e.before.process i) (e.after.process i)
  | .env _ => none

/-- **An orphan**: a payment for the item has lost its row. -/
def Orphaned (itemId : String) (tr : List PolicyEvent) : Prop :=
  ∃ e ∈ tr, ∃ tx, orphanOf e = some tx ∧ tx.charge.itemId = itemId

/-- The item a run has been paid for, if its row is still to come. -/
def PolicyRun.unrecorded : PolicyRun → Option String
  | .confirmed _ tx => some tx.charge.itemId
  | _ => none

/-- A row of the item is still to come. -/
def Pending (itemId : String) (c : PolicyMoment) : Prop :=
  ∃ i, (c.process i).unrecorded = some itemId

/-- The table does not have all payments of the item. -/
def Lags (policyVersion itemId : String) (tr : List PolicyEvent) (s : PolicyState) : Prop :=
  (rowsOf policyVersion itemId s.rows).length < (payments itemId tr).length

/-- **What the table lags behind by**: a row that is to come or a row that is lost, and never
both. -/
structure Lag (policyVersion itemId : String) (tr : List PolicyEvent) (c : PolicyMoment) :
    Prop where
  lags_iff : Lags policyVersion itemId tr c.shared ↔ Orphaned itemId tr ∨ Pending itemId c
  not_pending : Orphaned itemId tr → ¬Pending itemId c

section

variable {D : Deployment} {policyVersion itemId : String} {tr : List PolicyEvent}
  {s s' : PolicyState} {c : PolicyMoment} {e : PolicyEvent} {i : ℕ} {a : PolicyAction}
  {run : PolicyRun}

theorem orphaned_snoc : Orphaned itemId (tr ++ [e]) ↔
    Orphaned itemId tr ∨ ∃ tx, orphanOf e = some tx ∧ tx.charge.itemId = itemId := by
  simp only [Orphaned, List.mem_append, List.mem_singleton, or_and_right, exists_or,
    exists_eq_left]

/-- Which rows are to come once a run has acted. -/
theorem pending_act : Pending itemId ⟨s, Function.update c.process i run⟩ ↔
    run.unrecorded = some itemId ∨ ∃ j, j ≠ i ∧ (c.process j).unrecorded = some itemId := by
  constructor
  · rintro ⟨j, hj⟩
    by_cases hne : j = i
    · subst hne
      exact .inl (by simpa only [Function.update_self] using hj)
    · exact .inr ⟨j, hne, by simpa only [Function.update_of_ne hne] using hj⟩
  · rintro (hrun | ⟨j, hne, hj⟩)
    · exact ⟨i, by simpa only [Function.update_self] using hrun⟩
    · exact ⟨j, by simpa only [Function.update_of_ne hne] using hj⟩

/-- Which rows are to come before it acts. -/
theorem pending_iff (i : ℕ) : Pending itemId c ↔
    (c.process i).unrecorded = some itemId ∨
      ∃ j, j ≠ i ∧ (c.process j).unrecorded = some itemId := by
  rw [← pending_act (s := c.shared), Function.update_eq_self]

/-- A run with a row to come owns the last payment of the item. -/
theorem Owns.of_unrecorded (h : Owns policyVersion tr s i run)
    (hrun : run.unrecorded = some itemId) :
    ∃ tx, tx.charge.itemId = itemId ∧ Unrecorded policyVersion tr s i tx := by
  cases run with
  | confirmed loop tx => exact ⟨tx, Option.some.inj hrun, h.2.2⟩
  | idle | running _ | settling _ _ | sent _ _ | crashed _ | ended =>
    exact absurd hrun (by simp [PolicyRun.unrecorded])

/-- Two runs do not both have a row of one item to come. -/
theorem not_pending_other (howns : ∀ j, Owns policyVersion tr c.shared j (c.process j))
    (hi : (c.process i).unrecorded = some itemId) :
    ¬∃ j, j ≠ i ∧ (c.process j).unrecorded = some itemId := by
  rintro ⟨j, hne, hj⟩
  obtain ⟨tx, rfl, htx⟩ := (howns i).of_unrecorded hi
  obtain ⟨tx', hitem, htx'⟩ := (howns j).of_unrecorded hj
  exact htx.of_ne htx' hne hitem.symm

/-- A step that pays for nothing, records nothing and loses nothing of an item. -/
theorem Lag.same {c' : PolicyMoment} (h : Lag policyVersion itemId tr c)
    (hpayments : payments itemId (tr ++ [e]) = payments itemId tr)
    (hrows : rowsOf policyVersion itemId c'.shared.rows =
      rowsOf policyVersion itemId c.shared.rows)
    (horphan : ∀ tx, orphanOf e = some tx → tx.charge.itemId ≠ itemId)
    (hpending : Pending itemId c' ↔ Pending itemId c) :
    Lag policyVersion itemId (tr ++ [e]) c' := by
  have horphaned : Orphaned itemId (tr ++ [e]) ↔ Orphaned itemId tr := by
    rw [orphaned_snoc]
    refine or_iff_left ?_
    rintro ⟨tx, htx, hitem⟩
    exact horphan tx htx hitem
  refine ⟨?_, fun ho hp => h.not_pending (horphaned.mp ho) (hpending.mp hp)⟩
  rw [Lags, hpayments, hrows, horphaned, hpending]
  exact h.lags_iff

/-- A payment with a row to come. -/
theorem Lag.paid {loop : PolicyLoop} {tx : PolicyTx} (h : Lag policyVersion itemId tr c)
    (hpay : paymentOf e = some (i, tx)) (horphan : orphanOf e = none)
    (hrun : (c.process i).unrecorded = none) (hrows : s.rows = c.shared.rows)
    (hlength : (rowsOf policyVersion tx.charge.itemId c.shared.rows).length =
      (payments tx.charge.itemId tr).length) :
    Lag policyVersion itemId (tr ++ [e])
      ⟨s, Function.update c.process i (.confirmed loop tx)⟩ := by
  by_cases hitem : tx.charge.itemId = itemId
  · subst hitem
    have hpayments : payments tx.charge.itemId (tr ++ [e]) =
        payments tx.charge.itemId tr ++ [(i, tx)] := payments_snoc_self hpay
    have hnot : ¬(Orphaned tx.charge.itemId tr ∨ Pending tx.charge.itemId c) := by
      rw [← h.lags_iff, Lags]
      omega
    refine ⟨⟨fun _ => .inr (pending_act.mpr (.inl rfl)), fun _ => ?_⟩, fun ho _ => ?_⟩
    · rw [Lags, hrows, hpayments, List.length_append, List.length_singleton]
      omega
    · rw [orphaned_snoc, horphan] at ho
      exact hnot (.inl (ho.resolve_right (by simp)))
  · refine h.same (payments_snoc_of_ne hpay hitem) (by rw [hrows]) (by simp [horphan]) ?_
    rw [pending_act, pending_iff i, hrun]
    simp [PolicyRun.unrecorded, hitem]

/-- A payment of a run that has crashed: its row is lost. -/
theorem Lag.paidLate {tx : PolicyTx} (h : Lag policyVersion itemId tr c)
    (hpay : paymentOf e = some (i, tx)) (horphan : orphanOf e = some tx)
    (hrun : (c.process i).unrecorded = none) (hrows : s.rows = c.shared.rows)
    (hlength : (rowsOf policyVersion tx.charge.itemId c.shared.rows).length =
      (payments tx.charge.itemId tr).length) :
    Lag policyVersion itemId (tr ++ [e]) ⟨s, Function.update c.process i (.crashed none)⟩ := by
  have hpending : Pending itemId ⟨s, Function.update c.process i (.crashed none)⟩ ↔
      Pending itemId c := by
    rw [pending_act, pending_iff i, hrun]
    rfl
  by_cases hitem : tx.charge.itemId = itemId
  · subst hitem
    have hpayments : payments tx.charge.itemId (tr ++ [e]) =
        payments tx.charge.itemId tr ++ [(i, tx)] := payments_snoc_self hpay
    have hnot : ¬(Orphaned tx.charge.itemId tr ∨ Pending tx.charge.itemId c) := by
      rw [← h.lags_iff, Lags]
      omega
    refine ⟨⟨fun _ => .inl (orphaned_snoc.mpr (.inr ⟨tx, horphan, rfl⟩)), fun _ => ?_⟩,
      fun _ hp => hnot (.inr (hpending.mp hp))⟩
    rw [Lags, hrows, hpayments, List.length_append, List.length_singleton]
    omega
  · refine h.same (payments_snoc_of_ne hpay hitem) (by rw [hrows]) (fun tx' htx' => ?_) hpending
    obtain rfl := Option.some.inj (horphan.symm.trans htx')
    exact hitem

/-- The row of a payment is inserted. -/
theorem Lag.inserted {loop loop' : PolicyLoop} {tx : PolicyTx}
    {rows : List WorkRewardSettlementRow} (h : Lag policyVersion itemId tr c)
    (howns : ∀ j, Owns policyVersion tr c.shared j (c.process j))
    (hunpaid : paymentOf e = none) (horphan : orphanOf e = none)
    (hrun : c.process i = .confirmed loop tx)
    (hrows : insertWorkRewardSettlement c.shared.rows (tx.row D policyVersion) = some rows) :
    Lag policyVersion itemId (tr ++ [e])
      ⟨{ c.shared with rows }, Function.update c.process i (.running loop')⟩ := by
  have hunrecorded : (c.process i).unrecorded = some tx.charge.itemId := by
    rw [hrun]
    rfl
  by_cases hitem : tx.charge.itemId = itemId
  · subst hitem
    have hlast := howns i
    rw [hrun] at hlast
    obtain ⟨-, -, others, hpayments, hlength⟩ := hlast
    have hself : rowsOf policyVersion tx.charge.itemId rows =
        rowsOf policyVersion tx.charge.itemId c.shared.rows ++ [tx.row D policyVersion] :=
      rowsOf_insert_self hrows rfl
    have hnot : ¬Orphaned tx.charge.itemId tr := fun ho =>
      h.not_pending ho ((pending_iff i).mpr (.inl hunrecorded))
    have hnone : ¬Pending tx.charge.itemId
        ⟨{ c.shared with rows }, Function.update c.process i (.running loop')⟩ := by
      rw [pending_act]
      rintro (hself' | hother)
      · exact absurd hself' (by simp [PolicyRun.unrecorded])
      · exact not_pending_other howns hunrecorded hother
    refine ⟨⟨fun hlags => ?_, fun hor => ?_⟩, fun _ => hnone⟩
    · rw [Lags, payments_snoc_of_none hunpaid, hself, hpayments, List.length_append,
        List.length_append, List.length_singleton, List.length_singleton] at hlags
      omega
    · rw [orphaned_snoc, horphan] at hor
      rcases hor with (ho | ⟨_, hsome, -⟩) | hp
      · exact absurd ho hnot
      · exact absurd hsome (by simp)
      · exact absurd hp hnone
  · refine h.same (payments_snoc_of_none hunpaid)
      (rowsOf_insert_of_ne hrows fun heq => hitem heq.2) (by simp [horphan]) ?_
    rw [pending_act, pending_iff i, hunrecorded]
    simp [PolicyRun.unrecorded, hitem]

/-- A run crashes before it can insert its row. -/
theorem Lag.crashed {loop : PolicyLoop} {tx : PolicyTx} (h : Lag policyVersion itemId tr c)
    (howns : ∀ j, Owns policyVersion tr c.shared j (c.process j))
    (hunpaid : paymentOf e = none) (horphan : orphanOf e = some tx)
    (hrun : c.process i = .confirmed loop tx) :
    Lag policyVersion itemId (tr ++ [e])
      ⟨c.shared, Function.update c.process i (.crashed none)⟩ := by
  have hunrecorded : (c.process i).unrecorded = some tx.charge.itemId := by
    rw [hrun]
    rfl
  by_cases hitem : tx.charge.itemId = itemId
  · subst hitem
    have hlags := h.lags_iff.mpr (.inr ((pending_iff i).mpr (.inl hunrecorded)))
    refine ⟨⟨fun _ => .inl (orphaned_snoc.mpr (.inr ⟨tx, horphan, rfl⟩)), fun _ => ?_⟩,
      fun _ hp => ?_⟩
    · rw [Lags, payments_snoc_of_none hunpaid]
      exact hlags
    · rcases pending_act.mp hp with hself | hother
      · exact absurd hself (by simp [PolicyRun.unrecorded])
      · exact not_pending_other howns hunrecorded hother
  · refine h.same (payments_snoc_of_none hunpaid) rfl (fun tx' htx' => ?_) ?_
    · obtain rfl := Option.some.inj (horphan.symm.trans htx')
      exact hitem
    · rw [pending_act, pending_iff i, hunrecorded]
      simp [PolicyRun.unrecorded, hitem]

end

section

variable {D : Deployment} {policyVersion : String} {tr : List PolicyEvent} {c : PolicyMoment}
  {s : PolicyState} {i : ℕ} {a : PolicyAction} {run : PolicyRun}

/-- What an action of a run loses, read off the event. -/
theorem orphanOf_act :
    orphanOf ⟨c, .act i a, ⟨s, Function.update c.process i run⟩⟩ =
      orphanedTx a (c.process i) run := by
  simp only [orphanOf, Function.update_self]

/-- **Every action of a run keeps count of the rows.** -/
theorem Lag.act {itemId : String} (h : Lag policyVersion itemId tr c)
    (hfence : Fence D policyVersion tr c.shared)
    (howns : ∀ j, Owns policyVersion tr c.shared j (c.process j))
    (hstep : PolicyStep D policyVersion a c.shared (c.process i) s run) :
    Lag policyVersion itemId
      (tr ++ [⟨c, .act i a, ⟨s, Function.update c.process i run⟩⟩])
      ⟨s, Function.update c.process i run⟩ := by
  have hpay : paymentOf ⟨c, .act i a, ⟨s, Function.update c.process i run⟩⟩ =
      (paidTx a (c.process i) run).map (i, ·) := paymentOf_act
  have horphan : orphanOf ⟨c, .act i a, ⟨s, Function.update c.process i run⟩⟩ =
      orphanedTx a (c.process i) run := orphanOf_act
  have hown := howns i
  generalize he : (⟨c, .act i a, ⟨s, Function.update c.process i run⟩⟩ : PolicyEvent) = e at *
  generalize hrun : c.process i = before at hpay horphan hown hstep
  -- Most steps neither pay nor record, and no row is to come on either side of them.
  have hquiet : paymentOf e = none → orphanOf e = none → s.rows = c.shared.rows →
      before.unrecorded = none → run.unrecorded = none →
      Lag policyVersion itemId (tr ++ [e]) ⟨s, Function.update c.process i run⟩ := by
    intro hpay horphan hrows hbefore hafter
    refine h.same (payments_snoc_of_none hpay) (by rw [hrows]) (by simp [horphan]) ?_
    rw [pending_act, pending_iff i, hrun, hbefore, hafter]
  cases hstep with
  | start _ | failed _ | readPool _ | pass _ | charge _ | send | rejected _ _
  | rejectedLate _ _ | «return» => exact hquiet hpay horphan rfl rfl rfl
  | paid _ hexec =>
    exact h.paid hpay horphan (by rw [hrun]; rfl) rfl (hfence.paid hown.2 hexec hpay).2.2
  | paidLate _ hexec =>
    exact h.paidLate hpay horphan (by rw [hrun]; rfl) rfl (hfence.paid hown hexec hpay).2.2
  | insert hrows => exact h.inserted howns hpay horphan hrun hrows
  | crash hcrash =>
    cases before with
    | idle | ended | crashed _ => exact absurd hcrash (by simp [PolicyRun.afterCrash])
    | running _ | settling _ _ | sent _ _ =>
      obtain rfl := Option.some.inj hcrash
      exact hquiet hpay horphan rfl rfl rfl
    | confirmed loop tx =>
      obtain rfl := Option.some.inj hcrash
      exact h.crashed howns hpay horphan hrun

/-- **The table lags behind by the rows that are to come and the rows that are lost**, in every
history. -/
theorem lag_of_run (h : (rewardPolicy D policyVersion).Run tr c) (itemId : String) :
    Lag policyVersion itemId tr c := by
  induction h with
  | @genesis s _ =>
    refine ⟨⟨fun hlags => absurd hlags (by simp [Lags, payments]), ?_⟩, ?_⟩
    · rintro (⟨e, he, -⟩ | ⟨i, hi⟩)
      · exact absurd he List.not_mem_nil
      · exact absurd hi (by simp [rewardPolicy, PolicyRun.unrecorded])
    · rintro ⟨e, he, -⟩
      exact absurd he List.not_mem_nil
  | @snoc tr c c' l hrun hstep ih =>
    obtain ⟨hfence, howns⟩ := fence_of_run hrun
    cases hstep with
    | act hact => exact ih.act hfence howns (policyStep_of_act hact)
    | env henv =>
      exact ih.same (payments_snoc_of_none rfl) (henv.rowsOf_eq itemId)
        (fun tx htx => absurd htx (by simp [orphanOf])) Iff.rfl

end

/-! ### One run after the other -/

/-- A run that has begun and goes on. -/
def PolicyRun.alive : PolicyRun → Bool
  | .running _ | .settling _ _ | .sent _ _ | .confirmed _ _ => true
  | .idle | .crashed _ | .ended => false

/-- A run begins in the step. -/
def startsRun (e : PolicyEvent) : Bool :=
  match e.label with
  | .act _ (.start _ _) => true
  | _ => false

/-- **One run after the other**: none begins while another goes on. -/
def Serial (tr : List PolicyEvent) : Prop :=
  ∀ e ∈ tr, startsRun e = true → ∀ j, (e.before.process j).alive = false

section

variable (policyVersion : String) (s : PolicyState)

/-- What the run knows of every item is what the table says now. -/
def Current (loop : PolicyLoop) : Prop :=
  ∀ itemId, (loop.accruedByItem itemId).count = (rowsOf policyVersion itemId s.rows).length

/-- What was known of an item when it was charged is what the table says now. -/
def CurrentCharge (charge : Charge) : Prop :=
  charge.existing.count = (rowsOf policyVersion charge.itemId s.rows).length

/-- A run knows the table. -/
def UpToDate : PolicyRun → Prop
  | .running loop => Current policyVersion s loop
  | .settling loop charge => Current policyVersion s loop ∧ CurrentCharge policyVersion s charge
  | .sent loop tx => Current policyVersion s loop ∧ CurrentCharge policyVersion s tx.charge
  | .confirmed loop tx => Current policyVersion s loop ∧ CurrentCharge policyVersion s tx.charge
  | .idle | .crashed _ | .ended => True

/-- At most one run goes on, and every run that does knows the table. -/
structure Alone (c : PolicyMoment) : Prop where
  eq : ∀ i j, (c.process i).alive = true → (c.process j).alive = true → i = j
  upToDate : ∀ i, UpToDate policyVersion c.shared (c.process i)

end

section

variable {D : Deployment} {policyVersion : String} {tr : List PolicyEvent} {c : PolicyMoment}
  {s : PolicyState} {i : ℕ} {a : PolicyAction} {run : PolicyRun}

theorem upToDate_of_not_alive (h : run.alive = false) : UpToDate policyVersion s run := by
  cases run with
  | idle | crashed _ | ended => trivial
  | running _ | settling _ _ | sent _ _ | confirmed _ _ =>
    exact absurd h (by simp [PolicyRun.alive])

/-- What a run knows of the table does not depend on the chain. -/
theorem upToDate_congr {s' : PolicyState}
    (hrows : ∀ itemId, rowsOf policyVersion itemId s'.rows = rowsOf policyVersion itemId s.rows) :
    UpToDate policyVersion s' run ↔ UpToDate policyVersion s run := by
  cases run <;> simp only [UpToDate, Current, CurrentCharge, hrows]

/-- What a run makes of itself by an action: it is alive only if it was, or if it begins, and
then it knows the table if it did. -/
theorem upToDate_step (hstep : PolicyStep D policyVersion a c.shared (c.process i) s run)
    (h : UpToDate policyVersion c.shared (c.process i)) : UpToDate policyVersion s run := by
  generalize c.process i = before at hstep h
  cases hstep with
  | start _ => exact fun itemId => rfl
  | readPool hloop =>
    intro itemId
    rw [PolicyLoop.accruedByItem_readPool hloop]
    exact h itemId
  | pass hconsider =>
    intro itemId
    rw [(PolicyLoop.consider_eq_some hconsider).1]
    exact h itemId
  | charge hconsider =>
    obtain ⟨haccrued, -, hcharge⟩ := PolicyLoop.consider_eq_some hconsider
    obtain ⟨candidate, hcandidate⟩ := hcharge _ rfl
    refine ⟨fun itemId => ?_, ?_⟩
    · rw [haccrued]
      exact h itemId
    · rw [CurrentCharge, (PolicyLoop.chargeFor_eq_some hcandidate).2.1]
      exact h _
  | send | paid _ _ => exact h
  | failed _ | rejected _ _ | paidLate _ _ | rejectedLate _ _ | «return» => trivial
  | @insert _ loop tx rows hrows =>
    intro itemId
    by_cases hitem : tx.charge.itemId = itemId
    · subst hitem
      have hself : rowsOf policyVersion tx.charge.itemId rows =
          rowsOf policyVersion tx.charge.itemId c.shared.rows ++ [tx.row D policyVersion] :=
        rowsOf_insert_self hrows rfl
      rw [PolicyLoop.accruedByItem_record_self, hself, List.length_append, List.length_singleton]
      exact congrArg (· + 1) h.2
    · rw [PolicyLoop.accruedByItem_record_of_ne hitem,
        rowsOf_insert_of_ne hrows fun heq => hitem heq.2]
      exact h.1 itemId
  | crash hcrash =>
    cases before with
    | idle | ended | crashed _ => exact absurd hcrash (by simp [PolicyRun.afterCrash])
    | running _ | settling _ _ | sent _ _ | confirmed _ _ =>
      obtain rfl := Option.some.inj hcrash
      trivial

/-- A run that is alive after an action was alive before it, or begins. -/
theorem alive_of_step {before : PolicyRun} {s' : PolicyState}
    (hstep : PolicyStep D policyVersion a s before s' run) (hrun : run.alive = true) :
    before.alive = true ∨ ∃ maxSettlements candidates, a = .start maxSettlements candidates := by
  cases hstep with
  | start _ => exact .inr ⟨_, _, rfl⟩
  | readPool _ | pass _ | charge _ | send | paid _ _ | insert _ => exact .inl rfl
  | failed _ | rejected _ _ | paidLate _ _ | rejectedLate _ _ | «return» =>
    exact absurd hrun (by decide)
  | crash hcrash =>
    cases before with
    | idle | ended | crashed _ => exact absurd hcrash (by simp [PolicyRun.afterCrash])
    | running _ | settling _ _ | sent _ _ | confirmed _ _ => exact .inl rfl

/-- A run is alive only where the replications can be listed. -/
theorem hasDecisionColumn_of_alive (h : (rewardPolicy D policyVersion).Run tr c)
    (halive : (c.process i).alive = true) : c.shared.replicationsSchema.HasDecisionColumn := by
  induction h generalizing i with
  | genesis _ => exact absurd halive (by simp [rewardPolicy, PolicyRun.alive])
  | @snoc tr c c' l hrun hstep ih =>
    cases hstep with
    | @act j a s run hact =>
      have hstep := policyStep_of_act hact
      rw [hstep.replicationsSchema_eq]
      by_cases hij : i = j
      · subst hij
        simp only [Function.update_self] at halive
        rcases alive_of_step hstep halive with hbefore | ⟨maxSettlements, candidates, rfl⟩
        · exact ih hbefore
        · generalize c.process i = before at hstep
          cases hstep with
          | start hcolumn => exact hcolumn
          | failed _ => exact absurd halive (by decide)
      · simp only [Function.update_of_ne hij] at halive
        exact ih halive
    | env henv =>
      rw [henv.replicationsSchema_eq]
      exact ih halive

/-- Rows change only by a run that is alive. -/
theorem rows_eq_or_alive {before : PolicyRun} {s' : PolicyState}
    (hstep : PolicyStep D policyVersion a s before s' run) :
    s'.rows = s.rows ∨ before.alive = true := by
  cases hstep with
  | insert _ => exact .inr rfl
  | start _ | failed _ | readPool _ | pass _ | charge _ | send | paid _ _ | rejected _ _ | paidLate _ _
  | rejectedLate _ _ | «return» | crash _ => exact .inl rfl

/-- **In a serial history the run that goes on is alone**, and knows the table. -/
theorem alone_of_serial (h : (rewardPolicy D policyVersion).Run tr c) (hserial : Serial tr) :
    Alone policyVersion c := by
  induction h with
  | genesis _ =>
    exact ⟨fun i j hi => absurd hi (by simp [rewardPolicy, PolicyRun.alive]), fun i => trivial⟩
  | @snoc tr c c' l hrun hstep ih =>
    have ih := ih fun e he => hserial e (List.mem_append_left _ he)
    cases hstep with
    | @act i a s run hact =>
      have hstep := policyStep_of_act hact
      -- Whoever is alive now was alive before, or begins when nobody is.
      have halive : ∀ j, j ≠ i → (c.process j).alive = true → run.alive = false := by
        intro j hne hj
        by_contra hrun
        rcases alive_of_step hstep (Bool.eq_true_of_not_eq_false hrun) with hi |
          ⟨maxSettlements, candidates, rfl⟩
        · exact hne (ih.eq j i hj hi)
        · have hdead := hserial _ (List.mem_append_right tr (List.mem_singleton_self _)) rfl j
          exact absurd (hdead.symm.trans hj) (by decide)
      refine ⟨fun j k hj hk => ?_, fun j => ?_⟩
      · by_cases hji : j = i <;> by_cases hki : k = i
        · exact hji.trans hki.symm
        · subst hji
          simp only [Function.update_self, Function.update_of_ne hki] at hj hk
          exact absurd (hj.symm.trans (halive k hki hk)) (by decide)
        · subst hki
          simp only [Function.update_self, Function.update_of_ne hji] at hj hk
          exact absurd (hk.symm.trans (halive j hji hj)) (by decide)
        · simp only [Function.update_of_ne hji, Function.update_of_ne hki] at hj hk
          exact ih.eq j k hj hk
      · by_cases hji : j = i
        · subst hji
          simp only [Function.update_self]
          exact upToDate_step hstep (ih.upToDate j)
        · simp only [Function.update_of_ne hji]
          rcases rows_eq_or_alive hstep with hrows | hi
          · exact (upToDate_congr fun itemId => by rw [hrows]).mpr (ih.upToDate j)
          · refine upToDate_of_not_alive ?_
            by_contra hj
            exact hji (ih.eq j i (Bool.eq_true_of_not_eq_false hj) hi)
    | env henv =>
      exact ⟨ih.eq, fun i => (upToDate_congr henv.rowsOf_eq).mpr (ih.upToDate i)⟩

end

/-! ### Who has spent a settlement -/

/-- Somebody who is no run of the policy accrues for the settlement in the step. -/
def spentByOthers (id : Bytes32) (e : PolicyEvent) : Bool :=
  match e.label with
  | .env (.chain action) => (vaultCall action).any (·.accrues id)
  | _ => false

section

variable (D : Deployment) (policyVersion : String)

/-- A run is paid for the settlement in the step. -/
def PaysFor (id : Bytes32) (e : PolicyEvent) : Prop :=
  ∃ payment, paymentOf e = some payment ∧
    policySettlement D policyVersion payment.2.charge.itemId (stepOf payment) = id

/-- The settlement of a charge was spent, but not by a payment for the step it is for: it was
spent before the history, somebody else has spent it, or the hash of another step collides
with it. -/
def SpentElsewhere (charge : Charge) (tr : List PolicyEvent) (c : PolicyMoment) : Prop :=
  rewardSettled (policySettlement D policyVersion charge.itemId charge.step)
      (origin tr c).chain.world = true ∨
    (∃ e ∈ tr, spentByOthers (policySettlement D policyVersion charge.itemId charge.step) e =
      true) ∨
    ∃ e ∈ tr, ∃ payment, paymentOf e = some payment ∧
      policySettlement D policyVersion payment.2.charge.itemId (stepOf payment) =
        policySettlement D policyVersion charge.itemId charge.step ∧
      ¬(payment.2.charge.itemId = charge.itemId ∧ stepOf payment = charge.step)

end

section

variable {D : Deployment} {policyVersion : String} {tr : List PolicyEvent} {c : PolicyMoment}

/-- **A settlement is spent** exactly if it was before, or somebody else has spent it, or a
run was paid for it. -/
theorem settled_iff (h : (rewardPolicy D policyVersion).Run tr c) (id : Bytes32) :
    rewardSettled id c.shared.chain.world = true ↔
      rewardSettled id (origin tr c).chain.world = true ∨
        (∃ e ∈ tr, spentByOthers id e = true) ∨ ∃ e ∈ tr, PaysFor D policyVersion id e := by
  induction h with
  | genesis _ => simp [origin]
  | @snoc tr c c' l hrun hstep ih =>
    -- One step spends it, or leaves it as it was.
    have hstep' : rewardSettled id c'.shared.chain.world = true ↔
        rewardSettled id c.shared.chain.world = true ∨ spentByOthers id ⟨c, l, c'⟩ = true ∨
          PaysFor D policyVersion id ⟨c, l, c'⟩ := by
      cases hstep with
      | @act i a s run hact =>
        have hothers : spentByOthers id
            ⟨c, .act i a, ⟨s, Function.update c.process i run⟩⟩ = false := rfl
        rw [PaysFor, hothers, paymentOf_act]
        rcases (policyStep_of_act hact).chain_cases with ⟨hnone, hchain⟩ |
          ⟨tx, w, htx, -, hexec, hchain⟩
        · rw [hnone, hchain]
          simp
        · have hsettled := ((World.step_of_exec hexec).rewardSettled id).2
          rw [vaultCall_message, Option.any_some, ClaimRewardVault.Call.accrues,
            settlementId_accrual] at hsettled
          rw [htx, hchain]
          simp only [Outcome.state_done] at hsettled
          simp [hsettled, stepOf]
      | @env b s henv =>
        have hnone : ¬PaysFor D policyVersion id ⟨c, .env b, ⟨s, c.process⟩⟩ := by
          rintro ⟨payment, hpay, -⟩
          exact absurd hpay (by simp [paymentOf])
        rw [or_iff_left hnone]
        cases henv with
        | chain hforward =>
          have hsettled := ((World.step_of_effect hforward.effect).rewardSettled id).2
          simp [hsettled, spentByOthers]
        | insert _ _ => simp [spentByOthers]
    rw [hstep', ih, origin_snoc]
    simp only [List.mem_append, List.mem_singleton, or_and_right, exists_or, exists_eq_left]
    rw [or_assoc, or_or_or_comm]

/-! ### The next attempt -/

/-- **In a serial history, what a run asks for is spent exactly if the item is an orphan**, or
if it was spent elsewhere. -/
theorem settled_iff_orphaned (h : (rewardPolicy D policyVersion).Run tr c) (hserial : Serial tr)
    {i : ℕ} {loop : PolicyLoop} {tx : PolicyTx} (hsent : c.process i = .sent loop tx) :
    rewardSettled (policySettlement D policyVersion tx.charge.itemId tx.charge.step)
        c.shared.chain.world = true ↔
      Orphaned tx.charge.itemId tr ∨ SpentElsewhere D policyVersion tx.charge tr c := by
  obtain ⟨hfence, -⟩ := fence_of_run h
  have hledger := hfence.ledger tx.charge.itemId
  have hlag := lag_of_run h tx.charge.itemId
  have halone := alone_of_serial h hserial
  -- The run is alone, so it has counted every row, and no row is to come.
  have hcount : tx.charge.existing.count =
      (rowsOf policyVersion tx.charge.itemId c.shared.rows).length := by
    have hcurrent := halone.upToDate i
    rw [hsent] at hcurrent
    exact hcurrent.2
  have hnone : ¬Pending tx.charge.itemId c := by
    rintro ⟨j, hj⟩
    have hi : (c.process i).alive = true := by
      rw [hsent]
      rfl
    have hj' : (c.process j).alive = true := by
      generalize c.process j = run at hj
      cases run with
      | confirmed _ _ => rfl
      | idle | running _ | settling _ _ | sent _ _ | crashed _ | ended =>
        exact absurd hj (by simp [PolicyRun.unrecorded])
    obtain rfl := halone.eq i j hi hj'
    rw [hsent] at hj
    exact absurd hj (by simp [PolicyRun.unrecorded])
  -- So its step is the number of a payment exactly if a row is lost.
  have hpaid : (∃ payment ∈ payments tx.charge.itemId tr, stepOf payment = tx.charge.step) ↔
      Orphaned tx.charge.itemId tr := by
    have hlags : Lags policyVersion tx.charge.itemId tr c.shared ↔ Orphaned tx.charge.itemId tr :=
      hlag.lags_iff.trans (or_iff_left hnone)
    rw [hledger.exists_step_iff, ← hlags, Lags, Charge.step, hcount]
    omega
  constructor
  · intro hsettled
    rcases (settled_iff h _).mp hsettled with hbefore | hothers | ⟨e, he, payment, hpay, hid⟩
    · exact .inr (.inl hbefore)
    · exact .inr (.inr (.inl hothers))
    · by_cases hsame : payment.2.charge.itemId = tx.charge.itemId ∧ stepOf payment = tx.charge.step
      · refine .inl (hpaid.mp ⟨payment, ?_, hsame.2⟩)
        exact List.mem_filter.mpr ⟨List.mem_filterMap.mpr ⟨e, he, hpay⟩, decide_eq_true hsame.1⟩
      · exact .inr (.inr (.inr ⟨e, he, payment, hpay, hid, hsame⟩))
  · rintro (horphaned | hbefore | hothers | ⟨e, he, payment, hpay, hid, -⟩)
    · obtain ⟨payment, hpayment, hstep⟩ := hpaid.mpr horphaned
      exact hstep ▸ hfence.settled _ payment hpayment
    · exact (settled_iff h _).mpr (.inl hbefore)
    · exact (settled_iff h _).mpr (.inr (.inl hothers))
    · exact (settled_iff h _).mpr (.inr (.inr ⟨e, he, payment, hpay, hid⟩))

end

/-- The settlement a call is rejected for as a duplicate. -/
def duplicateOf {α : Type} : Tx Revert α → Option Bytes32
  | .error (.custom (.claimRewardVaultDuplicateSettlement settlementId)) => some settlementId
  | _ => none

theorem duplicateOf_eq_none {α : Type} {x : Tx Revert α}
    (h : ∀ settlementId, Avoids (.claimRewardVaultDuplicateSettlement settlementId) x) :
    duplicateOf x = none := by
  unfold duplicateOf
  split
  next settlementId => exact absurd rfl (h settlementId)
  next => rfl

/-- A run tries to be paid in the step `e` of a history, after `tr₁`. -/
structure Attempt (tr tr₁ : List PolicyEvent) (e : PolicyEvent) (i : ℕ) (tx : PolicyTx) :
    Prop where
  split : ∃ tr₂, tr = tr₁ ++ e :: tr₂
  label : e.label = .act i .execute
  sent : ∃ loop, e.before.process i = .sent loop tx

/-- **What becomes of the runs** in a history in which one follows another. -/
structure CrashRecovery (D : Deployment) (policyVersion : String) (tr : List PolicyEvent) :
    Prop where
  /-- Where the replications cannot be listed a run ends in its first reads, and nothing is
  paid. -/
  throws : ∀ {e i maxSettlements candidates}, e ∈ tr →
    e.label = .act i (.start maxSettlements candidates) →
      ¬e.before.shared.replicationsSchema.HasDecisionColumn →
        e.after.process i = .ended ∧ e.after.shared = e.before.shared
  /-- So there is no attempt there. -/
  column : ∀ {tr₁ e i tx}, Attempt tr tr₁ e i tx →
    e.before.shared.replicationsSchema.HasDecisionColumn
  /-- What a run asks for has not been spent exactly if no earlier payment for the item has
  lost its row, and nobody else has spent it. -/
  fresh_iff : ∀ {tr₁ e i tx}, Attempt tr tr₁ e i tx →
    (rewardSettled (policySettlement D policyVersion tx.charge.itemId tx.charge.step)
        e.before.shared.chain.world = false ↔
      ¬Orphaned tx.charge.itemId tr₁ ∧ ¬SpentElsewhere D policyVersion tx.charge tr₁ e.before)
  /-- Then it is not rejected as a duplicate. -/
  recovers : ∀ {tr₁ e i tx}, Attempt tr tr₁ e i tx → ¬Orphaned tx.charge.itemId tr₁ →
    ¬SpentElsewhere D policyVersion tx.charge tr₁ e.before →
    duplicateOf (World.exec D (tx.message D policyVersion) e.before.shared.chain.world) = none
  /-- Otherwise the run ends there, and nothing is paid. -/
  fails : ∀ {tr₁ e i tx}, Attempt tr tr₁ e i tx →
    Orphaned tx.charge.itemId tr₁ ∨ SpentElsewhere D policyVersion tx.charge tr₁ e.before →
    e.after.process i = .ended ∧ e.after.shared = e.before.shared

section

variable {D : Deployment} {policyVersion : String} {tr tr₁ : List PolicyEvent}
  {c c' : PolicyMoment} {e : PolicyEvent} {i : ℕ} {tx : PolicyTx}

/-- A transaction that cannot be paid ends its run. -/
theorem ended_of_settled {loop : PolicyLoop}
    (hstep : (rewardPolicy D policyVersion).Step c (.act i .execute) c')
    (hsent : c.process i = .sent loop tx)
    (hsettled : rewardSettled (policySettlement D policyVersion tx.charge.itemId tx.charge.step)
      c.shared.chain.world = true) :
    c'.process i = .ended ∧ c'.shared = c.shared := by
  cases hstep with
  | @act _ _ s run hact =>
    have hstep := policyStep_of_act hact
    rw [hsent] at hstep
    cases hstep with
    | paid _ hexec =>
      have hfresh := (settled_of_paid hexec).1
      rw [hsettled] at hfresh
      exact absurd hfresh (by decide)
    | rejected _ _ => exact ⟨Function.update_self _ _ _, rfl⟩

/-- What comes before an attempt is a serial history. -/
theorem Attempt.before (hattempt : Attempt tr tr₁ e i tx)
    (h : (rewardPolicy D policyVersion).Run tr c) (hserial : Serial tr) :
    (rewardPolicy D policyVersion).Run tr₁ e.before ∧ Serial tr₁ ∧
      (rewardPolicy D policyVersion).Step e.before (.act i .execute) e.after := by
  obtain ⟨⟨tr₂, rfl⟩, hlabel, -⟩ := hattempt
  obtain ⟨hbefore, hstep⟩ := h.split
  exact ⟨hbefore, fun e' he' => hserial e' (List.mem_append_left _ he'), hlabel ▸ hstep⟩

/-- A run that cannot read its candidates ends, and does nothing else. -/
theorem ended_of_not_hasDecisionColumn {maxSettlements : ℕ} {candidates : List PolicyCandidate}
    (hstep : (rewardPolicy D policyVersion).Step c (.act i (.start maxSettlements candidates)) c')
    (hcolumn : ¬c.shared.replicationsSchema.HasDecisionColumn) :
    c'.process i = .ended ∧ c'.shared = c.shared := by
  cases hstep with
  | @act _ _ s run hact =>
    have hstep := policyStep_of_act hact
    generalize c.process i = before at hstep
    cases hstep with
    | start hhas => exact absurd hhas hcolumn
    | failed _ => exact ⟨Function.update_self _ _ _, rfl⟩

/-- **A run recovers from the crashes before it exactly if no payment has lost its row**, and
the replications can be listed. In every history in which one run follows another, a run
ends in its first reads where they cannot; otherwise what it asks for is spent if and
only if an earlier payment for the item has lost its row or somebody else has spent it; if
not, the vault does not reject it as a duplicate, and if so, the run ends there. -/
theorem crash_recovery_iff (h : (rewardPolicy D policyVersion).Run tr c)
    (hserial : Serial tr) : CrashRecovery D policyVersion tr where
  throws := by
    intro e i maxSettlements candidates he hlabel hcolumn
    obtain ⟨tr₁, tr₂, rfl⟩ := List.append_of_mem he
    obtain ⟨-, hstep⟩ := h.split
    rw [hlabel] at hstep
    exact ended_of_not_hasDecisionColumn hstep hcolumn
  column := by
    intro tr₁ e i tx hattempt
    obtain ⟨hbefore, -, -⟩ := hattempt.before h hserial
    obtain ⟨loop, hsent⟩ := hattempt.sent
    refine hasDecisionColumn_of_alive hbefore (i := i) ?_
    rw [hsent]
    rfl
  fresh_iff hattempt := by
    obtain ⟨hbefore, hserial', -⟩ := hattempt.before h hserial
    obtain ⟨loop, hsent⟩ := hattempt.sent
    rw [← not_or, ← settled_iff_orphaned hbefore hserial' hsent, Bool.not_eq_true]
  recovers hattempt horphaned helsewhere := by
    obtain ⟨hbefore, hserial', -⟩ := hattempt.before h hserial
    obtain ⟨loop, hsent⟩ := hattempt.sent
    have hfresh := mt (settled_iff_orphaned hbefore hserial' hsent).mp
      (not_or.mpr ⟨horphaned, helsewhere⟩)
    rw [Bool.not_eq_true, ← settlementId_accrual] at hfresh
    exact duplicateOf_eq_none fun settlementId => avoids_duplicate_of_exec rfl hfresh settlementId
  fails hattempt hspent := by
    obtain ⟨hbefore, hserial', hstep⟩ := hattempt.before h hserial
    obtain ⟨loop, hsent⟩ := hattempt.sent
    exact ended_of_settled hstep hsent ((settled_iff_orphaned hbefore hserial' hsent).mpr hspent)

end

/-! ### A crash between the two commits -/

/-- The runs that act in a history. -/
def actors (tr : List PolicyEvent) : List ℕ :=
  tr.filterMap fun e => match e.label with
    | .act i _ => some i
    | .env _ => none

/-- Whether a history is serial can be seen from the runs that act in it. -/
theorem serial_of_actors {D : Deployment} {policyVersion : String} {tr : List PolicyEvent}
    {c : PolicyMoment} (h : (rewardPolicy D policyVersion).Run tr c)
    (hactors : ∀ e ∈ tr, startsRun e = true → ∀ j ∈ actors tr,
      (e.before.process j).alive = false) : Serial tr := by
  intro e he hstart j
  by_cases hj : j ∈ actors tr
  · exact hactors e he hstart j hj
  · obtain ⟨tr₁, tr₂, rfl⟩ := List.append_of_mem he
    have hidle : e.before.process j = .idle := by
      refine h.split.1.idle fun e' he' a hlabel => hj ?_
      exact List.mem_filterMap.mpr ⟨e', List.mem_append_left _ he', by rw [hlabel]⟩
    rw [hidle]
    rfl

/-- The transaction a run waits for, and what it has still to do. -/
def PolicyRun.waiting : PolicyRun → Option (PolicyLoop × PolicyTx)
  | .sent loop tx => some (loop, tx)
  | _ => none

/-- A run is paid for the first forecast and crashes, and another begins. -/
def crashedInWindow : List (ℕ × PolicyAction) :=
  untilSent 0 10000 ++ [(0, .execute), (0, .crash)] ++ untilSent 1 10000

theorem playFunded_crashedInWindow : (playFunded crashedInWindow).isSome := by
  decide

/-- The second run is not interrupted. -/
def retried : List (ℕ × PolicyAction) := crashedInWindow ++ [(1, .execute)]

theorem playFunded_retried : (playFunded retried).isSome := by
  decide

theorem serial_retried : Serial ((playFunded retried).get playFunded_retried).1 :=
  serial_of_actors (run_playFunded playFunded_retried) (by decide)

/-- **A crash can block an item, and whatever comes after it.** The first run has paid the
first forecast and has not recorded it. The second, with the same candidates and alone,
asks for the same settlement, is rejected because of it, and ends with the second forecast
unpaid. -/
theorem retry_rejected_as_duplicate :
    (rewardPolicy rewardNet "auto-v1").Run ((playFunded retried).get playFunded_retried).1
        ((playFunded retried).get playFunded_retried).2 ∧
      Serial ((playFunded retried).get playFunded_retried).1 ∧
      (((playFunded crashedInWindow).get playFunded_crashedInWindow).2.process 1).waiting.map
        (fun waiting => duplicateOf (World.exec rewardNet (waiting.2.message rewardNet "auto-v1")
          ((playFunded crashedInWindow).get playFunded_crashedInWindow).2.shared.chain.world)) =
        some (some (policySettlement rewardNet "auto-v1" "forecast:1" 1)) ∧
      (((playFunded crashedInWindow).get playFunded_crashedInWindow).2.process 1).waiting.map
        (fun waiting => waiting.1.candidates.map (·.itemId)) = some ["forecast:2"] ∧
      (((playFunded retried).get playFunded_retried).2.process 1).alive = false ∧
      (payments "forecast:2" ((playFunded retried).get playFunded_retried).1).length = 0 := by
  refine ⟨run_playFunded playFunded_retried, serial_retried, ?_, ?_, ?_, ?_⟩
  · decide
  · decide
  · decide
  · decide

/-- That history, told by the theorem. -/
theorem crash_recovery_iff_retried :
    CrashRecovery rewardNet "auto-v1" ((playFunded retried).get playFunded_retried).1 :=
  crash_recovery_iff (run_playFunded playFunded_retried) serial_retried

end ScientificProtocol.RewardPolicy
