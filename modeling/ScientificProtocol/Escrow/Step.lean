import ScientificProtocol.System.World

/-!
# What a call of the escrow does

`ScientificProtocol.BondEscrow.Step` lists, entry point by entry point, the guards a
successful call passed and the escrow it leaves. Of the three calls that send value
it gives the escrow the recipient sees: the transfer comes last, so everything the
call writes is written by then, and what is left of it
(`ScientificProtocol.BondEscrow.resume`) moves nothing.
-/

namespace ScientificProtocol

open Evm

namespace BondEscrow

section

variable (ctx : Ctx) (claimRegistry : ClaimRegistry) (replicationRegistry : ReplicationRegistry)
  (self : BondEscrow)

/-- **What a successful call of the escrow did**, with the guards it passed. -/
inductive Step : Call → BondEscrow → Prop
  | depositAuthorBond {claimId : ℕ} {logs : List Event} :
      self.entered = false → self.depositsPaused = false →
      (claimRegistry.claims claimId).claimId ≠ 0 →
      (claimRegistry.claims claimId).summary.author = ctx.sender → ctx.value ≠ 0 →
      Step (.depositAuthorBond claimId) { self with
        balance := self.balance + ctx.value
        authorBondBalances := self.authorBondBalances.set claimId
          (self.authorBondBalances claimId + ctx.value)
        logs }
  | fundReplicationBounty {claimId : ℕ} {logs : List Event} :
      self.entered = false → self.depositsPaused = false →
      (claimRegistry.claims claimId).claimId ≠ 0 → ctx.value ≠ 0 →
      Step (.fundReplicationBounty claimId) { self with
        balance := self.balance + ctx.value
        bountyBalances := self.bountyBalances.set claimId
          (self.bountyBalances claimId + ctx.value)
        logs }
  | reserveBountyPayout {claimId replicationId amount : ℕ} {logs : List Event} :
      ctx.value = 0 → ctx.hasRole .bountySettler ctx.sender = true → amount ≠ 0 →
      (claimRegistry.claims claimId).claimId ≠ 0 →
      replicationRegistry.replicationExists replicationId = true →
      replicationRegistry.getReplicationClaimId replicationId = claimId →
      replicationRegistry.getReplicationReplicator replicationId ≠ 0 →
      (self.reservations claimId replicationId).amount = 0 →
      self.reservedBountyBalances claimId + amount ≤ self.bountyBalances claimId →
      Step (.reserveBountyPayout claimId replicationId amount) { self with
        reservations := self.setReservation claimId replicationId
          { self.reservations claimId replicationId with
            recipient := replicationRegistry.getReplicationReplicator replicationId, amount }
        reservedBountyBalances := self.reservedBountyBalances.set claimId
          (self.reservedBountyBalances claimId + amount)
        logs }
  | releaseReservedPayout {claimId replicationId : ℕ} {logs : List Event} :
      ctx.value = 0 → ctx.hasRole .bountySettler ctx.sender = true → self.entered = false →
      (self.reservations claimId replicationId).amount ≠ 0 →
      (self.reservations claimId replicationId).released = false →
      (self.reservations claimId replicationId).cancelled = false →
      replicationRegistry.isReplicationResolved replicationId = true →
      (self.reservations claimId replicationId).amount ≤ self.reservedBountyBalances claimId →
      (self.reservations claimId replicationId).amount ≤ self.bountyBalances claimId →
      (self.reservations claimId replicationId).amount ≤ self.balance →
      Step (.releaseReservedPayout claimId replicationId) { self with
        reservations := self.setReservation claimId replicationId
          { self.reservations claimId replicationId with released := true }
        reservedBountyBalances := self.reservedBountyBalances.set claimId
          (self.reservedBountyBalances claimId - (self.reservations claimId replicationId).amount)
        bountyBalances := self.bountyBalances.set claimId
          (self.bountyBalances claimId - (self.reservations claimId replicationId).amount)
        balance := self.balance - (self.reservations claimId replicationId).amount
        entered := true
        logs }
  | cancelReservedPayout {claimId replicationId : ℕ} {logs : List Event} :
      ctx.value = 0 → ctx.hasRole .escrowAdmin ctx.sender = true →
      (self.reservations claimId replicationId).amount ≠ 0 →
      (self.reservations claimId replicationId).released = false →
      (self.reservations claimId replicationId).cancelled = false →
      (self.reservations claimId replicationId).amount ≤ self.reservedBountyBalances claimId →
      Step (.cancelReservedPayout claimId replicationId) { self with
        reservations := self.setReservation claimId replicationId
          { self.reservations claimId replicationId with cancelled := true }
        reservedBountyBalances := self.reservedBountyBalances.set claimId
          (self.reservedBountyBalances claimId - (self.reservations claimId replicationId).amount)
        logs }
  | slashAuthorBond {claimId amount : ℕ} {logs : List Event} :
      ctx.value = 0 → ctx.hasRole .escrowAdmin ctx.sender = true → self.entered = false →
      amount ≠ 0 → amount ≤ self.authorBondBalances claimId → amount ≤ self.balance →
      Step (.slashAuthorBond claimId amount) { self with
        authorBondBalances := self.authorBondBalances.set claimId
          (self.authorBondBalances claimId - amount)
        balance := self.balance - amount
        entered := true
        logs }
  | refundAuthorBond {claimId amount : ℕ} {author : Address} {logs : List Event} :
      ctx.value = 0 → ctx.hasRole .escrowAdmin ctx.sender = true → amount ≠ 0 →
      (claimRegistry.claims claimId).claimId ≠ 0 →
      author = (claimRegistry.claims claimId).summary.author →
      amount ≤ self.authorBondBalances claimId →
      Step (.refundAuthorBond claimId amount) { self with
        authorBondBalances := self.authorBondBalances.set claimId
          (self.authorBondBalances claimId - amount)
        authorRefundCredits := self.authorRefundCredits.set author
          (self.authorRefundCredits author + amount)
        logs }
  | withdrawAuthorBondRefund {amount : ℕ} {recipient : Address} {logs : List Event} :
      ctx.value = 0 → self.entered = false → amount ≠ 0 → recipient ≠ 0 →
      amount ≤ self.authorRefundCredits ctx.sender → amount ≤ self.balance →
      Step (.withdrawAuthorBondRefund amount recipient) { self with
        authorRefundCredits := self.authorRefundCredits.set ctx.sender
          (self.authorRefundCredits ctx.sender - amount)
        balance := self.balance - amount
        entered := true
        logs }
  | setDepositsPaused {paused : Bool} {logs : List Event} :
      ctx.value = 0 → ctx.hasRole .pauser ctx.sender = true →
      Step (.setDepositsPaused paused) { self with depositsPaused := paused, logs }

end

section

variable {ctx : Ctx} {claimRegistry : ClaimRegistry} {replicationRegistry : ReplicationRegistry}
  {self s : BondEscrow}

/-- A reservation that is live. -/
theorem requireLiveReservation_eq_ok {claimId replicationId : ℕ} {r : BountyReservation} :
    self.requireLiveReservation claimId replicationId = .ok r ↔
      (self.reservations claimId replicationId).amount ≠ 0 ∧
        (self.reservations claimId replicationId).released = false ∧
        (self.reservations claimId replicationId).cancelled = false ∧
        r = self.reservations claimId replicationId := by
  simp only [requireLiveReservation, bind_eq_ok, revertIf_eq_ok, pure_eq_ok, Except.ok.injEq,
    Bool.not_eq_true]
  constructor
  · rintro ⟨-, hamount, -, hreleased, -, hcancelled, rfl⟩
    exact ⟨hamount, hreleased, hcancelled, rfl⟩
  · rintro ⟨hamount, hreleased, hcancelled, rfl⟩
    exact ⟨(), hamount, (), hreleased, (), hcancelled, rfl⟩

/-- A transfer is made if the ether is there and the recipient does not refuse it. -/
theorem safeTransferValue_eq_ok {recipient : Address} {amount : ℕ} {p : Pending}
    {o : Outcome BondEscrow Pending} :
    self.safeTransferValue ctx recipient amount p = .ok o ↔
      (amount ≤ self.balance ∧ ctx.refusesValue recipient = false) ∧
        o = .transfer recipient amount p
          { self with balance := self.balance - amount, entered := true } := by
  simp only [safeTransferValue, bind_eq_ok, revertIf_eq_ok, pure_eq_ok, Except.ok.injEq,
    not_or, Nat.not_lt, Bool.not_eq_true]
  constructor
  · rintro ⟨-, hchecks, rfl⟩
    exact ⟨hchecks, rfl⟩
  · rintro ⟨hchecks, rfl⟩
    exact ⟨(), hchecks, rfl⟩

theorem step_of_reserveBountyPayout {claimId replicationId amount : ℕ} (hvalue : ctx.value = 0)
    (h : self.reserveBountyPayout ctx claimRegistry replicationRegistry claimId replicationId
      amount = .ok s) :
    Step ctx claimRegistry replicationRegistry self
      (.reserveBountyPayout claimId replicationId amount) s := by
  simp only [reserveBountyPayout, ClaimRegistry.claimExists, requireValidRecipient, bind_eq_ok,
    Ctx.onlyRole_eq_ok, revertIf_eq_ok, checkedSub_eq_ok, checkedAdd_eq_ok, pure_eq_ok,
    Except.ok.injEq, decide_eq_true_eq, not_not] at h
  obtain ⟨-, hrole, -, hamount, -, hclaim, -, hexists, -, hmatch, -, hrecipient, -, hfresh,
    available, ⟨hle, rfl⟩, -, havailable, reserved, ⟨-, rfl⟩, rfl⟩ := h
  exact .reserveBountyPayout hvalue hrole hamount hclaim hexists hmatch hrecipient hfresh
    (by omega)

theorem step_of_releaseReservedPayout {claimId replicationId : ℕ}
    {o : Outcome BondEscrow Pending} (hvalue : ctx.value = 0)
    (h : self.releaseReservedPayout ctx replicationRegistry claimId replicationId = .ok o) :
    Step ctx claimRegistry replicationRegistry self (.releaseReservedPayout claimId replicationId)
      o.state := by
  simp only [releaseReservedPayout, bind_eq_ok, Ctx.onlyRole_eq_ok, nonReentrant_eq_ok,
    requireLiveReservation_eq_ok, revertIf_eq_ok, checkedSub_eq_ok, safeTransferValue_eq_ok,
    not_not] at h
  obtain ⟨-, hrole, -, hentered, reservation, ⟨hamount, hreleased, hcancelled, rfl⟩, -, hresolved,
    reserved, ⟨hreserved, rfl⟩, bounty, ⟨hbounty, rfl⟩, ⟨hbalance, -⟩, rfl⟩ := h
  exact .releaseReservedPayout hvalue hrole hentered hamount hreleased hcancelled hresolved
    hreserved hbounty hbalance

theorem step_of_cancelReservedPayout {claimId replicationId : ℕ} (hvalue : ctx.value = 0)
    (h : self.cancelReservedPayout ctx claimId replicationId = .ok s) :
    Step ctx claimRegistry replicationRegistry self (.cancelReservedPayout claimId replicationId)
      s := by
  simp only [cancelReservedPayout, bind_eq_ok, Ctx.onlyRole_eq_ok, requireLiveReservation_eq_ok,
    checkedSub_eq_ok, pure_eq_ok, Except.ok.injEq] at h
  obtain ⟨-, hrole, reservation, ⟨hamount, hreleased, hcancelled, rfl⟩, reserved,
    ⟨hreserved, rfl⟩, rfl⟩ := h
  exact .cancelReservedPayout hvalue hrole hamount hreleased hcancelled hreserved

theorem step_of_slashAuthorBond {claimId amount : ℕ} {o : Outcome BondEscrow Pending}
    (hvalue : ctx.value = 0) (h : self.slashAuthorBond ctx claimId amount = .ok o) :
    Step ctx claimRegistry replicationRegistry self (.slashAuthorBond claimId amount) o.state := by
  simp only [slashAuthorBond, bind_eq_ok, Ctx.onlyRole_eq_ok, nonReentrant_eq_ok, revertIf_eq_ok,
    checkedSub_eq_ok, safeTransferValue_eq_ok] at h
  obtain ⟨-, hrole, -, hentered, -, hamount, -, -, bond, ⟨hbond, rfl⟩, ⟨hbalance, -⟩, rfl⟩ := h
  exact .slashAuthorBond hvalue hrole hentered hamount hbond hbalance

theorem step_of_withdrawAuthorBondRefund {amount : ℕ} {recipient : Address}
    {o : Outcome BondEscrow Pending} (hvalue : ctx.value = 0)
    (h : self.withdrawAuthorBondRefund ctx amount recipient = .ok o) :
    Step ctx claimRegistry replicationRegistry self (.withdrawAuthorBondRefund amount recipient)
      o.state := by
  simp only [withdrawAuthorBondRefund, requireValidRecipient, bind_eq_ok, nonReentrant_eq_ok,
    revertIf_eq_ok, checkedSub_eq_ok, safeTransferValue_eq_ok] at h
  obtain ⟨-, hentered, -, hamount, -, hrecipient, -, -, credit, ⟨hcredit, rfl⟩, ⟨hbalance, -⟩,
    rfl⟩ := h
  exact .withdrawAuthorBondRefund hvalue hentered hamount hrecipient hcredit hbalance

/-- **Every successful call of the escrow is one of the steps above.** -/
theorem step_of_exec {call : Call} {o : Outcome BondEscrow Pending}
    (h : self.exec ctx claimRegistry replicationRegistry call = .ok o) :
    Step ctx claimRegistry replicationRegistry self call o.state := by
  simp only [exec, bind_eq_ok, Ctx.receiveValue_eq_ok] at h
  obtain ⟨-, ⟨hpayable, -, rfl⟩, h⟩ := h
  -- A call that is not payable carries no value, and runs on the escrow as it was.
  have hplain : call.payable = false → ctx.value = 0 ∧
      { self with balance := self.balance + ctx.value } = self := by
    intro hcall
    have hvalue : ctx.value = 0 := by simpa [hcall] using hpayable
    exact ⟨hvalue, by rw [hvalue, Nat.add_zero]⟩
  cases call with
  | depositAuthorBond claimId =>
    obtain ⟨s, hrun, rfl⟩ := map_eq_ok.mp h
    simp only [depositAuthorBond, ClaimRegistry.claimExists, ClaimRegistry.getClaimAuthor,
      ClaimRegistry.requireExistingClaim, bind_eq_ok, nonReentrant_eq_ok,
      whenDepositsNotPaused_eq_ok, revertIf_eq_ok, checkedAdd_eq_ok, pure_eq_ok, Except.ok.injEq,
      decide_eq_true_eq, not_not] at hrun
    obtain ⟨-, hentered, -, hpaused, -, hclaim, author, ⟨claimRecord, ⟨-, -, rfl⟩, rfl⟩, -,
      hauthor, -, hvalue, bond, ⟨-, rfl⟩, rfl⟩ := hrun
    exact .depositAuthorBond hentered hpaused hclaim hauthor.symm hvalue
  | fundReplicationBounty claimId =>
    obtain ⟨s, hrun, rfl⟩ := map_eq_ok.mp h
    simp only [fundReplicationBounty, ClaimRegistry.claimExists, bind_eq_ok, nonReentrant_eq_ok,
      whenDepositsNotPaused_eq_ok, revertIf_eq_ok, checkedAdd_eq_ok, pure_eq_ok, Except.ok.injEq,
      decide_eq_true_eq, not_not] at hrun
    obtain ⟨-, hentered, -, hpaused, -, hclaim, -, hvalue, bounty, ⟨-, rfl⟩, rfl⟩ := hrun
    exact .fundReplicationBounty hentered hpaused hclaim hvalue
  | reserveBountyPayout claimId replicationId amount =>
    obtain ⟨hvalue, hself⟩ := hplain rfl
    obtain ⟨s, hrun, rfl⟩ := map_eq_ok.mp h
    exact step_of_reserveBountyPayout hvalue (hself ▸ hrun)
  | releaseReservedPayout claimId replicationId =>
    obtain ⟨hvalue, hself⟩ := hplain rfl
    exact step_of_releaseReservedPayout hvalue (hself ▸ h)
  | cancelReservedPayout claimId replicationId =>
    obtain ⟨hvalue, hself⟩ := hplain rfl
    obtain ⟨s, hrun, rfl⟩ := map_eq_ok.mp h
    exact step_of_cancelReservedPayout hvalue (hself ▸ hrun)
  | slashAuthorBond claimId amount =>
    obtain ⟨hvalue, hself⟩ := hplain rfl
    exact step_of_slashAuthorBond hvalue (hself ▸ h)
  | refundAuthorBond claimId amount =>
    obtain ⟨hvalue, hself⟩ := hplain rfl
    obtain ⟨s, hrun, rfl⟩ := map_eq_ok.mp h
    rw [hself] at hrun
    simp only [refundAuthorBond, ClaimRegistry.getClaimAuthor, ClaimRegistry.requireExistingClaim,
      bind_eq_ok, Ctx.onlyRole_eq_ok, revertIf_eq_ok, checkedSub_eq_ok, checkedAdd_eq_ok,
      pure_eq_ok, Except.ok.injEq] at hrun
    obtain ⟨-, hrole, -, hamount, author, ⟨claimRecord, ⟨-, hclaim, rfl⟩, rfl⟩, -, -, bond,
      ⟨hbond, rfl⟩, credit, ⟨-, rfl⟩, rfl⟩ := hrun
    exact .refundAuthorBond hvalue hrole hamount hclaim rfl hbond
  | withdrawAuthorBondRefund amount recipient =>
    obtain ⟨hvalue, hself⟩ := hplain rfl
    exact step_of_withdrawAuthorBondRefund hvalue (hself ▸ h)
  | setDepositsPaused paused =>
    obtain ⟨hvalue, hself⟩ := hplain rfl
    obtain ⟨s, hrun, rfl⟩ := map_eq_ok.mp h
    rw [hself] at hrun
    simp only [setDepositsPaused, bind_eq_ok, Ctx.onlyRole_eq_ok, pure_eq_ok,
      Except.ok.injEq] at hrun
    obtain ⟨-, hrole, rfl⟩ := hrun
    exact .setDepositsPaused hvalue hrole

end

end BondEscrow

/-! ### The escrow in a step of the protocol -/

/-- **How the escrow moves in a step of the protocol**: it stands still, it runs one
of its calls, or it finishes one. -/
theorem World.Step.bondEscrow_cases {D : Deployment} {a : Action Message Suspended}
    {w w' : World} (h : World.Step D a w w') :
    w'.bondEscrow = w.bondEscrow ∨
      (∃ m call, a = .exec m ∧ m.target = .bondEscrow call ∧
        BondEscrow.Step (w.context D m) w.claimRegistry w.replicationRegistry w.bondEscrow call
          w'.bondEscrow) ∨
      ∃ p, a = .resume (.bondEscrow p) ∧ w'.bondEscrow = w.bondEscrow.resume p := by
  cases h with
  | bondEscrow htarget hexec =>
    exact .inr (.inl ⟨_, _, rfl, htarget, BondEscrow.step_of_exec hexec⟩)
  | resume p w =>
    cases p with
    | bondEscrow p => exact .inr (.inr ⟨p, rfl, rfl⟩)
    | _ => exact .inl rfl
  | _ => exact .inl rfl

end ScientificProtocol
