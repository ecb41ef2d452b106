import ScientificProtocol.Escrow.Step

/-!
# The escrow owes what it holds

The ether of the escrow is in three ledgers: the author bonds, the refunds nobody has
withdrawn yet and the bounties. Of the bounty of a claim a part is reserved, and that
part is the sum of the reservations of the claim that are neither released nor
cancelled (`ScientificProtocol.ClaimReserved`). The mapping of reservations has no
list and no counter beside it, so the sum is over all replications there could ever
be.

A reservation is released or cancelled once and then stays as it is. That the checked
subtractions of the contract never fail is a consequence: what a release or a
cancellation takes out of the reserved part is one term of the sum, and the reserved
part is at most the bounty.
-/

namespace ScientificProtocol

open Evm

/-! ### The reservations of one claim -/

/-- What a reservation still binds of the bounty. -/
def liveAmount (reservation : BountyReservation) : ℕ :=
  if reservation.released ∨ reservation.cancelled then 0 else reservation.amount

/-- **The reserved part of a bounty** is the sum of the live reservations, and at most
the bounty. -/
structure ClaimReserved (reserved bounty : ℕ) (reservations : Mapping ℕ BountyReservation) :
    Prop where
  reserved_eq : reserved = reservations.total liveAmount
  reserved_le : reserved ≤ bounty
  /-- A reservation is not released and cancelled both. -/
  exclusive : ∀ r, ¬((reservations r).released = true ∧ (reservations r).cancelled = true)
  /-- Without an amount, nothing was ever reserved. -/
  unreserved : ∀ r, (reservations r).amount = 0 → reservations r = default

namespace ClaimReserved

variable {reserved bounty r : ℕ} {reservations : Mapping ℕ BountyReservation}

theorem empty : ClaimReserved 0 0 default where
  reserved_eq := (Mapping.total_default rfl).symm
  reserved_le := le_rfl
  exclusive _ hboth := Bool.false_ne_true hboth.1
  unreserved _ _ := rfl

/-- A larger bounty leaves the reserved part alone. -/
theorem fund (h : ClaimReserved reserved bounty reservations) (amount : ℕ) :
    ClaimReserved reserved (bounty + amount) reservations where
  reserved_eq := h.reserved_eq
  reserved_le := h.reserved_le.trans (Nat.le_add_right _ _)
  exclusive := h.exclusive
  unreserved := h.unreserved

/-- What holds of every reservation holds of them once one is overwritten by a value
it holds of. -/
theorem forall_set {P : BountyReservation → Prop} (h : ∀ k, P (reservations k))
    {v : BountyReservation} (hv : P v) (k : ℕ) : P (reservations.set r v k) := by
  rw [Mapping.set_apply]
  split
  · exact hv
  · exact h k

/-- A new reservation adds its amount to the reserved part. -/
theorem reserve (h : ClaimReserved reserved bounty reservations)
    (hfresh : (reservations r).amount = 0) {amount : ℕ} (hamount : amount ≠ 0)
    (hle : reserved + amount ≤ bounty) (recipient : Address) :
    ClaimReserved (reserved + amount) bounty
      (reservations.set r { reservations r with recipient, amount }) := by
  have hblank := h.unreserved r hfresh
  have htotal := Mapping.total_set_blank (w := liveAmount) rfl hblank
    { reservations r with recipient, amount }
  have hlive : liveAmount { reservations r with recipient, amount } = amount := by
    rw [hblank]
    rfl
  exact ⟨by rw [htotal, hlive, h.reserved_eq], hle,
    forall_set (P := fun v => ¬(v.released = true ∧ v.cancelled = true)) h.exclusive
      (h.exclusive r),
    forall_set (P := fun v => v.amount = 0 → v = default) h.unreserved fun hzero =>
      absurd hzero hamount⟩

/-- A live reservation is a term of the sum. -/
theorem amount_le (h : ClaimReserved reserved bounty reservations)
    (hreleased : (reservations r).released = false)
    (hcancelled : (reservations r).cancelled = false) : (reservations r).amount ≤ reserved := by
  have hle := reservations.le_total (w := liveAmount) rfl r
  simpa [liveAmount, hreleased, hcancelled, ← h.reserved_eq] using hle

/-- Ending a live reservation takes its amount out of the reserved part. -/
theorem close (h : ClaimReserved reserved bounty reservations)
    (hamount : (reservations r).amount ≠ 0) (hreleased : (reservations r).released = false)
    (hcancelled : (reservations r).cancelled = false) {v : BountyReservation}
    (hv : v.amount = (reservations r).amount)
    (hover : v.released = true ∧ v.cancelled = false ∨ v.released = false ∧ v.cancelled = true)
    (bounty' : ℕ) (hle : reserved - (reservations r).amount ≤ bounty') :
    ClaimReserved (reserved - (reservations r).amount) bounty' (reservations.set r v) := by
  have hweightless : liveAmount v = 0 := by
    rcases hover with ⟨hover, -⟩ | ⟨-, hover⟩ <;> simp [liveAmount, hover]
  have htotal := reservations.total_set_weightless rfl r hweightless
  have hlive : liveAmount (reservations r) = (reservations r).amount := by
    simp [liveAmount, hreleased, hcancelled]
  refine ⟨?_, hle,
    forall_set (P := fun v => ¬(v.released = true ∧ v.cancelled = true)) h.exclusive ?_,
    forall_set (P := fun v => v.amount = 0 → v = default) h.unreserved fun hzero => ?_⟩
  · rw [h.reserved_eq]
    omega
  · rcases hover with ⟨hreleased, hcancelled⟩ | ⟨hreleased, hcancelled⟩ <;>
      simp [hreleased, hcancelled]
  · exact absurd (hv.symm.trans hzero) hamount

end ClaimReserved

namespace BondEscrow

/-- **The escrow owes what it holds**, and every claim has reserved what its live
reservations say. -/
structure Conserved (s : BondEscrow) : Prop where
  balance_eq : s.balance = s.authorBondBalances.total id + s.authorRefundCredits.total id +
    s.bountyBalances.total id
  claims : ∀ claimId, ClaimReserved (s.reservedBountyBalances claimId) (s.bountyBalances claimId)
    (s.reservations claimId)

theorem conserved_deployed : deployed.Conserved where
  balance_eq := by
    change 0 = (default : Mapping ℕ ℕ).total id + (default : Mapping Address ℕ).total id +
      (default : Mapping ℕ ℕ).total id
    rw [Mapping.total_default rfl, Mapping.total_default rfl]
  claims _ := .empty

section

variable {ctx : Ctx} {claimRegistry : ClaimRegistry} {replicationRegistry : ReplicationRegistry}
  {self s : BondEscrow} {call : Call}

/-- What holds of every claim holds of them once one of them is overwritten. -/
theorem claims_set {reserved bounties : Mapping ℕ ℕ}
    {reservations : Mapping ℕ (Mapping ℕ BountyReservation)}
    (h : ∀ claimId, ClaimReserved (reserved claimId) (bounties claimId) (reservations claimId))
    (claimId : ℕ) {reserved' bounty' : ℕ} {reservations' : Mapping ℕ BountyReservation}
    (hclaim : ClaimReserved reserved' bounty' reservations') (id : ℕ) :
    ClaimReserved (reserved.set claimId reserved' id) (bounties.set claimId bounty' id)
      (reservations.set claimId reservations' id) := by
  by_cases hid : id = claimId
  · subst hid
    simp only [Mapping.set_self]
    exact hclaim
  · simp only [Mapping.set_of_ne _ hid]
    exact h id

/-- **Every call conserves.** -/
theorem Step.conserved (h : Step ctx claimRegistry replicationRegistry self call s)
    (hself : self.Conserved) : s.Conserved := by
  have hbalance := hself.balance_eq
  cases h with
  | setDepositsPaused => exact ⟨hbalance, hself.claims⟩
  | @depositAuthorBond claimId =>
    have hbonds := self.authorBondBalances.total_set_add claimId ctx.value
    exact ⟨by simp only; omega, hself.claims⟩
  | @fundReplicationBounty claimId =>
    have hbounties := self.bountyBalances.total_set_add claimId ctx.value
    refine ⟨by simp only; omega, fun id => ?_⟩
    have hclaims := claims_set hself.claims claimId ((hself.claims claimId).fund ctx.value) id
    rwa [Mapping.set_get_self, Mapping.set_get_self] at hclaims
  | @reserveBountyPayout claimId replicationId amount logs _ _ hamount _ _ _ _ hfresh hle =>
    refine ⟨hbalance, fun id => ?_⟩
    have hreserved := (hself.claims claimId).reserve hfresh hamount hle
      (replicationRegistry.getReplicationReplicator replicationId)
    have hclaims := claims_set hself.claims claimId hreserved id
    rwa [Mapping.set_get_self] at hclaims
  | @releaseReservedPayout claimId replicationId logs _ _ _ hamount hreleased hcancelled _ hreserved
      hbounty hether =>
    -- The bounty and what is reserved of it fall by the same amount.
    have hbounties := self.bountyBalances.total_set_sub hbounty
    have hreserved := (hself.claims claimId).reserved_le
    exact ⟨by simp only; omega, claims_set hself.claims claimId ((hself.claims claimId).close
      (v := { self.reservations claimId replicationId with released := true })
      hamount hreleased hcancelled rfl (.inl ⟨rfl, hcancelled⟩)
      (self.bountyBalances claimId - (self.reservations claimId replicationId).amount)
      (by omega))⟩
  | @cancelReservedPayout claimId replicationId logs _ _ hamount hreleased hcancelled =>
    -- The bounty stays, and more of it is free.
    have hreserved := (hself.claims claimId).reserved_le
    refine ⟨hbalance, fun id => ?_⟩
    have hclaims := claims_set hself.claims claimId ((hself.claims claimId).close
      (v := { self.reservations claimId replicationId with cancelled := true })
      hamount hreleased hcancelled rfl (.inr ⟨hreleased, rfl⟩) (self.bountyBalances claimId)
      (by omega)) id
    rwa [Mapping.set_get_self] at hclaims
  | slashAuthorBond _ _ _ _ hbond hether =>
    have hbonds := self.authorBondBalances.total_set_sub hbond
    exact ⟨by simp only; omega, hself.claims⟩
  | @refundAuthorBond claimId amount author logs _ _ _ _ _ hbond =>
    have hbonds := self.authorBondBalances.total_set_sub hbond
    have hcredits := self.authorRefundCredits.total_set_add author amount
    exact ⟨by simp only; omega, hself.claims⟩
  | withdrawAuthorBondRefund _ _ _ _ hcredit hether =>
    have hcredits := self.authorRefundCredits.total_set_sub hcredit
    exact ⟨by simp only; omega, hself.claims⟩

/-! ### Nothing panics -/

/-- What the escrow holds bounds each of its ledgers. -/
theorem Conserved.ledger_le (h : self.Conserved) (claimId : ℕ) (account : Address) :
    self.authorBondBalances claimId + self.authorRefundCredits account +
      self.bountyBalances claimId ≤ self.balance := by
  -- One entry is at most its ledger, and the three ledgers together are the balance.
  have hbond := self.authorBondBalances.le_total (w := id) rfl claimId
  have hcredit := self.authorRefundCredits.le_total (w := id) rfl account
  have hbounty := self.bountyBalances.le_total (w := id) rfl claimId
  have hbalance := h.balance_eq
  simp only [id] at hbond hcredit hbounty
  omega

@[simp] theorem noPanic_safeTransferValue {recipient : Address} {amount : ℕ} {p : Pending} :
    NoPanic (self.safeTransferValue ctx recipient amount p) := by
  simp [safeTransferValue, noPanic_bind]

@[simp] theorem noPanic_requireLiveReservation {claimId replicationId : ℕ} :
    NoPanic (self.requireLiveReservation claimId replicationId) := by
  simp [requireLiveReservation, noPanic_bind]

@[simp] theorem noPanic_getClaimAuthor {claimId : ℕ} :
    NoPanic (claimRegistry.getClaimAuthor claimId) := by
  simp [ClaimRegistry.getClaimAuthor, ClaimRegistry.requireExistingClaim, noPanic_bind]

theorem noPanic_depositAuthorBond {claimId : ℕ}
    (hroom : self.authorBondBalances claimId + ctx.value < uint256Size) :
    NoPanic (self.depositAuthorBond ctx claimRegistry claimId) := by
  simp [depositAuthorBond, noPanic_bind, noPanic_checkedAdd hroom]

theorem noPanic_fundReplicationBounty {claimId : ℕ}
    (hroom : self.bountyBalances claimId + ctx.value < uint256Size) :
    NoPanic (self.fundReplicationBounty ctx claimRegistry claimId) := by
  simp [fundReplicationBounty, noPanic_bind, noPanic_checkedAdd hroom]

theorem noPanic_reserveBountyPayout {claimId replicationId amount : ℕ}
    (hle : self.reservedBountyBalances claimId ≤ self.bountyBalances claimId)
    (hroom : self.bountyBalances claimId < uint256Size) :
    NoPanic (self.reserveBountyPayout ctx claimRegistry replicationRegistry claimId replicationId
      amount) := by
  simp only [reserveBountyPayout, requireValidRecipient, noPanic_bind, Ctx.noPanic_onlyRole,
    noPanic_revertIf, noPanic_checkedSub hle, checkedSub_eq_ok, revertIf_eq_ok, pure_eq_ok,
    noPanic_ok, true_and, and_true, implies_true]
  rintro - - - - - - - - - - - - - - _ ⟨-, rfl⟩ - havailable
  exact noPanic_checkedAdd (by omega)

theorem noPanic_releaseReservedPayout {claimId replicationId : ℕ}
    (hreserved : ClaimReserved (self.reservedBountyBalances claimId) (self.bountyBalances claimId)
      (self.reservations claimId)) :
    NoPanic (self.releaseReservedPayout ctx replicationRegistry claimId replicationId) := by
  simp only [releaseReservedPayout, noPanic_bind, Ctx.noPanic_onlyRole, noPanic_nonReentrant,
    noPanic_requireLiveReservation, requireLiveReservation_eq_ok, noPanic_revertIf,
    noPanic_safeTransferValue, implies_true, and_true, true_and]
  rintro - - - - reservation ⟨-, hreleased, hcancelled, rfl⟩ - -
  have hle := hreserved.amount_le hreleased hcancelled
  exact ⟨noPanic_checkedSub hle, fun _ _ => noPanic_checkedSub (hle.trans hreserved.reserved_le)⟩

theorem noPanic_cancelReservedPayout {claimId replicationId : ℕ}
    (hreserved : ClaimReserved (self.reservedBountyBalances claimId) (self.bountyBalances claimId)
      (self.reservations claimId)) :
    NoPanic (self.cancelReservedPayout ctx claimId replicationId) := by
  simp only [cancelReservedPayout, noPanic_bind, Ctx.noPanic_onlyRole,
    noPanic_requireLiveReservation, requireLiveReservation_eq_ok, pure_eq_ok, noPanic_ok,
    implies_true, and_true, true_and]
  rintro - - reservation ⟨-, hreleased, hcancelled, rfl⟩
  exact noPanic_checkedSub (hreserved.amount_le hreleased hcancelled)

theorem noPanic_slashAuthorBond {claimId amount : ℕ} :
    NoPanic (self.slashAuthorBond ctx claimId amount) := by
  simp only [slashAuthorBond, noPanic_bind, Ctx.noPanic_onlyRole, noPanic_nonReentrant,
    noPanic_revertIf, revertIf_eq_ok, noPanic_safeTransferValue, implies_true, and_true, true_and]
  rintro - - - - - - - havailable
  exact noPanic_checkedSub (Nat.not_lt.mp havailable)

theorem noPanic_refundAuthorBond {claimId amount : ℕ}
    (hroom : ∀ author, self.authorBondBalances claimId + self.authorRefundCredits author <
      uint256Size) :
    NoPanic (self.refundAuthorBond ctx claimRegistry claimId amount) := by
  simp only [refundAuthorBond, noPanic_bind, Ctx.noPanic_onlyRole, noPanic_revertIf, revertIf_eq_ok,
    noPanic_getClaimAuthor, pure_eq_ok, noPanic_ok, implies_true, and_true, true_and]
  rintro - - - - author - - havailable
  have hroom := hroom author
  exact ⟨noPanic_checkedSub (Nat.not_lt.mp havailable), fun _ _ => noPanic_checkedAdd (by omega)⟩

theorem noPanic_withdrawAuthorBondRefund {amount : ℕ} {recipient : Address} :
    NoPanic (self.withdrawAuthorBondRefund ctx amount recipient) := by
  simp only [withdrawAuthorBondRefund, requireValidRecipient, noPanic_bind, noPanic_nonReentrant,
    noPanic_revertIf, revertIf_eq_ok, noPanic_safeTransferValue, implies_true, and_true, true_and]
  rintro - - - - - - - havailable
  exact noPanic_checkedSub (Nat.not_lt.mp havailable)

/-- **No call of a conserving escrow panics**, neither in a subtraction nor in an
addition. -/
theorem Conserved.noPanic_exec (h : self.Conserved) (call : Call) :
    NoPanic (self.exec ctx claimRegistry replicationRegistry call) := by
  simp only [exec, noPanic_bind, Ctx.noPanic_receiveValue, Ctx.receiveValue_eq_ok, true_and]
  rintro _ ⟨-, hroom, rfl⟩
  cases call with
  | depositAuthorBond claimId =>
    have hledger := h.ledger_le claimId 0
    exact NoPanic.map (noPanic_depositAuthorBond (by simp only; omega)) _
  | fundReplicationBounty claimId =>
    have hledger := h.ledger_le claimId 0
    exact NoPanic.map (noPanic_fundReplicationBounty (by simp only; omega)) _
  | reserveBountyPayout claimId replicationId amount =>
    have hledger := h.ledger_le claimId 0
    refine NoPanic.map (noPanic_reserveBountyPayout ?_ ?_) _
    · exact (h.claims claimId).reserved_le
    · simp only
      omega
  | releaseReservedPayout claimId replicationId =>
    exact noPanic_releaseReservedPayout (h.claims claimId)
  | cancelReservedPayout claimId replicationId =>
    refine NoPanic.map (noPanic_cancelReservedPayout ?_) _
    exact h.claims claimId
  | slashAuthorBond claimId amount => exact noPanic_slashAuthorBond
  | refundAuthorBond claimId amount =>
    refine NoPanic.map (noPanic_refundAuthorBond fun author => ?_) _
    have hledger := h.ledger_le claimId author
    simp only
    omega
  | withdrawAuthorBondRefund amount recipient => exact noPanic_withdrawAuthorBondRefund
  | setDepositsPaused paused =>
    exact NoPanic.map (by simp [setDepositsPaused, noPanic_bind]) _

end

/-! ### A reservation ends once -/

/-- The reservation is released or cancelled. -/
def reservationOver (claimId r : ℕ) (s : BondEscrow) : Bool :=
  (s.reservations claimId r).released || (s.reservations claimId r).cancelled

/-- **No call changes a reservation that is over.** -/
theorem Step.reservation_kept {ctx : Ctx} {claimRegistry : ClaimRegistry}
    {replicationRegistry : ReplicationRegistry} {self s : BondEscrow} {call : Call}
    (h : Step ctx claimRegistry replicationRegistry self call s) (hself : self.Conserved)
    {claimId r : ℕ} (hover : reservationOver claimId r self = true) :
    s.reservations claimId r = self.reservations claimId r := by
  have hkept : ∀ {claimId' r' : ℕ} {v : BountyReservation},
      reservationOver claimId' r' self = false →
      self.setReservation claimId' r' v claimId r = self.reservations claimId r := by
    intro claimId' r' v hlive
    simp only [setReservation, Mapping.set_apply]
    split
    next hclaim =>
      subst hclaim
      refine Mapping.set_of_ne _ (fun hr => ?_) _
      subst hr
      exact Bool.false_ne_true (hlive.symm.trans hover)
    next => rfl
  cases h with
  | depositAuthorBond | fundReplicationBounty | slashAuthorBond | refundAuthorBond
  | withdrawAuthorBondRefund | setDepositsPaused => rfl
  | @reserveBountyPayout claimId' r' _ _ _ _ _ _ _ _ _ hfresh =>
    -- A slot that is over has an amount, so no reservation is written there again.
    refine hkept ?_
    rw [reservationOver, (hself.claims claimId').unreserved r' hfresh]
    rfl
  | releaseReservedPayout _ _ _ _ hreleased hcancelled
  | cancelReservedPayout _ _ _ hreleased hcancelled =>
    exact hkept (by rw [reservationOver, hreleased, hcancelled]; rfl)

end BondEscrow

/-! ### Every observable moment -/

section

variable {D : Deployment} {c : Config World Suspended} {tr : List ProtocolEvent}

theorem BondEscrow.conserved_of_reachable (h : (protocol D).Reachable c) :
    c.world.bondEscrow.Conserved := by
  refine h.invariant (I := fun w => w.bondEscrow.Conserved) ?_ fun {c a w'} _ hc heffect => ?_
  · rintro _ ⟨now, hasRole, -, -, rfl⟩
    exact conserved_deployed
  · rcases (World.step_of_effect heffect).bondEscrow_cases with
      heq | ⟨m, call, -, -, hcall⟩ | ⟨p, -, heq⟩
    · rw [heq]
      exact hc
    · exact hcall.conserved hc
    · rw [heq]
      exact ⟨hc.balance_eq, hc.claims⟩

/-- A reservation that is over stays as it is, from every step of a history to its
end. -/
theorem BondEscrow.reservation_kept_of_run (h : (protocol D).Run tr c) (claimId r : ℕ) :
    ∀ e ∈ tr, reservationOver claimId r e.after.bondEscrow = true →
      c.world.bondEscrow.reservations claimId r = e.after.bondEscrow.reservations claimId r := by
  refine fun e he => (h.event_relation (R := fun w w' =>
    reservationOver claimId r w.bondEscrow = true →
      w'.bondEscrow.reservations claimId r = w.bondEscrow.reservations claimId r)
    (fun _ _ => rfl) (fun h₁₂ h₂₃ hover => ?_) (fun {tr c a w'} hrun heffect hover => ?_) e he).2
  · have heq := h₁₂ hover
    refine (h₂₃ ?_).trans heq
    rw [reservationOver, heq]
    exact hover
  · rcases (World.step_of_effect heffect).bondEscrow_cases with
      heq | ⟨m, call, -, -, hcall⟩ | ⟨p, -, heq⟩
    · rw [heq]
    · exact hcall.reservation_kept (BondEscrow.conserved_of_reachable hrun.reachable) hover
    · rw [heq]
      rfl

/-- **What a history tells of the escrow**, up to the world `w` it has reached. -/
structure EscrowSound (D : Deployment) (tr : List ProtocolEvent) (w : World) : Prop where
  /-- The balance is the sum of the three ledgers. -/
  balance_eq : w.bondEscrow.balance = w.bondEscrow.authorBondBalances.total id +
    w.bondEscrow.authorRefundCredits.total id + w.bondEscrow.bountyBalances.total id
  /-- What a claim has reserved is the sum of its live reservations, and at most its
  bounty. -/
  reserved_eq : ∀ claimId, w.bondEscrow.reservedBountyBalances claimId =
    (w.bondEscrow.reservations claimId).total liveAmount
  reserved_le : ∀ claimId, w.bondEscrow.reservedBountyBalances claimId ≤
    w.bondEscrow.bountyBalances claimId
  /-- A reservation is not released and cancelled both, -/
  exclusive : ∀ claimId r, ¬((w.bondEscrow.reservations claimId r).released = true ∧
    (w.bondEscrow.reservations claimId r).cancelled = true)
  /-- and once it is either, it stays as it is. -/
  terminal : ∀ claimId r, ∀ e ∈ tr,
    ((e.after.bondEscrow.reservations claimId r).released = true ∨
      (e.after.bondEscrow.reservations claimId r).cancelled = true) →
    w.bondEscrow.reservations claimId r = e.after.bondEscrow.reservations claimId r
  /-- No call anybody could make now panics. -/
  noPanic : ∀ (m : Message) (call : BondEscrow.Call),
    NoPanic (w.bondEscrow.exec (w.context D m) w.claimRegistry w.replicationRegistry call)

/-- **The escrow is sound in every history**, also while a recipient runs. -/
theorem escrow_sound (h : (protocol D).Run tr c) : EscrowSound D tr c.world where
  balance_eq := (BondEscrow.conserved_of_reachable h.reachable).balance_eq
  reserved_eq claimId :=
    ((BondEscrow.conserved_of_reachable h.reachable).claims claimId).reserved_eq
  reserved_le claimId :=
    ((BondEscrow.conserved_of_reachable h.reachable).claims claimId).reserved_le
  exclusive claimId := ((BondEscrow.conserved_of_reachable h.reachable).claims claimId).exclusive
  terminal claimId r e he hover := BondEscrow.reservation_kept_of_run h claimId r e he
    ((Bool.or_eq_true _ _).mpr hover)
  noPanic _ call := (BondEscrow.conserved_of_reachable h.reachable).noPanic_exec call

/-- A history that stops inside a release: the replicator of a resolved replication has
been paid, and while it runs the resolver reserves and cancels on another one. -/
def reentrantRelease : List (Move Message) :=
  opening ++
  [send 0xAA 5 (.bondEscrow (.depositAuthorBond 1)),
    send 0xDD 30 (.bondEscrow (.fundReplicationBounty 1)),
    send 0xBB 0 (.replicationRegistry (.submitReplication 1 1 2 3 0)),
    send 0xBD 0 (.replicationRegistry (.submitReplication 1 1 2 3 0)),
    send 0x0A 0 (.replicationRegistry (.resolveReplicationOutcome 1 (devnetResult .supported))),
    send 0x0A 0 (.bondEscrow (.reserveBountyPayout 1 1 12)),
    send 0x0A 0 (.bondEscrow (.reserveBountyPayout 1 2 10)),
    send 0x0A 0 (.bondEscrow (.releaseReservedPayout 1 1)),
    send 0x0A 0 (.bondEscrow (.cancelReservedPayout 1 2)),
    send 0x0A 0 (.bondEscrow (.refundAuthorBond 1 4))]

theorem playDevnet_reentrantRelease : (playDevnet reentrantRelease).isSome := by
  decide

/-- While that replicator runs, nothing is reserved any more. -/
theorem escrow_sound_reentrantRelease :
    ((((playDevnet reentrantRelease).get
      playDevnet_reentrantRelease).2.world.bondEscrow.reservations 1).total liveAmount) = 0 :=
  ((escrow_sound (run_playDevnet playDevnet_reentrantRelease)).reserved_eq 1).symm.trans
    (by decide)

end

end ScientificProtocol
