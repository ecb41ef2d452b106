import ScientificProtocol.Claims.History
import ScientificProtocol.Escrow.Conservation
import ScientificProtocol.Market.Settlement

/-!
# A replication is paid at most once

Reservations are kept for pairs of a claim and a replication, and a bounty is released from
one of them; nothing in the escrow itself says that a replication has only one. What says
it is the other registry. A reservation is made for the claim the replication belongs to,
with the submitter of the replication as its recipient
(`ScientificProtocol.ReservationsBound`), and neither the claim nor the submitter of a
replication ever changes (`ScientificProtocol.ReplicationKept`). So all the pairs of one
replication a bounty can be released from are one pair, and that one is released once.

The switch that blocks a second release is set before the recipient runs, which is why a
re-entrant release finds it set.
-/

namespace ScientificProtocol

open Evm

/-! ### Replications keep their claim and their submitter -/

/-- A replication keeps its submitter and its claim, and everything once it is resolved. -/
abbrev ReplicationKept : ReplicationRecord → ReplicationRecord → Prop :=
  RecordKept (·.resolvedAt ≠ 0) ReplicationRecord.replicationId ReplicationRecord.replicator
    ReplicationRecord.claimId

theorem ReplicationRegistry.Step.replicationKept {ctx : Ctx} {claimRegistry : ClaimRegistry}
    {agentRegistry : AgentRegistry} {self s : ReplicationRegistry} {call : Call}
    (h : Step ctx claimRegistry agentRegistry self call s) (hself : self.Indexed) (r : ℕ) :
    ReplicationKept (self.replications r) (s.replications r) := by
  refine ⟨h.frozen hself, fun hexists => ?_⟩
  cases h with
  | submitReplication =>
    have hne : r ≠ self.nextReplicationId := (hself.replications.lt_next rfl hexists).ne
    simp only [Mapping.set_of_ne _ hne]
    exact ⟨hexists, trivial, trivial⟩
  | @resolveReplicationOutcome replicationId =>
    by_cases hr : r = replicationId
    · subst hr
      simp only [Mapping.set_self, resolved]
      exact ⟨hexists, trivial, trivial⟩
    · simp only [Mapping.set_of_ne _ hr]
      exact ⟨hexists, trivial, trivial⟩

section

variable {D : Deployment} {a : Action Message Suspended} {c : Config World Suspended}
  {tr : List ProtocolEvent} {w' : World}

theorem replicationKept_of_effect (hr : (protocol D).Reachable c)
    (heffect : (protocol D).Effect a c.world w') (r : ℕ) :
    ReplicationKept (c.world.replicationRegistry.replications r)
      (w'.replicationRegistry.replications r) := by
  rcases (World.step_of_effect heffect).replicationRegistry_cases with
    heq | ⟨m, call, -, -, hstep⟩
  · rw [heq]
    exact .refl _
  · exact hstep.replicationKept (registries_indexed hr).2 r

theorem replicationKept_of_run (h : (protocol D).Run tr c) (r : ℕ) :
    ∀ e ∈ tr, ReplicationKept (e.before.replicationRegistry.replications r)
      (c.world.replicationRegistry.replications r) := fun e he =>
  (h.event_relation (R := fun w w' => ReplicationKept (w.replicationRegistry.replications r)
    (w'.replicationRegistry.replications r)) (fun _ => .refl _) .trans
    (fun hrun heffect => replicationKept_of_effect hrun.reachable heffect r) e he).1

/-- The step submits the replication numbered `r`, for this claim and by this account. -/
def Submits (r : ℕ) (claimId : ℕ) (replicator : Address) (e : ProtocolEvent) : Prop :=
  ∃ m environmentHash resultHash evidenceHash agentId,
    e.action = .exec m ∧ m.sender = replicator ∧
      m.target = .replicationRegistry
        (.submitReplication claimId environmentHash resultHash evidenceHash agentId) ∧
      (e.before.replicationRegistry.replications r).replicationId = 0 ∧
      (e.after.replicationRegistry.replications r).replicationId ≠ 0

/-- **A replication was submitted**, for the claim and by the account it names. -/
theorem exists_submits (h : (protocol D).Run tr c) (r : ℕ)
    (hexists : (c.world.replicationRegistry.replications r).replicationId ≠ 0) :
    ∃ e ∈ tr, Submits r (c.world.replicationRegistry.replications r).claimId
      (c.world.replicationRegistry.replications r).replicator e := by
  revert hexists
  refine h.history (Q := fun tr w => (w.replicationRegistry.replications r).replicationId ≠ 0 →
    ∃ e ∈ tr, Submits r (w.replicationRegistry.replications r).claimId
      (w.replicationRegistry.replications r).replicator e) ?_ ?_
  · rintro _ ⟨now, hasRole, -, -, rfl⟩ hexists
    exact absurd rfl hexists
  · intro tr c a w' hrun ih heffect hexists
    by_cases hold : (c.world.replicationRegistry.replications r).replicationId = 0
    -- A slot that was blank is filled by a submission, whose record names its sender.
    · refine ⟨_, List.mem_append_right tr (List.mem_singleton_self _), ?_⟩
      rcases (World.step_of_effect heffect).replicationRegistry_cases with
        heq | ⟨m, call, rfl, htarget, hstep⟩
      · exact absurd hold (heq ▸ hexists)
      · generalize hs : w'.replicationRegistry = s at hstep hexists
        cases hstep with
        | @submitReplication claimId environmentHash resultHash evidenceHash agentId =>
          by_cases hr : r = c.world.replicationRegistry.nextReplicationId
          · subst hr
            refine ⟨m, environmentHash, resultHash, evidenceHash, agentId, rfl, ?_, ?_, hold,
              by rwa [hs]⟩
            · simp only [Mapping.set_self, ReplicationRegistry.submitted]
              rfl
            · simpa only [Mapping.set_self, ReplicationRegistry.submitted] using htarget
          · simp only [Mapping.set_of_ne _ hr] at hexists
            exact absurd hold hexists
        | @resolveReplicationOutcome replicationId _ _ _ hexists' =>
          have hne : r ≠ replicationId := fun heq => hexists' (heq ▸ hold)
          simp only [Mapping.set_of_ne _ hne] at hexists
          exact absurd hold hexists
    · obtain ⟨e, he, hsubmits⟩ := ih hold
      obtain ⟨-, howner, hclaim⟩ := (replicationKept_of_effect hrun.reachable heffect r).2 hold
      refine ⟨e, List.mem_append_left _ he, ?_⟩
      rwa [howner, hclaim] at hsubmits

end

/-! ### What a release sends -/

/-- The call of the escrow a step runs, if it runs one. -/
def escrowCall : Action Message Suspended → Option BondEscrow.Call
  | .exec m => match m.target with
    | .bondEscrow call => some call
    | _ => none
  | _ => none

namespace BondEscrow

/-- The call pays a bounty for the replication, from whichever claim it names. -/
def Call.paysFor (r : ℕ) : Call → Bool
  | .releaseReservedPayout _ replicationId => decide (replicationId = r)
  | _ => false

theorem Call.paysFor_eq_true {r : ℕ} {call : Call} :
    call.paysFor r = true ↔ ∃ claimId, call = .releaseReservedPayout claimId r := by
  cases call <;> simp [Call.paysFor]

/-- The call pays a bounty for the pair. -/
def Call.releases (claimId r : ℕ) : Call → Bool
  | .releaseReservedPayout id replicationId => decide (id = claimId ∧ replicationId = r)
  | _ => false

/-- The reservation is released. -/
def reservationReleased (claimId r : ℕ) (s : BondEscrow) : Bool :=
  (s.reservations claimId r).released

section

variable {ctx : Ctx} {claimRegistry : ClaimRegistry} {replicationRegistry : ReplicationRegistry}
  {self s : BondEscrow} {call : Call}

/-- A release sends the amount of the reservation to its recipient. -/
theorem sent_of_releaseReservedPayout {claimId r : ℕ} {o : Outcome BondEscrow Pending}
    (h : self.exec ctx claimRegistry replicationRegistry (.releaseReservedPayout claimId r) =
      .ok o) :
    o.sent = some ((self.reservations claimId r).recipient,
      (self.reservations claimId r).amount) := by
  simp only [exec, bind_eq_ok] at h
  obtain ⟨balance, -, h⟩ := h
  simp only [releaseReservedPayout, bind_eq_ok, requireLiveReservation_eq_ok,
    safeTransferValue_eq_ok] at h
  obtain ⟨-, -, -, -, reservation, ⟨-, -, -, rfl⟩, -, -, reserved, -, bounty, -, -, rfl⟩ :=
    h
  rfl

/-- **What a release does to the ledgers**, with what it found. -/
theorem Step.release {claimId r : ℕ}
    (h : Step ctx claimRegistry replicationRegistry self (.releaseReservedPayout claimId r) s) :
    (self.reservations claimId r).amount ≠ 0 ∧
      (self.reservations claimId r).cancelled = false ∧
      (replicationRegistry.replications r).resolvedAt ≠ 0 ∧
      (self.reservations claimId r).amount ≤ self.bountyBalances claimId ∧
      s.bountyBalances = self.bountyBalances.set claimId
        (self.bountyBalances claimId - (self.reservations claimId r).amount) ∧
      s.authorBondBalances = self.authorBondBalances ∧
      s.authorRefundCredits = self.authorRefundCredits := by
  cases h with
  | releaseReservedPayout _ _ _ hamount _ hcancelled hresolved _ hbounty =>
    exact ⟨hamount, hcancelled, of_decide_eq_true hresolved, hbounty, rfl, rfl, rfl⟩

/-- Overwriting one reservation, read at another pair or at the pair itself. -/
theorem setReservation_apply (claimId r : ℕ) (v : BountyReservation) (claimId' r' : ℕ) :
    self.setReservation claimId r v claimId' r' =
      if claimId' = claimId ∧ r' = r then v else self.reservations claimId' r' := by
  simp only [setReservation, Mapping.set_apply]
  by_cases hclaim : claimId' = claimId
  · subst hclaim
    simp [Mapping.set_apply]
  · simp [hclaim]

/-- **Where a reservation comes from**: it was there, or it was made for a replication of
the claim and in the name of its submitter. -/
theorem Step.reservation_origin (h : Step ctx claimRegistry replicationRegistry self call s)
    (claimId r : ℕ) :
    ((s.reservations claimId r).amount = (self.reservations claimId r).amount ∧
        (s.reservations claimId r).recipient = (self.reservations claimId r).recipient) ∨
      ((replicationRegistry.replications r).replicationId ≠ 0 ∧
        (replicationRegistry.replications r).claimId = claimId ∧
        (replicationRegistry.replications r).replicator =
          (s.reservations claimId r).recipient) := by
  cases h with
  | depositAuthorBond | fundReplicationBounty | slashAuthorBond | refundAuthorBond
  | withdrawAuthorBondRefund | setDepositsPaused => exact .inl ⟨rfl, rfl⟩
  | @reserveBountyPayout claimId' r' amount _ _ _ _ _ hexists hmatch =>
    by_cases hpair : claimId = claimId' ∧ r = r'
    · obtain ⟨rfl, rfl⟩ := hpair
      refine .inr ⟨of_decide_eq_true hexists, hmatch, ?_⟩
      rw [setReservation_apply, if_pos ⟨rfl, rfl⟩]
      rfl
    · refine .inl ?_
      rw [setReservation_apply, if_neg hpair]
      exact ⟨rfl, rfl⟩
  -- A reservation that ends keeps its recipient and its amount.
  | @releaseReservedPayout claimId' r' | @cancelReservedPayout claimId' r' =>
    refine .inl ?_
    simp only [setReservation_apply]
    split
    next hpair =>
      obtain ⟨rfl, rfl⟩ := hpair
      exact ⟨rfl, rfl⟩
    next => exact ⟨rfl, rfl⟩

/-- **Only a release sets the switch.** -/
theorem Step.reservationReleased_eq
    (h : Step ctx claimRegistry replicationRegistry self call s) (claimId r : ℕ) :
    s.reservationReleased claimId r =
      (self.reservationReleased claimId r || call.releases claimId r) := by
  cases h with
  | depositAuthorBond | fundReplicationBounty | slashAuthorBond | refundAuthorBond
  | withdrawAuthorBondRefund | setDepositsPaused =>
    simp [reservationReleased, Call.releases]
  | reserveBountyPayout | releaseReservedPayout | cancelReservedPayout =>
    simp only [reservationReleased, Call.releases, setReservation_apply]
    split
    next hpair =>
      obtain ⟨rfl, rfl⟩ := hpair
      simp
    next hpair => simp [eq_comm, hpair]

/-- A release finds the switch off. -/
theorem Step.not_released_of_releases
    (h : Step ctx claimRegistry replicationRegistry self call s) {claimId r : ℕ}
    (hcall : call.releases claimId r = true) : self.reservationReleased claimId r = false := by
  cases h with
  | releaseReservedPayout _ _ _ _ hreleased =>
    obtain ⟨rfl, rfl⟩ := of_decide_eq_true hcall
    exact hreleased
  | _ => exact absurd hcall Bool.false_ne_true

/-- A bounty falls only in a release. -/
theorem Step.bounty_le (h : Step ctx claimRegistry replicationRegistry self call s)
    (hother : ∀ r, call.paysFor r = false) (claimId : ℕ) :
    self.bountyBalances claimId ≤ s.bountyBalances claimId := by
  cases h with
  | @releaseReservedPayout _ r => exact absurd (hother r) (by simp [Call.paysFor])
  | @fundReplicationBounty claimId' =>
    simp only [Mapping.set_apply]
    split
    next hclaim =>
      subst hclaim
      exact Nat.le_add_right _ _
    next => exact le_rfl
  | _ => exact le_rfl

end

end BondEscrow

/-- **What a call of the escrow does in a step of the protocol**: nothing outside the
escrow. -/
theorem World.Step.bondEscrow_of_call {D : Deployment} {a : Action Message Suspended}
    {w w' : World} {call : BondEscrow.Call} (h : World.Step D a w w')
    (hcall : escrowCall a = some call) :
    ∃ m o, a = .exec m ∧ World.sent D a w = o.sent ∧
      w.bondEscrow.exec (w.context D m) w.claimRegistry w.replicationRegistry call = .ok o ∧
      w' = { w with bondEscrow := o.state } := by
  cases h with
  | @bondEscrow w m call' o htarget hexec =>
    obtain rfl : call' = call := by simpa [escrowCall, htarget] using hcall
    refine ⟨m, o, rfl, ?_, hexec, rfl⟩
    have hworld : World.exec D m w = .ok (o.map (fun s => { w with bondEscrow := s })
        .bondEscrow) := by
      simp only [World.exec, htarget, hexec, map_ok]
    rw [World.sent_of_exec hworld, Outcome.sent_map]
  | foreign | tick | resume => exact absurd hcall (by simp [escrowCall])
  | accessController htarget | protocolParameters htarget | resolutionModuleRegistry htarget
  | claimRegistry htarget | replicationRegistry htarget | agentRegistry htarget
  | appealsRegistry htarget | epistemicMarket htarget | claimRewardVault htarget
  | artifactRegistry htarget | reputationCheckpointRegistry htarget =>
    exact absurd hcall (by simp [escrowCall, htarget])

/-- A step of the protocol that runs no call of the escrow leaves its ledgers and its
reservations alone. -/
theorem World.Step.bondEscrow_cases_call {D : Deployment} {a : Action Message Suspended}
    {w w' : World} (h : World.Step D a w w') :
    (escrowCall a = none ∧ w'.bondEscrow.reservations = w.bondEscrow.reservations ∧
        w'.bondEscrow.bountyBalances = w.bondEscrow.bountyBalances) ∨
      ∃ m call, escrowCall a = some call ∧
        BondEscrow.Step (w.context D m) w.claimRegistry w.replicationRegistry w.bondEscrow call
          w'.bondEscrow := by
  rcases hcall : escrowCall a with _ | call
  · refine .inl ⟨rfl, ?_⟩
    rcases h.bondEscrow_cases with heq | ⟨m, call, rfl, htarget, -⟩ | ⟨p, -, heq⟩
    · rw [heq]
      exact ⟨rfl, rfl⟩
    · simp [escrowCall, htarget] at hcall
    · rw [heq]
      exact ⟨rfl, rfl⟩
  · obtain ⟨m, o, -, -, hexec, rfl⟩ := h.bondEscrow_of_call hcall
    exact .inr ⟨m, call, rfl, BondEscrow.step_of_exec hexec⟩

section

variable {D : Deployment} {a : Action Message Suspended} {c : Config World Suspended}
  {tr : List ProtocolEvent} {w' : World}

/-- **Every reservation is for a replication of its claim**, in the name of its
submitter. -/
def ReservationsBound (w : World) : Prop :=
  ∀ claimId r, (w.bondEscrow.reservations claimId r).amount ≠ 0 →
    (w.replicationRegistry.replications r).replicationId ≠ 0 ∧
      (w.replicationRegistry.replications r).claimId = claimId ∧
      (w.replicationRegistry.replications r).replicator =
        (w.bondEscrow.reservations claimId r).recipient

theorem reservationsBound_of_reachable (h : (protocol D).Reachable c) :
    ReservationsBound c.world := by
  refine h.invariant ?_ fun {c a w'} hr ih heffect claimId r hamount => ?_
  · rintro _ ⟨now, hasRole, -, -, rfl⟩ claimId r hamount
    exact absurd rfl hamount
  -- What bound the reservation before the step binds it after: the replication is kept.
  · have hkept := (replicationKept_of_effect hr heffect r).2
    have hbefore : (c.world.replicationRegistry.replications r).replicationId ≠ 0 ∧
        (c.world.replicationRegistry.replications r).claimId = claimId ∧
        (c.world.replicationRegistry.replications r).replicator =
          (w'.bondEscrow.reservations claimId r).recipient := by
      rcases (World.step_of_effect heffect).bondEscrow_cases_call with
        ⟨-, heq, -⟩ | ⟨m, call, -, hstep⟩
      · rw [heq] at hamount ⊢
        exact ih claimId r hamount
      · rcases hstep.reservation_origin claimId r with ⟨hsame, hrecipient⟩ | horigin
        · rw [hsame] at hamount
          rw [hrecipient]
          exact ih claimId r hamount
        · exact horigin
    obtain ⟨hexists, hclaim, hreplicator⟩ := hbefore
    obtain ⟨hexists', howner, hstake⟩ := hkept hexists
    exact ⟨hexists', hstake ▸ hclaim, howner ▸ hreplicator⟩

/-- A reservation that is released or cancelled has an amount. -/
theorem amount_ne_zero_of_over (h : (protocol D).Reachable c) {claimId r : ℕ}
    (hover : BondEscrow.reservationOver claimId r c.world.bondEscrow = true) :
    (c.world.bondEscrow.reservations claimId r).amount ≠ 0 := fun hzero => by
  rw [BondEscrow.reservationOver,
    ((BondEscrow.conserved_of_reachable h).claims claimId).unreserved r hzero] at hover
  exact Bool.false_ne_true hover

theorem latched_reservationReleased (claimId r : ℕ) :
    (protocol D).Latched fun w => w.bondEscrow.reservationReleased claimId r := by
  refine ⟨?_, fun {tr c a w'} hrun heffect hreleased => ?_⟩
  · rintro _ ⟨now, hasRole, -, -, rfl⟩
    rfl
  · rcases (World.step_of_effect heffect).bondEscrow_cases_call with
      ⟨-, heq, -⟩ | ⟨m, call, -, hstep⟩
    · simp only [BondEscrow.reservationReleased, heq] at hreleased ⊢
      exact hreleased
    · simp only [hstep.reservationReleased_eq claimId r, hreleased, Bool.true_or]

/-- The step that raises the switch of a pair is the one that releases it. -/
theorem raises_reservationReleased (heffect : (protocol D).Effect a c.world w')
    (claimId r : ℕ) :
    Event.raises ⟨c.world, a, w'⟩ (fun w => w.bondEscrow.reservationReleased claimId r) =
      (escrowCall a).any (·.releases claimId r) := by
  rcases (World.step_of_effect heffect).bondEscrow_cases_call with
    ⟨hnone, heq, -⟩ | ⟨m, call, hcall, hstep⟩
  · simp [Event.raises, BondEscrow.reservationReleased, heq, hnone]
  · simp only [Event.raises, hcall, Option.any_some, hstep.reservationReleased_eq claimId r]
    rcases hreleases : call.releases claimId r with _ | _
    · simp
    · simp [hstep.not_released_of_releases hreleases]

/-- A call that pays for a replication releases the pair of its own claim. -/
theorem releases_of_paysFor (hr : (protocol D).Reachable c)
    (heffect : (protocol D).Effect a c.world w') {r : ℕ}
    (hpays : (escrowCall a).any (·.paysFor r) = true) :
    escrowCall a = some (.releaseReservedPayout
      (c.world.replicationRegistry.replications r).claimId r) := by
  obtain ⟨call, hcall, hpays⟩ := (Option.any_eq_true _ _).mp hpays
  obtain ⟨claimId, rfl⟩ := BondEscrow.Call.paysFor_eq_true.mp hpays
  obtain ⟨m, o, -, -, hexec, -⟩ := (World.step_of_effect heffect).bondEscrow_of_call hcall
  -- The reservation has an amount, so it is one of the replication's own claim.
  obtain ⟨hamount, -⟩ := (BondEscrow.step_of_exec hexec).release
  rw [hcall, (reservationsBound_of_reachable hr claimId r hamount).2.1]

/-! ### A bounty is paid once, and to whom it belongs -/

/-- The replication the step `e` pays for, as the step finds it. -/
def paidReplication (r : ℕ) (e : ProtocolEvent) : ReplicationRecord :=
  e.before.replicationRegistry.replications r

/-- What is reserved for it at its own claim. -/
def paidAmount (r : ℕ) (e : ProtocolEvent) : ℕ :=
  (e.before.bondEscrow.reservations (paidReplication r e).claimId r).amount

/-- **What a step that pays for a replication does**, after the history `past`. -/
structure PayoutEffect (D : Deployment) (past : List ProtocolEvent) (r : ℕ) (e : ProtocolEvent) :
    Prop where
  /-- It releases the reservation at the claim of the replication, -/
  own_claim : escrowCall e.action =
    some (.releaseReservedPayout (paidReplication r e).claimId r)
  /-- all of it and to the submitter, -/
  sent_eq : World.sent D e.action e.before =
    some ((paidReplication r e).replicator, paidAmount r e)
  /-- who did submit it for that claim, -/
  submitted : ∃ s ∈ past,
    Submits r (paidReplication r e).claimId (paidReplication r e).replicator s
  /-- out of the bounty of the claim -/
  amount_le : paidAmount r e ≤ e.before.bondEscrow.bountyBalances (paidReplication r e).claimId
  bounties_eq : e.after.bondEscrow.bountyBalances =
    e.before.bondEscrow.bountyBalances.set (paidReplication r e).claimId
      (e.before.bondEscrow.bountyBalances (paidReplication r e).claimId - paidAmount r e)
  /-- and out of nothing else. -/
  bonds_eq : e.after.bondEscrow.authorBondBalances = e.before.bondEscrow.authorBondBalances
  credits_eq : e.after.bondEscrow.authorRefundCredits = e.before.bondEscrow.authorRefundCredits
  /-- The replication is resolved by then, -/
  resolved : (paidReplication r e).resolvedAt ≠ 0
  /-- and no reservation for it was ever cancelled. -/
  not_cancelled : ∀ s ∈ past, ∀ claimId,
    (s.after.bondEscrow.reservations claimId r).cancelled = false

theorem payoutEffect {past : List ProtocolEvent} {e : ProtocolEvent}
    {fs : List (Frame World Suspended)} (hrun : (protocol D).Run past ⟨e.before, fs⟩)
    (heffect : (protocol D).Effect e.action e.before e.after) {r : ℕ}
    (hpays : (escrowCall e.action).any (·.paysFor r) = true) : PayoutEffect D past r e := by
  obtain ⟨w, a, w'⟩ := e
  have hcall := releases_of_paysFor (c := ⟨w, fs⟩) hrun.reachable heffect hpays
  obtain ⟨m, o, -, hsent, hexec, heq⟩ := (World.step_of_effect heffect).bondEscrow_of_call hcall
  obtain ⟨hamount, hcancelled, hresolved, hbounty, hbounties, hbonds, hcredits⟩ :=
    (BondEscrow.step_of_exec hexec).release
  obtain ⟨hexists, -, hreplicator⟩ := reservationsBound_of_reachable hrun.reachable _ r hamount
  simp only at heq
  subst heq
  refine ⟨hcall, ?_, exists_submits hrun r hexists, hbounty, hbounties, hbonds, hcredits,
    hresolved, fun s hs claimId => ?_⟩
  · rw [hsent, BondEscrow.sent_of_releaseReservedPayout hexec, ← hreplicator]
    rfl
  -- A reservation cancelled earlier is still there, so it is the one that is released.
  · by_contra hnot
    rw [Bool.not_eq_false] at hnot
    have hover : BondEscrow.reservationOver claimId r s.after.bondEscrow = true := by
      rw [BondEscrow.reservationOver, hnot, Bool.or_true]
    have hkept := BondEscrow.reservation_kept_of_run hrun claimId r s hs hover
    rw [← hkept] at hnot
    have hown := (reservationsBound_of_reachable hrun.reachable claimId r
      (amount_ne_zero_of_over hrun.reachable
        (by rw [BondEscrow.reservationOver, hnot, Bool.or_true]))).2.1
    subst hown
    exact Bool.false_ne_true (hcancelled.symm.trans hnot)

/-- **What a history tells of the bounties**, up to the world `w` it has reached. -/
structure PayoutsDisciplined (D : Deployment) (tr : List ProtocolEvent) (w : World) : Prop where
  /-- A replication is paid at most once, whichever claims the calls name. -/
  once : ∀ r, tr.countP (fun e => (escrowCall e.action).any (·.paysFor r)) ≤ 1
  /-- The step that pays for it does what it should, given what came before. -/
  effect : ∀ past e rest, tr = past ++ e :: rest → ∀ r,
    (escrowCall e.action).any (·.paysFor r) = true → PayoutEffect D past r e
  /-- Nothing else takes anything out of a bounty. -/
  only : ∀ e ∈ tr, (∀ r, (escrowCall e.action).any (·.paysFor r) = false) → ∀ claimId,
    e.before.bondEscrow.bountyBalances claimId ≤ e.after.bondEscrow.bountyBalances claimId
  /-- A pair that was cancelled cannot be reserved by anybody. -/
  cancelled_final : ∀ e ∈ tr, ∀ claimId r,
    (e.after.bondEscrow.reservations claimId r).cancelled = true → ∀ m amount,
    m.target = .bondEscrow (.reserveBountyPayout claimId r amount) →
    ∃ err, World.exec D m w = .error err

/-- Every payment for a replication is a release of the pair it is with its claim now. -/
theorem releases_of_mem (h : (protocol D).Run tr c) {e : ProtocolEvent} (he : e ∈ tr) {r : ℕ}
    (hpays : (escrowCall e.action).any (·.paysFor r) = true) :
    (escrowCall e.action).any
      (·.releases (c.world.replicationRegistry.replications r).claimId r) = true := by
  obtain ⟨heffect, tr', fs, hrun⟩ := h.event_effect e he
  have hcall := releases_of_paysFor (c := ⟨e.before, fs⟩) hrun.reachable heffect hpays
  obtain ⟨m, o, -, -, hexec, -⟩ := (World.step_of_effect heffect).bondEscrow_of_call hcall
  obtain ⟨hamount, -⟩ := (BondEscrow.step_of_exec hexec).release
  obtain ⟨hexists, -⟩ := reservationsBound_of_reachable hrun.reachable _ r hamount
  obtain ⟨-, -, hclaim⟩ := (replicationKept_of_run h r e he).2 hexists
  rw [hcall, ← hclaim]
  simp [BondEscrow.Call.releases]

/-- **Bounties are paid with discipline in every history**, also while a recipient runs. -/
theorem payouts_disciplined (h : (protocol D).Run tr c) : PayoutsDisciplined D tr c.world where
  once r := by
    have hraises := h.countP_raises (latched_reservationReleased
      (c.world.replicationRegistry.replications r).claimId r)
    calc tr.countP (fun e => (escrowCall e.action).any (·.paysFor r))
        ≤ tr.countP (·.raises fun w => w.bondEscrow.reservationReleased
            (c.world.replicationRegistry.replications r).claimId r) := by
          refine List.countP_mono_left fun e he hpays => ?_
          obtain ⟨heffect, tr', fs, hrun⟩ := h.event_effect e he
          exact (raises_reservationReleased (c := ⟨e.before, fs⟩) heffect _ r).trans
            (releases_of_mem h he hpays)
      _ ≤ 1 := by
          rw [hraises]
          split <;> omega
  effect past e rest htr r hpays := by
    subst htr
    obtain ⟨heffect, fs, hrun⟩ := h.split
    exact payoutEffect hrun heffect hpays
  only e he hother claimId := by
    obtain ⟨heffect, -⟩ := h.event_effect e he
    rcases (World.step_of_effect heffect).bondEscrow_cases_call with
      ⟨-, -, heq⟩ | ⟨m, call, hcall, hstep⟩
    · rw [heq]
    · exact hstep.bounty_le (fun r => by simpa [hcall] using hother r) claimId
  cancelled_final e he claimId r hcancelled m amount htarget := by
    rcases hexec : World.exec D m c.world with err | o
    · exact ⟨err, rfl⟩
    -- The amount of a cancelled reservation stays, and a new one asks for none.
    · have hover : BondEscrow.reservationOver claimId r e.after.bondEscrow = true := by
        rw [BondEscrow.reservationOver, hcancelled, Bool.or_true]
      have hkept := BondEscrow.reservation_kept_of_run h claimId r e he hover
      have hamount : (c.world.bondEscrow.reservations claimId r).amount ≠ 0 :=
        amount_ne_zero_of_over h.reachable
          (by rwa [BondEscrow.reservationOver, hkept, ← BondEscrow.reservationOver])
      have hreserve : escrowCall (.exec m) = some (.reserveBountyPayout claimId r amount) := by
        simp [escrowCall, htarget]
      obtain ⟨m', o', hm, -, hcall, -⟩ := (World.step_of_exec hexec).bondEscrow_of_call hreserve
      have hstep := BondEscrow.step_of_exec hcall
      generalize o'.state = s at hstep
      cases hstep with
      | reserveBountyPayout _ _ _ _ _ _ _ hfresh => exact absurd hfresh hamount

/-- In the history of `ScientificProtocol.reentrantRelease`, which stops while the replicator
runs, the resolved replication has been paid once. -/
theorem payouts_disciplined_reentrantRelease :
    ((playDevnet reentrantRelease).get playDevnet_reentrantRelease).1.countP
      (fun e => (escrowCall e.action).any (·.paysFor 1)) = 1 :=
  le_antisymm ((payouts_disciplined (run_playDevnet playDevnet_reentrantRelease)).once 1)
    (by decide)

end

end ScientificProtocol
