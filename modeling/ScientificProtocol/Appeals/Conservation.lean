import ScientificProtocol.Appeals.Step
import ScientificProtocol.Market.Settlement

/-!
# Appeal bonds are conserved and go one way

The ether of the appeals registry is the bonds of the appeals nobody has adjudicated and
the credits of the appellants. Adjudicating an appeal takes its bond out of the first part
once and for all, and the bond then goes one of two ways: out of the registry, to the
recipient of the deployment, or into the second part.

While the recipient of a forfeited bond runs, the appeal is adjudicated already. If that
recipient fails, so does the adjudication, and what comes back is the registry as it was
when the court called: a suspended adjudication stands on a world where its appeal is open
(`ScientificProtocol.AppealsSound.suspended`).
-/

namespace ScientificProtocol

open Evm

/-! ### Conservation -/

/-- What an appeal still binds of its bond. -/
def openBond (appeal : AppealRecord) : ℕ :=
  if appeal.adjudicatedAt = 0 then appeal.bondAmount else 0

/-- **What the registry holds** is the bonds of the open appeals and the credits. -/
structure BondsHeld (balance next : ℕ) (appeals : Mapping ℕ AppealRecord) (refundable : ℕ) :
    Prop where
  balance_eq : balance = appeals.total openBond + refundable
  numbered : Numbered AppealRecord.appealId next appeals

namespace BondsHeld

variable {balance balance' next id refundable refundable' : ℕ} {appeals : Mapping ℕ AppealRecord}
  {appeal : AppealRecord}

theorem empty : BondsHeld 0 1 default 0 where
  balance_eq := by rw [Mapping.total_default rfl]
  numbered := .empty

/-- Filing an appeal binds its bond. -/
theorem file (h : BondsHeld balance next appeals refundable) (hid : appeal.appealId = next)
    (hopen : appeal.adjudicatedAt = 0) {bond : ℕ} (hbond : appeal.bondAmount = bond) :
    BondsHeld (balance + bond) (next + 1) (appeals.set next appeal) refundable where
  balance_eq := by
    rw [Mapping.total_set_blank rfl h.numbered.blank_next, openBond, if_pos hopen, hbond,
      h.balance_eq]
    omega
  numbered := h.numbered.push hid

/-- **Adjudicating an appeal frees its bond**, and the bond goes out of the registry or to
the credits. -/
theorem adjudicate (h : BondsHeld balance next appeals refundable)
    (hexists : (appeals id).appealId ≠ 0) (hopen : (appeals id).adjudicatedAt = 0)
    (hover : appeal.adjudicatedAt ≠ 0) (hid : appeal.appealId = (appeals id).appealId)
    (hbalance : balance' + refundable + (appeals id).bondAmount = balance + refundable') :
    BondsHeld balance' next (appeals.set id appeal) refundable' where
  balance_eq := by
    have hfreed := appeals.total_set_weightless (w := openBond) rfl id (if_neg hover)
    rw [show openBond (appeals id) = (appeals id).bondAmount from if_pos hopen] at hfreed
    have hheld := h.balance_eq
    omega
  numbered := h.numbered.update rfl hexists hid

/-- Ether that leaves with a credit. -/
theorem withdraw (h : BondsHeld balance next appeals refundable)
    (hbalance : balance' + refundable = balance + refundable') :
    BondsHeld balance' next appeals refundable' where
  balance_eq := by
    have hheld := h.balance_eq
    omega
  numbered := h.numbered

end BondsHeld

namespace AppealsRegistry

/-- The registry owes what it holds. -/
def Conserved (s : AppealsRegistry) : Prop :=
  BondsHeld s.balance s.nextAppealId s.appeals (s.refundableBondBalances.total id)

theorem conserved_deployed : deployed.Conserved := by
  change BondsHeld 0 1 default ((default : Mapping Address ℕ).total id)
  rw [Mapping.total_default rfl]
  exact .empty

/-- The call adjudicates an appeal. -/
def Call.adjudicates (appealId : ℕ) : Call → Bool
  | .adjudicateAppeal id _ _ _ => decide (id = appealId)
  | _ => false

/-- What a call does to the appeal numbered `id`. -/
inductive AppealChange (call : Call) (id : ℕ) (appeal : AppealRecord) : AppealRecord → Prop
  | unchanged : call.adjudicates id = false → AppealChange call id appeal appeal
  | filed {appeal' : AppealRecord} : call.adjudicates id = false → appeal = default →
      appeal'.adjudicatedAt = 0 → AppealChange call id appeal appeal'
  | adjudicated {status : AppealStatus} {adjudicationHash : Bytes32} {adjudicationURI : String}
      {adjudicatedAt : ℕ} :
      call.adjudicates id = true → appeal.appealId ≠ 0 → appeal.adjudicatedAt = 0 →
      adjudicatedAt ≠ 0 →
      AppealChange call id appeal
        { appeal with status, adjudicationHash, adjudicationURI, adjudicatedAt }

/-- **Where the bond of an adjudicated appeal went**: all of it to the recipient of the
deployment, or all of it to the credit of the appellant. -/
inductive BondMoved (D : Deployment) (appeal : AppealRecord) (self s : AppealsRegistry) :
    Option (Address × ℕ) → Prop
  | forwarded : s.balance + appeal.bondAmount = self.balance →
      s.refundableBondBalances = self.refundableBondBalances →
      BondMoved D appeal self s (some (D.forfeitRecipient, appeal.bondAmount))
  | credited : s.balance = self.balance →
      s.refundableBondBalances = self.refundableBondBalances.set appeal.appellant
        (self.refundableBondBalances appeal.appellant + appeal.bondAmount) →
      BondMoved D appeal self s none

section

variable {ctx : Ctx} {claimRegistry : ClaimRegistry} {self : AppealsRegistry} {call : Call}
  {o : Outcome AppealsRegistry Pending}

/-- **Every call conserves.** -/
theorem Step.conserved (h : Step ctx claimRegistry self call o) (hnow : 0 < ctx.timestamp)
    (hself : self.Conserved) : o.state.Conserved := by
  cases h with
  | setDepositsPaused => exact hself
  | fileAppeal => exact BondsHeld.file hself rfl rfl rfl
  | forfeitBond _ _ _ hexists hopen _ _ hether =>
    refine BondsHeld.adjudicate hself hexists hopen (Nat.pos_iff_ne_zero.mp hnow) rfl ?_
    simp only [Outcome.state_transfer]
    omega
  | @creditBond appealId _ _ _ _ _ _ _ hexists hopen =>
    have hcredits := self.refundableBondBalances.total_set_add
      (self.appeals appealId).appellant (self.appeals appealId).bondAmount
    refine BondsHeld.adjudicate hself hexists hopen (Nat.pos_iff_ne_zero.mp hnow) rfl ?_
    simp only [Outcome.state_done]
    omega
  | withdrawRefundedBond _ _ _ _ hcredit hether =>
    have hcredits := self.refundableBondBalances.total_set_sub hcredit
    refine BondsHeld.withdraw hself ?_
    simp only [Outcome.state_transfer]
    omega

/-! ### What a call does to one appeal -/

theorem Step.appealChange (h : Step ctx claimRegistry self call o) (hnow : 0 < ctx.timestamp)
    (hself : self.Conserved) (id : ℕ) :
    AppealChange call id (self.appeals id) (o.state.appeals id) := by
  cases h with
  | withdrawRefundedBond | setDepositsPaused => exact .unchanged rfl
  | fileAppeal =>
    by_cases hid : id = self.nextAppealId
    · subst hid
      simp only [Outcome.state_done, Mapping.set_self]
      exact .filed rfl hself.numbered.blank_next rfl
    · simp only [Outcome.state_done, Mapping.set_of_ne _ hid]
      exact .unchanged rfl
  | @forfeitBond appealId _ _ _ _ _ _ hexists hopen
  | @creditBond appealId _ _ _ _ _ _ _ hexists hopen =>
    by_cases hid : id = appealId
    · subst hid
      simp only [Outcome.state_done, Outcome.state_transfer, Mapping.set_self]
      exact .adjudicated (by simp [Call.adjudicates]) hexists hopen (Nat.pos_iff_ne_zero.mp hnow)
    · simp only [Outcome.state_done, Outcome.state_transfer, Mapping.set_of_ne _ hid]
      exact .unchanged (by simpa [Call.adjudicates] using Ne.symm hid)

/-- **An adjudication moves the whole bond one way.** -/
theorem Step.bondMoved (h : Step ctx claimRegistry self call o) {id : ℕ}
    (hcall : call.adjudicates id = true) :
    BondMoved ctx.deployment (self.appeals id) self o.state o.sent := by
  cases h with
  | fileAppeal | withdrawRefundedBond | setDepositsPaused =>
    exact absurd hcall (by simp [Call.adjudicates])
  | forfeitBond _ _ _ _ _ _ _ hether =>
    obtain rfl := of_decide_eq_true hcall
    exact .forwarded (Nat.sub_add_cancel hether) rfl
  | creditBond =>
    obtain rfl := of_decide_eq_true hcall
    exact .credited rfl rfl

/-- **Nothing else credits anybody.** -/
theorem Step.refundable_le (h : Step ctx claimRegistry self call o)
    (hcall : ∀ id, call.adjudicates id = false) (account : Address) :
    o.state.refundableBondBalances account ≤ self.refundableBondBalances account := by
  cases h with
  | fileAppeal | setDepositsPaused => exact le_rfl
  | @forfeitBond appealId | @creditBond appealId =>
    exact absurd (hcall appealId) (by simp [Call.adjudicates])
  | withdrawRefundedBond =>
    simp only [Outcome.state_transfer, Mapping.set_apply]
    split
    next heq => exact heq ▸ Nat.sub_le _ _
    next => exact le_rfl

end

end AppealsRegistry

/-! ### Every observable moment -/

/-- An appeal keeps its appellant and its bond, and everything once it is adjudicated. -/
abbrev AppealKept : AppealRecord → AppealRecord → Prop :=
  RecordKept (·.adjudicatedAt ≠ 0) AppealRecord.appealId AppealRecord.appellant
    AppealRecord.bondAmount

/-- The appeal numbered `id` is adjudicated. -/
def appealAdjudicated (id : ℕ) (w : World) : Bool :=
  decide ((w.appealsRegistry.appeals id).adjudicatedAt ≠ 0)

section

variable {D : Deployment} {a : Action Message Suspended} {c : Config World Suspended}
  {tr : List ProtocolEvent} {w' : World}

theorem AppealsRegistry.conserved_of_reachable (h : (protocol D).Reachable c) :
    c.world.appealsRegistry.Conserved := by
  refine h.invariant (I := fun w => w.appealsRegistry.Conserved) ?_ fun {c a w'} hr hc heffect => ?_
  · rintro _ ⟨now, hasRole, -, -, rfl⟩
    exact conserved_deployed
  · rcases (World.step_of_effect heffect).appealsRegistry_cases with
      ⟨-, heq⟩ | ⟨m, call, o, -, -, -, hcall, heq⟩ | ⟨p, -, heq⟩
    · rw [heq]
      exact hc
    · rw [heq]
      exact hcall.conserved (now_pos hr) hc
    · rw [heq]
      exact ⟨hc.balance_eq, hc.numbered⟩

/-- What a step of the protocol does to one appeal. -/
theorem appeal_cases (hr : (protocol D).Reachable c) (heffect : (protocol D).Effect a c.world w')
    (id : ℕ) :
    (appealsCall a = none ∧ w'.appealsRegistry.appeals id = c.world.appealsRegistry.appeals id) ∨
      ∃ call, appealsCall a = some call ∧ AppealsRegistry.AppealChange call id
        (c.world.appealsRegistry.appeals id) (w'.appealsRegistry.appeals id) := by
  rcases (World.step_of_effect heffect).appealsRegistry_cases with
    ⟨hnone, heq⟩ | ⟨m, call, o, -, hsome, -, hcall, heq⟩ | ⟨p, rfl, heq⟩
  · exact .inl ⟨hnone, by rw [heq]⟩
  · rw [heq]
    exact .inr ⟨call, hsome,
      hcall.appealChange (now_pos hr) (AppealsRegistry.conserved_of_reachable hr) id⟩
  · rw [heq]
    exact .inl ⟨rfl, rfl⟩

/-- **No step changes an adjudicated appeal.** -/
theorem appealKept (hr : (protocol D).Reachable c) (heffect : (protocol D).Effect a c.world w')
    (id : ℕ) :
    AppealKept (c.world.appealsRegistry.appeals id) (w'.appealsRegistry.appeals id) := by
  rcases appeal_cases hr heffect id with ⟨-, heq⟩ | ⟨call, -, hchange⟩
  · rw [heq]
    exact .refl _
  · generalize w'.appealsRegistry.appeals id = appeal' at hchange ⊢
    generalize c.world.appealsRegistry.appeals id = appeal at hchange ⊢
    cases hchange with
    | unchanged => exact .refl _
    | filed _ hblank =>
      subst hblank
      exact ⟨fun hover => absurd rfl hover, fun hid => absurd rfl hid⟩
    | adjudicated _ _ hopen => exact ⟨fun hover => absurd hopen hover, fun hid => ⟨hid, rfl, rfl⟩⟩

theorem latched_appealAdjudicated (id : ℕ) : (protocol D).Latched (appealAdjudicated id) := by
  refine ⟨?_, fun {tr c a w'} hrun heffect hover => ?_⟩
  · rintro _ ⟨now, hasRole, -, -, rfl⟩
    rfl
  · have hkept := appealKept hrun.reachable heffect id
    simp only [appealAdjudicated, hkept.1 (of_decide_eq_true hover)]
    exact hover

/-- **An appeal becomes adjudicated exactly in the calls that adjudicate it.** -/
theorem raises_appealAdjudicated (hr : (protocol D).Reachable c)
    (heffect : (protocol D).Effect a c.world w') (id : ℕ) :
    (⟨c.world, a, w'⟩ : ProtocolEvent).raises (appealAdjudicated id) =
      (appealsCall a).any (·.adjudicates id) := by
  simp only [Event.raises, appealAdjudicated]
  rcases appeal_cases hr heffect id with ⟨hnone, heq⟩ | ⟨call, hsome, hchange⟩
  · simp [hnone, heq]
  · rw [hsome]
    generalize w'.appealsRegistry.appeals id = appeal' at hchange ⊢
    generalize c.world.appealsRegistry.appeals id = appeal at hchange ⊢
    cases hchange with
    | unchanged hcall => simp [hcall]
    | filed hcall _ hfresh => simp [hcall, hfresh]
    | adjudicated hcall _ hopen hnow => simp [hcall, hopen, hnow]

/-- **The effect of an adjudication**: an open appeal is adjudicated, and its bond moves
one way. -/
structure AdjudicationEffect (D : Deployment) (id : ℕ) (e : ProtocolEvent) : Prop where
  filed : (e.before.appealsRegistry.appeals id).appealId ≠ 0
  «open» : (e.before.appealsRegistry.appeals id).adjudicatedAt = 0
  adjudicated : (e.after.appealsRegistry.appeals id).adjudicatedAt ≠ 0
  bondMoved : AppealsRegistry.BondMoved D (e.before.appealsRegistry.appeals id)
    e.before.appealsRegistry e.after.appealsRegistry (World.sent D e.action e.before)

theorem adjudicationEffect (hr : (protocol D).Reachable c)
    (heffect : (protocol D).Effect a c.world w') {id : ℕ}
    (hcall : (appealsCall a).any (·.adjudicates id) = true) :
    AdjudicationEffect D id ⟨c.world, a, w'⟩ := by
  rcases (World.step_of_effect heffect).appealsRegistry_cases with
    ⟨hnone, -⟩ | ⟨m, call, o, rfl, hsome, hsent, hstep, heq⟩ | ⟨p, rfl, -⟩
  · exact absurd hcall (by simp [hnone])
  · rw [hsome] at hcall
    have hchange := hstep.appealChange (now_pos hr) (AppealsRegistry.conserved_of_reachable hr) id
    rw [← heq] at hchange
    have hmoved := hstep.bondMoved hcall
    rw [← hsent, ← heq] at hmoved
    generalize hafter : w'.appealsRegistry.appeals id = appeal' at hchange
    cases hchange with
    | unchanged hother | filed hother => exact absurd (hcall.symm.trans hother) (by simp)
    | adjudicated _ hexists hopen hnow =>
      exact ⟨hexists, hopen, by simpa only [hafter] using hnow, hmoved⟩
  · exact absurd hcall (by simp [appealsCall])

/-! ### What a failed transfer goes back to -/

/-- A frame whose call is an adjudication stands on a world where the appeal is open. -/
def StandsOnOpen (f : Frame World Suspended) : Prop :=
  ∀ id status adjudicationHash adjudicationURI amount actor,
    f.pending = some (.appealsRegistry
      (.adjudicateAppeal id status adjudicationHash adjudicationURI amount actor)) →
    (f.saved.appealsRegistry.appeals id).appealId ≠ 0 ∧
      (f.saved.appealsRegistry.appeals id).adjudicatedAt = 0

/-- The frame of an adjudication that waits for its transfer. -/
theorem standsOnOpen_of_exec {m : Message} {w w' : World} {recipient : Address} {amount : ℕ}
    {p : Suspended} (h : World.exec D m w = .ok (.transfer recipient amount p w')) :
    StandsOnOpen ⟨some p, w⟩ := by
  rintro id status adjudicationHash adjudicationURI bond actor hpending
  obtain rfl := Option.some.inj hpending
  obtain ⟨call, s, hstep⟩ := World.exists_of_exec_appealsRegistry h
  cases hstep with
  | forfeitBond _ _ _ hexists hopen => exact ⟨hexists, hopen⟩

/-- **A suspended adjudication stands on a world where its appeal is open.** -/
theorem standsOnOpen_of_run (h : (protocol D).Run tr c) : ∀ f ∈ c.frames, StandsOnOpen f := by
  -- What a frame restores is fixed when it is opened, so only opening one needs a proof.
  induction h with
  | genesis _ => simp
  | snoc _ hfwd ih =>
    cases hfwd with
    | call _ | tick _ => exact ih
    | suspend hexec => exact List.forall_mem_cons.mpr ⟨standsOnOpen_of_exec hexec, ih⟩
    | enter =>
      refine List.forall_mem_cons.mpr ⟨?_, ih⟩
      rintro _ _ _ _ _ _ ⟨⟩
    | resume | leave => exact (List.forall_mem_cons.mp ih).2

/-- **What a history tells of the appeals**, up to the configuration it has reached. -/
structure AppealsSound (D : Deployment) (tr : List ProtocolEvent) (c : Config World Suspended) :
    Prop where
  /-- The balance is the bonds of the open appeals and the credits. -/
  balance_eq : c.world.appealsRegistry.balance = c.world.appealsRegistry.appeals.total openBond +
    c.world.appealsRegistry.refundableBondBalances.total id
  /-- An appeal has been adjudicated once if it is adjudicated, and never otherwise. -/
  adjudicated_once : ∀ id, tr.countP (fun e => (appealsCall e.action).any (·.adjudicates id)) =
    if (c.world.appealsRegistry.appeals id).adjudicatedAt = 0 then 0 else 1
  /-- Its adjudication moved its bond, all of it, one way. -/
  effect : ∀ e ∈ tr, ∀ id, (appealsCall e.action).any (·.adjudicates id) = true →
    AdjudicationEffect D id e
  /-- No other step credited anybody. -/
  credited_only : ∀ e ∈ tr, (∀ id, (appealsCall e.action).any (·.adjudicates id) = false) →
    ∀ account, e.after.appealsRegistry.refundableBondBalances account ≤
      e.before.appealsRegistry.refundableBondBalances account
  /-- An appeal kept its appellant and its bond, and everything since it is adjudicated. -/
  kept : ∀ e ∈ tr, ∀ id,
    AppealKept (e.after.appealsRegistry.appeals id) (c.world.appealsRegistry.appeals id)
  /-- An adjudication tried now that reverts changes nothing. -/
  reverted : ∀ (m : Message) (err : Failure Revert), World.exec D m c.world = .error err →
    (protocol D).attempt m c.world = c.world
  /-- One whose recipient fails goes back to the world as it is now, -/
  restored : ∀ a c', (protocol D).Forward c a c' → ∀ f, c'.frames = f :: c.frames →
    f.saved = c.world
  /-- and whoever fails while it is suspended, its appeal is open in what it goes back to. -/
  suspended : ∀ f ∈ c.frames, StandsOnOpen f

/-- **The appeals are sound in every history**, also while a recipient runs. -/
theorem appeals_sound (h : (protocol D).Run tr c) : AppealsSound D tr c where
  balance_eq := (AppealsRegistry.conserved_of_reachable h.reachable).balance_eq
  adjudicated_once id := by
    have hraises := h.countP_raises (latched_appealAdjudicated id)
    rw [List.countP_congr (q := fun e => (appealsCall e.action).any (·.adjudicates id))]
      at hraises
    · rw [hraises]
      simp only [appealAdjudicated, decide_eq_true_eq, ne_eq, ite_not]
    · rintro ⟨w, a, w'⟩ he
      obtain ⟨heffect, tr', fs, hrun⟩ := h.event_effect _ he
      rw [raises_appealAdjudicated (c := ⟨w, fs⟩) hrun.reachable heffect]
  effect := by
    rintro ⟨w, a, w'⟩ he id hcall
    obtain ⟨heffect, tr', fs, hrun⟩ := h.event_effect _ he
    exact adjudicationEffect (c := ⟨w, fs⟩) hrun.reachable heffect hcall
  credited_only := by
    rintro ⟨w, a, w'⟩ he hcall account
    obtain ⟨heffect, -⟩ := h.event_effect _ he
    rcases (World.step_of_effect heffect).appealsRegistry_cases with
      ⟨-, heq⟩ | ⟨m, call, o, -, hsome, -, hstep, heq⟩ | ⟨p, -, heq⟩
    · rw [heq]
    · rw [heq]
      exact hstep.refundable_le (fun id => by simpa [hsome] using hcall id) account
    · rw [heq]
      exact le_rfl
  kept e he id := (h.event_relation (R := fun w w' => AppealKept (w.appealsRegistry.appeals id)
    (w'.appealsRegistry.appeals id)) (fun _ => .refl _) .trans
    (fun hrun heffect => appealKept hrun.reachable heffect id) e he).2
  reverted _ _ herror := Machine.attempt_of_error (M := protocol D) herror
  restored _ _ hfwd _ hf := hfwd.saved_eq hf
  suspended := standsOnOpen_of_run h

/-- A history that stops inside an adjudication: appeal 1 was closed and appeal 2 is lost,
and while the recipient of its bond runs, somebody files a third one. -/
def reentrantAdjudication : List (Move Message) :=
  opening ++
  [send 0xBB 7 (.appealsRegistry (.fileAppeal 1 0 0 .moduleBoundary 3 "")),
    send 0xBD 9 (.appealsRegistry (.fileAppeal 1 0 0 .moduleBoundary 4 "")),
    send 0x0A 0 (.appealsRegistry (.adjudicateAppeal 1 .closed 5 "")),
    send 0x0A 0 (.appealsRegistry (.adjudicateAppeal 2 .rejected 6 "")),
    send 0xBC 4 (.appealsRegistry (.fileAppeal 1 0 0 .moduleBoundary 8 ""))]

theorem playDevnet_reentrantAdjudication : (playDevnet reentrantAdjudication).isSome := by
  decide

/-- There, appeal 2 has been adjudicated once. -/
theorem appeals_sound_reentrantAdjudication :
    ((playDevnet reentrantAdjudication).get playDevnet_reentrantAdjudication).1.countP
      (fun e => (appealsCall e.action).any (·.adjudicates 2)) = 1 :=
  ((appeals_sound (run_playDevnet playDevnet_reentrantAdjudication)).adjudicated_once 2).trans
    (by decide)

end

end ScientificProtocol
