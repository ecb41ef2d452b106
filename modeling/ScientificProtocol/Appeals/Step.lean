import ScientificProtocol.System.World

/-!
# What a call of the appeals registry does

`ScientificProtocol.AppealsRegistry.Step` lists, entry point by entry point, the guards a
successful call passed and how it ended. An adjudication is there twice, once for each
way the bond can go: a lost appeal stops at the transfer of its bond to the recipient of
the deployment, any other outcome credits the appellant and is done.
-/

namespace ScientificProtocol

open Evm

namespace AppealsRegistry

section

variable (ctx : Ctx) (claimRegistry : ClaimRegistry) (replicationRegistry : ReplicationRegistry)
  (epistemicMarket : EpistemicMarket) (self : AppealsRegistry)

/-- **What a successful call of the registry did**, with the guards it passed. -/
inductive Step : Call → Outcome AppealsRegistry Pending → Prop
  | fileAppeal {claimId replicationId challengeId : ℕ} {reason : AppealReason}
      {filingHash : Bytes32} {uri : String} {logs : List Event} :
      self.depositsPaused = false → claimRegistry.claimExists claimId = true → ctx.value ≠ 0 →
      Step (.fileAppeal claimId replicationId challengeId reason filingHash uri) (.done { self with
        balance := self.balance + ctx.value
        nextAppealId := self.nextAppealId + 1
        appeals := self.appeals.set self.nextAppealId
          { appealId := self.nextAppealId, claimId, replicationId, challengeId,
            appellant := ctx.sender, reason, filingHash, uri, status := .filed,
            adjudicationHash := 0, adjudicationURI := "", bondAmount := ctx.value,
            createdAt := ctx.timestamp, adjudicatedAt := 0 }
        logs })
  /-- The appeal is lost, and its bond is on the way to the recipient. -/
  | forfeitBond {appealId : ℕ} {status : AppealStatus} {adjudicationHash : Bytes32}
      {adjudicationURI : String} :
      ctx.value = 0 → ctx.hasRole .court ctx.sender = true → self.entered = false →
      (self.appeals appealId).appealId ≠ 0 → (self.appeals appealId).adjudicatedAt = 0 →
      status ≠ .filed → forfeits status = true →
      (self.appeals appealId).bondAmount ≤ self.balance →
      Step (.adjudicateAppeal appealId status adjudicationHash adjudicationURI)
        (.transfer ctx.deployment.forfeitRecipient (self.appeals appealId).bondAmount
          (.adjudicateAppeal appealId status adjudicationHash adjudicationURI
            (self.appeals appealId).bondAmount ctx.sender)
          { self with
            appeals := self.appeals.set appealId { self.appeals appealId with
              status, adjudicationHash, adjudicationURI, adjudicatedAt := ctx.timestamp }
            balance := self.balance - (self.appeals appealId).bondAmount
            entered := true })
  /-- The appeal is not lost, and its bond is the appellant's again. -/
  | creditBond {appealId : ℕ} {status : AppealStatus} {adjudicationHash : Bytes32}
      {adjudicationURI : String} {logs : List Event} :
      ctx.value = 0 → ctx.hasRole .court ctx.sender = true → self.entered = false →
      (self.appeals appealId).appealId ≠ 0 → (self.appeals appealId).adjudicatedAt = 0 →
      status ≠ .filed → forfeits status = false →
      Step (.adjudicateAppeal appealId status adjudicationHash adjudicationURI) (.done { self with
        appeals := self.appeals.set appealId { self.appeals appealId with
          status, adjudicationHash, adjudicationURI, adjudicatedAt := ctx.timestamp }
        refundableBondBalances := self.refundableBondBalances.set
          (self.appeals appealId).appellant
          (self.refundableBondBalances (self.appeals appealId).appellant +
            (self.appeals appealId).bondAmount)
        logs })
  | withdrawRefundedBond {amount : ℕ} {recipient : Address} :
      ctx.value = 0 → self.entered = false → amount ≠ 0 → recipient ≠ 0 →
      amount ≤ self.refundableBondBalances ctx.sender → amount ≤ self.balance →
      Step (.withdrawRefundedBond amount recipient) (.transfer recipient amount
        (.withdrawRefundedBond ctx.sender recipient amount) { self with
          refundableBondBalances := self.refundableBondBalances.set ctx.sender
            (self.refundableBondBalances ctx.sender - amount)
          balance := self.balance - amount
          entered := true })
  | setDepositsPaused {paused : Bool} {logs : List Event} :
      ctx.value = 0 → ctx.hasRole .pauser ctx.sender = true →
      Step (.setDepositsPaused paused) (.done { self with depositsPaused := paused, logs })

end

section

variable {ctx : Ctx} {claimRegistry : ClaimRegistry} {replicationRegistry : ReplicationRegistry}
  {epistemicMarket : EpistemicMarket} {self : AppealsRegistry} {o : Outcome AppealsRegistry Pending}

/-- A transfer is made if the ether is there and the recipient does not refuse it. -/
theorem safeTransferValue_eq_ok {recipient : Address} {amount : ℕ} {p : Pending} :
    self.safeTransferValue ctx recipient amount p = .ok o ↔
      (amount ≤ self.balance ∧ ctx.refusesValue recipient = false) ∧
        o = .transfer recipient amount p
          { self with balance := self.balance - amount, entered := true } := by
  simp only [safeTransferValue, bind_eq_ok, revertIf_eq_ok, pure_eq_ok, Except.ok.injEq,
    not_or, Nat.not_lt, Bool.not_eq_true]
  constructor
  · rintro ⟨-, hchecks, rfl⟩
    exact ⟨hchecks, rfl⟩
  · rintro ⟨hchecks, rfl⟩
    exact ⟨(), hchecks, rfl⟩

theorem step_of_fileAppeal {claimId replicationId challengeId : ℕ} {reason : AppealReason}
    {filingHash : Bytes32} {uri : String} {res : ℕ × AppealsRegistry}
    (h : { self with balance := self.balance + ctx.value }.fileAppeal ctx claimRegistry
      replicationRegistry epistemicMarket claimId replicationId challengeId reason filingHash
      uri = .ok res) :
    Step ctx claimRegistry self
      (.fileAppeal claimId replicationId challengeId reason filingHash uri) (.done res.2) := by
  simp only [fileAppeal, bind_eq_ok, whenDepositsNotPaused_eq_ok, revertIf_eq_ok, checkedAdd_eq_ok,
    pure_eq_ok, Except.ok.injEq, Bool.not_eq_true, Bool.not_eq_false] at h
  obtain ⟨-, hpaused, -, hclaim, -, -, -, -, -, hvalue, next, ⟨-, rfl⟩, rfl⟩ := h
  exact .fileAppeal hpaused hclaim hvalue

theorem step_of_adjudicateAppeal {appealId : ℕ} {status : AppealStatus} {adjudicationHash : Bytes32}
    {adjudicationURI : String} (hvalue : ctx.value = 0)
    (h : self.adjudicateAppeal ctx appealId status adjudicationHash adjudicationURI = .ok o) :
    Step ctx claimRegistry self
      (.adjudicateAppeal appealId status adjudicationHash adjudicationURI) o := by
  simp only [adjudicateAppeal, bind_eq_ok, Ctx.onlyRole_eq_ok, nonReentrant_eq_ok, revertIf_eq_ok,
    not_not] at h
  obtain ⟨-, hrole, -, hentered, -, hexists, -, hopen, -, hstatus, h⟩ := h
  by_cases hforfeits : forfeits status = true
  · rw [if_pos hforfeits, safeTransferValue_eq_ok] at h
    obtain ⟨⟨hether, -⟩, rfl⟩ := h
    exact .forfeitBond hvalue hrole hentered hexists hopen hstatus hforfeits hether
  · rw [if_neg hforfeits] at h
    simp only [bind_eq_ok, checkedAdd_eq_ok, pure_eq_ok, Except.ok.injEq] at h
    obtain ⟨refundable, ⟨-, rfl⟩, rfl⟩ := h
    exact .creditBond hvalue hrole hentered hexists hopen hstatus (Bool.not_eq_true _ ▸ hforfeits)

theorem step_of_withdrawRefundedBond {amount : ℕ} {recipient : Address} (hvalue : ctx.value = 0)
    (h : self.withdrawRefundedBond ctx amount recipient = .ok o) :
    Step ctx claimRegistry self (.withdrawRefundedBond amount recipient) o := by
  simp only [withdrawRefundedBond, bind_eq_ok, nonReentrant_eq_ok, revertIf_eq_ok,
    checkedSub_eq_ok, safeTransferValue_eq_ok] at h
  obtain ⟨-, hentered, -, hamount, -, hrecipient, -, -, refundable, ⟨hcredit, rfl⟩, ⟨hether, -⟩,
    rfl⟩ := h
  exact .withdrawRefundedBond hvalue hentered hamount hrecipient hcredit hether

/-- **Every successful call of the registry is one of the steps above.** -/
theorem step_of_exec {call : Call}
    (h : self.exec ctx claimRegistry replicationRegistry epistemicMarket call = .ok o) :
    Step ctx claimRegistry self call o := by
  simp only [exec, bind_eq_ok, Ctx.receiveValue_eq_ok] at h
  obtain ⟨-, ⟨hpayable, -, rfl⟩, h⟩ := h
  -- A call that is not payable carries no value, and runs on the registry as it was.
  have hplain : call.payable = false → ctx.value = 0 ∧
      { self with balance := self.balance + ctx.value } = self := by
    intro hcall
    have hvalue : ctx.value = 0 := by simpa [hcall] using hpayable
    exact ⟨hvalue, by rw [hvalue, Nat.add_zero]⟩
  cases call with
  | fileAppeal claimId replicationId challengeId reason filingHash uri =>
    obtain ⟨res, hrun, rfl⟩ := map_eq_ok.mp h
    exact step_of_fileAppeal hrun
  | adjudicateAppeal appealId status adjudicationHash adjudicationURI =>
    obtain ⟨hvalue, hself⟩ := hplain rfl
    exact step_of_adjudicateAppeal hvalue (hself ▸ h)
  | withdrawRefundedBond amount recipient =>
    obtain ⟨hvalue, hself⟩ := hplain rfl
    exact step_of_withdrawRefundedBond hvalue (hself ▸ h)
  | setDepositsPaused paused =>
    obtain ⟨hvalue, hself⟩ := hplain rfl
    obtain ⟨s, hrun, rfl⟩ := map_eq_ok.mp h
    rw [hself] at hrun
    simp only [setDepositsPaused, bind_eq_ok, Ctx.onlyRole_eq_ok, pure_eq_ok,
      Except.ok.injEq] at hrun
    obtain ⟨-, hrole, rfl⟩ := hrun
    exact .setDepositsPaused hvalue hrole

end

end AppealsRegistry

/-! ### The registry in a step of the protocol -/

/-- The call of the appeals registry a step runs, if it runs one. -/
def appealsCall : Action Message Suspended → Option AppealsRegistry.Call
  | .exec m => match m.target with
    | .appealsRegistry call => some call
    | _ => none
  | _ => none

/-- **How the registry moves in a step of the protocol**: it stands still, it runs one of
its calls, or it finishes one. -/
theorem World.Step.appealsRegistry_cases {D : Deployment} {a : Action Message Suspended}
    {w w' : World} (h : World.Step D a w w') :
    (appealsCall a = none ∧ w'.appealsRegistry = w.appealsRegistry) ∨
      (∃ m call o, a = .exec m ∧ appealsCall a = some call ∧ World.sent D a w = o.sent ∧
        AppealsRegistry.Step (w.context D m) w.claimRegistry w.appealsRegistry call o ∧
        w'.appealsRegistry = o.state) ∨
      ∃ p, a = .resume (.appealsRegistry p) ∧
        w'.appealsRegistry = w.appealsRegistry.resume p := by
  cases h with
  | @appealsRegistry w m call o htarget hexec =>
    refine .inr (.inl ⟨m, call, o, rfl, by simp [appealsCall, htarget], ?_,
      AppealsRegistry.step_of_exec hexec, rfl⟩)
    have hworld : World.exec D m w = .ok (o.map (fun s => { w with appealsRegistry := s })
        .appealsRegistry) := by
      simp only [World.exec, htarget, hexec, map_ok]
    rw [World.sent_of_exec hworld, Outcome.sent_map]
  | resume p w =>
    cases p with
    | appealsRegistry p => exact .inr (.inr ⟨p, rfl, rfl⟩)
    | _ => exact .inl ⟨rfl, rfl⟩
  | foreign | tick => exact .inl ⟨rfl, rfl⟩
  | accessController htarget => exact .inl ⟨by simp [appealsCall, htarget], rfl⟩
  | protocolParameters htarget | resolutionModuleRegistry htarget | claimRegistry htarget
  | replicationRegistry htarget | agentRegistry htarget | bondEscrow htarget
  | epistemicMarket htarget | claimRewardVault htarget | artifactRegistry htarget
  | reputationCheckpointRegistry htarget => exact .inl ⟨by simp [appealsCall, htarget], rfl⟩

/-- A call that leaves an appeals registry waiting is a call of that registry. -/
theorem World.exists_of_exec_appealsRegistry {D : Deployment} {m : Message} {w w' : World}
    {recipient : Address} {amount : ℕ} {p : AppealsRegistry.Pending}
    (h : World.exec D m w = .ok (.transfer recipient amount (.appealsRegistry p) w')) :
    ∃ call s, AppealsRegistry.Step (w.context D m) w.claimRegistry w.appealsRegistry call
      (.transfer recipient amount p s) := by
  rcases htarget : m.target with _ | _ | _ | _ | _ | _ | _ | _ | _ | call | _ | _
  case appealsRegistry =>
    simp only [World.exec, htarget] at h
    obtain ⟨o, hexec, ho⟩ := map_eq_ok.mp h
    rcases o with s | ⟨recipient', amount', p', s⟩
    · simp [Outcome.map] at ho
    · simp only [Outcome.map, Outcome.transfer.injEq, Suspended.appealsRegistry.injEq] at ho
      obtain ⟨rfl, rfl, rfl, -⟩ := ho
      exact ⟨call, s, AppealsRegistry.step_of_exec hexec⟩
  case accessController => simp [World.exec, htarget] at h
  -- Every other contract leaves itself waiting, or nobody.
  all_goals
    simp only [World.exec, htarget] at h
    obtain ⟨o, hexec, ho⟩ := map_eq_ok.mp h
    first
      | exact absurd ho (by simp)
      | rcases o with s | ⟨recipient', amount', p', s⟩ <;> simp [Outcome.map] at ho

end ScientificProtocol
