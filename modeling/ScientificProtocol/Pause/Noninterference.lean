import ScientificProtocol.Pause.Step
import ScientificProtocol.Rewards.Step

/-!
# What the deposit switches can block

Two worlds that differ only in their deposit switches, and one message that is not a
deposit: do the two runs differ in anything but the switches? For every entry point of
every contract but one they do not, since none of these runs looks at a switch
(`ScientificProtocol.World.exec_unpaused`).

The exception is an accrual that tops up an agent budget. The vault does not look at its
own switch there, but the top-up is a deposit into the agent registry, and the switch of
the registry reverts the whole accrual. The theorem at the end says that this is the only
way a switch can be felt: the accrual passes every check of both contracts, and the
switch of the registry is on in one of the worlds.
-/

namespace ScientificProtocol

open Evm

/-- The message is a deposit: its entry point stands behind the switch of its contract. -/
def Target.isDeposit : Target → Bool
  | .agentRegistry call => call.isDeposit
  | .bondEscrow call => call.isDeposit
  | .epistemicMarket call => call.isDeposit
  | .claimRewardVault call => call.isDeposit
  | .appealsRegistry call => call.isDeposit
  | _ => false

/-- The message sends value to an agent budget on its way. -/
def Target.topsUp : Target → Prop
  | .claimRewardVault call => call.topsUp
  | _ => False

namespace World

/-- The world with every switch off. -/
def unpaused (w : World) : World :=
  { w with
    agentRegistry := w.agentRegistry.unpaused
    bondEscrow := w.bondEscrow.unpaused
    epistemicMarket := w.epistemicMarket.unpaused
    claimRewardVault := w.claimRewardVault.unpaused
    appealsRegistry := w.appealsRegistry.unpaused }

/-- **The two worlds differ at most in their deposit switches.** -/
def SameButSwitches (w w' : World) : Prop := w.unpaused = w'.unpaused

variable {D : Deployment} {m : Message} {w w' : World}

/-- **A run that is no deposit and tops nothing up does not look at a switch.** -/
theorem exec_unpaused (hdeposit : m.target.isDeposit = false) (htop : ¬m.target.topsUp) :
    Outcome.map unpaused id <$> exec D m w.unpaused = Outcome.map unpaused id <$> exec D m w := by
  obtain ⟨sender, value, reply, target⟩ := m
  cases target with
  | accessController => rfl
  | protocolParameters | resolutionModuleRegistry | claimRegistry | replicationRegistry
  | artifactRegistry | reputationCheckpointRegistry =>
    simp only [exec, Functor.map_map]
    rfl
  | agentRegistry call =>
    exact map_outcome_congr (k := fun s => { w.unpaused with agentRegistry := s })
      (AgentRegistry.exec_unpaused hdeposit) (fun _ => rfl) fun _ => rfl
  | bondEscrow call =>
    exact map_outcome_congr (k := fun s => { w.unpaused with bondEscrow := s })
      (BondEscrow.exec_unpaused hdeposit) (fun _ => rfl) fun _ => rfl
  | epistemicMarket call =>
    exact map_outcome_congr (k := fun s => { w.unpaused with epistemicMarket := s })
      (EpistemicMarket.exec_unpaused hdeposit) (fun _ => rfl) fun _ => rfl
  | claimRewardVault call =>
    exact map_outcome_congr
      (k := fun s => { w.unpaused with claimRewardVault := s.1, agentRegistry := s.2 })
      ((ClaimRewardVault.exec_unpaused hdeposit).trans (ClaimRewardVault.exec_unpaused_right htop))
      (fun _ => rfl) fun _ => rfl
  | appealsRegistry call =>
    exact map_outcome_congr (k := fun s => { w.unpaused with appealsRegistry := s })
      (AppealsRegistry.exec_unpaused hdeposit) (fun _ => rfl) fun _ => rfl

/-- Finishing a suspended call does not look at a switch. -/
theorem unpaused_resume (p : Suspended) (w : World) :
    (w.resume p).unpaused = w.unpaused.resume p := by
  cases p <;> rfl

theorem SameButSwitches.resume (h : w.SameButSwitches w') (p : Suspended) :
    (w.resume p).SameButSwitches (w'.resume p) := by
  unfold SameButSwitches
  rw [unpaused_resume, unpaused_resume, h]

/-- What is not a switch is the same, and so is what is computed from it. -/
theorem SameButSwitches.congr {α : Type} (h : w.SameButSwitches w') (f : World → α)
    (hf : ∀ v : World, f v.unpaused = f v) : f w = f w' := by
  rw [← hf w, ← hf w', show w.unpaused = w'.unpaused from h]

theorem SameButSwitches.agentRegistry (h : w.SameButSwitches w')
    (hswitch : w.agentRegistry.depositsPaused = w'.agentRegistry.depositsPaused) :
    w.agentRegistry = w'.agentRegistry := by
  have hunpaused : w.agentRegistry.unpaused = w'.agentRegistry.unpaused :=
    congrArg World.agentRegistry h
  calc w.agentRegistry
      = { w.agentRegistry.unpaused with depositsPaused := w.agentRegistry.depositsPaused } := rfl
    _ = { w'.agentRegistry.unpaused with depositsPaused := w'.agentRegistry.depositsPaused } := by
        rw [hunpaused, hswitch]
    _ = w'.agentRegistry := rfl

/-- A run of the vault looks at no switch but the one of the registry. -/
theorem SameButSwitches.exec_claimRewardVault (h : w.SameButSwitches w')
    {call : ClaimRewardVault.Call} (htarget : m.target = .claimRewardVault call)
    (hdeposit : call.isDeposit = false)
    (hswitch : w.agentRegistry.depositsPaused = w'.agentRegistry.depositsPaused) :
    Outcome.map unpaused id <$> exec D m w = Outcome.map unpaused id <$> exec D m w' := by
  have hcontext : w.context D m = w'.context D m := h.congr (·.context D m) fun _ => rfl
  have hclaims : w.claimRegistry = w'.claimRegistry := h.congr (·.claimRegistry) fun _ => rfl
  have hvault : w.claimRewardVault.unpaused = w'.claimRewardVault.unpaused :=
    h.congr (·.claimRewardVault.unpaused) fun _ => rfl
  have hrun : Outcome.map (Prod.map ClaimRewardVault.unpaused AgentRegistry.unpaused) id <$>
        w.claimRewardVault.exec (w.context D m) w.claimRegistry w.agentRegistry call =
      Outcome.map (Prod.map ClaimRewardVault.unpaused AgentRegistry.unpaused) id <$>
        w'.claimRewardVault.exec (w'.context D m) w'.claimRegistry w'.agentRegistry call := by
    rw [hcontext, hclaims, h.agentRegistry hswitch, ← ClaimRewardVault.exec_unpaused hdeposit,
      hvault, ClaimRewardVault.exec_unpaused hdeposit]
  simp only [exec, htarget]
  refine map_outcome_congr
    (k := fun s => { w.unpaused with claimRewardVault := s.1, agentRegistry := s.2 })
    hrun (fun _ => rfl) fun s => ?_
  rw [show w.unpaused = w'.unpaused from h]
  rfl

end World

/-! ### The property, and where it fails -/

/-- **An observer of the two runs sees no difference**: both revert, or both end the same
way in worlds that differ at most in their switches. -/
inductive Indistinguishable :
    Tx Revert (Outcome World Suspended) → Tx Revert (Outcome World Suspended) → Prop
  | revert {e e' : Failure Revert} : Indistinguishable (.error e) (.error e')
  | done {w w' : World} : w.SameButSwitches w' →
      Indistinguishable (.ok (.done w)) (.ok (.done w'))
  | transfer {recipient : Address} {amount : ℕ} {p : Suspended} {w w' : World} :
      w.SameButSwitches w' →
      Indistinguishable (.ok (.transfer recipient amount p w))
        (.ok (.transfer recipient amount p w'))

section

variable {D : Deployment} {m : Message} {w w' : World}
  {x y : Tx Revert (Outcome World Suspended)}

theorem Indistinguishable.of_map_eq
    (h : Outcome.map World.unpaused id <$> x = Outcome.map World.unpaused id <$> y) :
    Indistinguishable x y := by
  rcases x with e | v | ⟨recipient, amount, p, v⟩ <;>
    rcases y with e' | v' | ⟨recipient', amount', p', v'⟩ <;>
    simp only [map_ok, map_error, Outcome.map, Except.ok.injEq, Outcome.done.injEq,
      Outcome.transfer.injEq, reduceCtorEq, id] at h
  · exact .revert
  · exact .done h
  · obtain ⟨rfl, rfl, rfl, h⟩ := h
    exact .transfer h

theorem Indistinguishable.of_not_ok (hx : ¬∃ o, x = .ok o) (hy : ¬∃ o, y = .ok o) :
    Indistinguishable x y := by
  rcases x with e | o
  · rcases y with e' | o'
    · exact .revert
    · exact absurd ⟨o', rfl⟩ hy
  · exact absurd ⟨o, rfl⟩ hx

theorem Indistinguishable.exists_ok_iff (h : Indistinguishable x y) :
    (∃ o, x = .ok o) ↔ ∃ o, y = .ok o := by
  cases h <;> simp

theorem Indistinguishable.isOk_eq (h : Indistinguishable x y) : x.isOk = y.isOk := by
  cases h <;> rfl

/-- The accrual passes every check of the two contracts, switches apart. -/
def World.Accruable (D : Deployment) (m : Message) (w : World)
    (accrual : ClaimRewardVault.Accrual) : Prop :=
  ClaimRewardVault.Accruable (w.context D m) w.claimRegistry w.agentRegistry w.claimRewardVault
    accrual

/-- The checks do not look at a switch. -/
theorem World.SameButSwitches.accruable_eq (h : w.SameButSwitches w')
    (accrual : ClaimRewardVault.Accrual) : w.Accruable D m accrual = w'.Accruable D m accrual := by
  refine h.congr (·.Accruable D m accrual) fun v => propext ⟨fun h => ?_, fun h => ?_⟩ <;>
    exact ⟨h.value_eq, h.balance_lt, h.role, h.notEntered, h.claim_exists, h.workKind_lt,
      h.amount_ne_zero, h.fresh, h.bps_le, h.named, h.agent_exists, h.amount_le, h.product_lt,
      h.recipient, h.active, h.accrued_lt, h.topUp⟩

/-- When an accrual that tops a budget up succeeds. -/
theorem World.exists_exec_accrueWorkReward_iff {accrual : ClaimRewardVault.Accrual}
    (htarget : m.target = .claimRewardVault (.accrueWorkReward accrual))
    (hbudget : accrual.agentBudgetAmount ≠ 0) :
    (∃ o, World.exec D m w = .ok o) ↔
      w.Accruable D m accrual ∧ w.agentRegistry.depositsPaused = false := by
  have hvault : (∃ o, w.claimRewardVault.exec (w.context D m) w.claimRegistry w.agentRegistry
      (.accrueWorkReward accrual) = .ok o) ↔
      w.Accruable D m accrual ∧
        (accrual.agentBudgetAmount ≠ 0 → w.agentRegistry.depositsPaused = false) :=
    ClaimRewardVault.exists_accrueWorkReward_iff
  rw [imp_iff_right hbudget] at hvault
  rw [← hvault]
  simp only [World.exec, htarget]
  constructor
  · rintro ⟨_, h⟩
    obtain ⟨o, ho, -⟩ := map_eq_ok.mp h
    exact ⟨o, ho⟩
  · rintro ⟨o, ho⟩
    exact ⟨_, map_eq_ok.mpr ⟨o, ho, rfl⟩⟩

/-- A message that tops a budget up is an accrual. -/
theorem Target.topsUp_iff {target : Target} :
    target.topsUp ↔ ∃ accrual : ClaimRewardVault.Accrual,
      target = .claimRewardVault (.accrueWorkReward accrual) ∧ accrual.agentBudgetAmount ≠ 0 := by
  constructor
  · intro h
    cases target with
    | claimRewardVault call =>
      cases call with
      | accrueWorkReward accrual => exact ⟨accrual, rfl, h⟩
      | _ => exact h.elim
    | _ => exact h.elim
  · rintro ⟨accrual, rfl, hbudget⟩
    exact hbudget

/-- **A switch blocks a top-up**: the message is an accrual that tops up a budget, it
passes every check, and the switch of the agent registry is on in one of the worlds. -/
def TopUpBlocked (D : Deployment) (m : Message) (w w' : World) : Prop :=
  ∃ accrual, m.target = .claimRewardVault (.accrueWorkReward accrual) ∧
    accrual.agentBudgetAmount ≠ 0 ∧ w.Accruable D m accrual ∧
    w.agentRegistry.depositsPaused ≠ w'.agentRegistry.depositsPaused

/-- **The switches are felt by nothing but a blocked top-up**: for any two worlds that
differ only in their switches and any message that is not a deposit, the two runs cannot
be told apart, nor what is left of them after a transfer, exactly if no top-up of the
message is blocked in one of the worlds alone. -/
theorem switches_unfelt_iff (hsame : w.SameButSwitches w')
    (hdeposit : m.target.isDeposit = false) :
    (Indistinguishable (World.exec D m w) (World.exec D m w') ∧
        ∀ (p : Suspended) (v v' : World), v.SameButSwitches v' →
          (v.resume p).SameButSwitches (v'.resume p)) ↔
      ¬TopUpBlocked D m w w' := by
  constructor
  · rintro ⟨hrun, -⟩ ⟨accrual, htarget, hbudget, haccruable, hswitch⟩
    have haccruable' : w'.Accruable D m accrual := by
      rwa [← hsame.accruable_eq accrual]
    have hok := hrun.exists_ok_iff
    rw [World.exists_exec_accrueWorkReward_iff htarget hbudget,
      World.exists_exec_accrueWorkReward_iff htarget hbudget, and_iff_right haccruable,
      and_iff_right haccruable'] at hok
    exact hswitch (Bool.eq_iff_iff.mpr (by simpa using not_congr hok))
  · intro hfree
    refine ⟨?_, fun p v v' h => h.resume p⟩
    by_cases htop : m.target.topsUp
    · obtain ⟨accrual, htarget, hbudget⟩ := Target.topsUp_iff.mp htop
      -- With the two switches of the registry alike the runs agree; otherwise both revert.
      by_cases hswitch : w.agentRegistry.depositsPaused = w'.agentRegistry.depositsPaused
      · exact .of_map_eq (hsame.exec_claimRewardVault htarget rfl hswitch)
      · have hnot : ¬w.Accruable D m accrual := fun haccruable =>
          hfree ⟨accrual, htarget, hbudget, haccruable, hswitch⟩
        have hnot' : ¬w'.Accruable D m accrual := by
          rwa [← hsame.accruable_eq accrual]
        refine .of_not_ok ?_ ?_
        · rw [World.exists_exec_accrueWorkReward_iff htarget hbudget]
          exact fun h => hnot h.1
        · rw [World.exists_exec_accrueWorkReward_iff htarget hbudget]
          exact fun h => hnot' h.1
    · refine .of_map_eq ?_
      rw [← World.exec_unpaused hdeposit htop, show w.unpaused = w'.unpaused from hsame,
        World.exec_unpaused hdeposit htop]

/-- The world with the switch of the agent registry on. -/
def World.registryPaused (w : World) : World :=
  { w with agentRegistry := { w.agentRegistry with depositsPaused := true } }

theorem World.sameButSwitches_registryPaused (w : World) : w.SameButSwitches w.registryPaused :=
  rfl

/-- A history that ends before an accrual for the work of agent 1. -/
def agentAtWork : List (Move Message) :=
  opening ++
  [send 0xEE 0 (.agentRegistry (.registerAgent 5 "" 100)),
    send 0xDD 50 (.claimRewardVault (.fundClaimRewards 1 2)),
    send 0x0A 0 (.claimRewardVault (.accrueWorkReward
      { claimId := 1, workKind := 2, settlementId := 11, recipient := 0xBB, agentId := 0,
        amount := 9, budgetTopUpBps := 0 }))]

theorem playDevnet_agentAtWork : (playDevnet agentAtWork).isSome := by
  decide

/-- The world that history reaches. -/
def agentAtWorkWorld : World := ((playDevnet agentAtWork).get playDevnet_agentAtWork).2.world

/-- The withdrawal of what has accrued, in that world. -/
def withdrawNine : Message where
  sender := 0xBB
  value := 0
  reply := default
  target := .claimRewardVault (.withdrawAccruedRewards 9 0xBB)

/-- An accrual there, with a third of it for the budget of agent 1. -/
def accrueTen : Message where
  sender := 0x0A
  value := 0
  reply := default
  target := .claimRewardVault (.accrueWorkReward
    { claimId := 1, workKind := 2, settlementId := 12, recipient := 0xBB, agentId := 1,
      amount := 10, budgetTopUpBps := 3333 })

/-- The switch of the registry is not felt by the withdrawal. -/
theorem switches_unfelt_iff_withdrawNine :
    Indistinguishable (World.exec devnet withdrawNine agentAtWorkWorld)
      (World.exec devnet withdrawNine agentAtWorkWorld.registryPaused) := by
  refine ((switches_unfelt_iff agentAtWorkWorld.sameButSwitches_registryPaused rfl).mpr ?_).1
  rintro ⟨accrual, htarget, -⟩
  exact absurd htarget (by simp [withdrawNine])

/-- **The switch of the registry blocks the accrual**, which is no deposit. -/
theorem accrual_blocked_by_switch :
    ¬∀ (D : Deployment) (m : Message) (w w' : World), w.SameButSwitches w' →
      m.target.isDeposit = false →
      Indistinguishable (World.exec D m w) (World.exec D m w') := by
  intro h
  have hrun : (World.exec devnet accrueTen agentAtWorkWorld).isOk = true := by
    decide
  have hpaused : (World.exec devnet accrueTen agentAtWorkWorld.registryPaused).isOk = false := by
    decide
  have hsame := h devnet accrueTen _ _ agentAtWorkWorld.sameButSwitches_registryPaused rfl
  rw [hsame.isOk_eq, hpaused] at hrun
  exact absurd hrun Bool.false_ne_true

end

end ScientificProtocol
