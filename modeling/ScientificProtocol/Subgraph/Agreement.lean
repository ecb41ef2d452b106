import ScientificProtocol.Subgraph.Follows

/-!
# The subgraph along a chain

Every step of the protocol leads the entities from the records before it to those after
it, and so does every stretch of a chain (`Evm.Machine.Emits.leads`). At the end of a block
nothing is owed to the log, and the entities are the records
(`ScientificProtocol.Subgraph.follows`).
-/

namespace ScientificProtocol

open Evm Indexer Sql

/-! ### Calls of the agent registry -/

namespace AgentRegistry

open Subgraph

variable {ctx : Ctx} {self s : AgentRegistry} {owed : List Pending}

/-- A deposit into a budget. -/
theorem narrates_fundAgentBudget {balance agentId : ℕ}
    (h : { self with balance }.fundAgentBudget ctx agentId = .ok s) (owed : List Pending) :
    ∃ new, s.logs = self.logs ++ new ∧ Leads handleAgentRegistry
      (AgentsFollow self.agents owed) new (AgentsFollow s.agents owed) := by
  simp only [fundAgentBudget, bind_eq_ok, revertIf_eq_ok, checkedAdd_eq_ok, pure_eq_ok,
    Except.ok.injEq] at h
  obtain ⟨-, -, -, -, -, hexists, -, -, budget, ⟨-, rfl⟩, rfl⟩ := h
  refine ⟨_, rfl, .one fun x t ht => ht.changed
    (fun agent => { agent with budgetBalance := agent.budgetBalance + ctx.value })
    hexists ?_ ?_ x⟩
  · rfl
  · simp only [AgentColumns.ofRecord, AgentColumns.mk.injEq, true_and, and_true]
    push_cast
    omega

/-- **Every call of the agent registry.** -/
theorem narrates_of_exec {call : Call} {o : Outcome AgentRegistry Pending}
    (hself : self.Conserved) (h : self.exec ctx call = .ok o) (owed : List Pending) :
    ∃ new, o.state.logs = self.logs ++ new ∧ Leads handleAgentRegistry
      (AgentsFollow self.agents owed) new
      (AgentsFollow o.state.agents (o.pending.toList ++ owed)) := by
  have hnumbered : ∀ k, (self.agents k).agentId ≠ 0 → (self.agents k).agentId = k :=
    fun k hk => hself.numbered.idOf_eq rfl hk
  simp only [exec, bind_eq_ok] at h
  obtain ⟨balance, -, h⟩ := h
  cases call with
  | registerAgent metadataHash uri spendLimit =>
    obtain ⟨⟨agentId, s⟩, hrun, rfl⟩ := map_eq_ok.mp h
    simp only [registerAgent, bind_eq_ok, checkedAdd_eq_ok, pure_eq_ok, Except.ok.injEq,
      Prod.mk.injEq] at hrun
    obtain ⟨-, -, next, -, rfl, rfl⟩ := hrun
    have hnext : self.nextAgentId ≠ 0 := hself.numbered.next_pos.ne'
    have hblank : (self.agents self.nextAgentId).agentId = 0 := by
      rw [hself.numbered.blank_next]
      rfl
    refine ⟨_, rfl, .cons (fun x t ht => ht.registered hblank hnext x) ?_⟩
    -- A registration with value is told of twice.
    split
    next hvalue =>
      refine .one fun x t ht => ?_
      let agent : AgentRecord :=
        { agentId := self.nextAgentId, operator := ctx.sender, metadataHash, uri,
          budgetBalance := ctx.value, reservedBudget := 0, spentBudget := 0, spendLimit,
          active := true }
      have hdeposited : AgentsFollow ((self.agents.set self.nextAgentId
          { agent with budgetBalance := 0 }).set self.nextAgentId agent) owed
          (handleAgentRegistry x (.agentBudgetDeposited agent.agentId ctx.sender ctx.value) t) := by
        refine ht.changed (fun agent => { agent with
          budgetBalance := agent.budgetBalance + ctx.value }) ?_ ?_ ?_ x <;> rw [Mapping.set_self]
        · exact hnext
        · simp only [AgentColumns.ofRecord, AgentColumns.mk.injEq, agent, true_and, and_true]
          push_cast
          omega
      rwa [Mapping.set_set] at hdeposited
    next hvalue =>
      rw [not_not.mp hvalue]
      exact .refl _
  | authorizeController agentId controller authorized =>
    obtain ⟨s, hrun, rfl⟩ := map_eq_ok.mp h
    simp only [authorizeController, bind_eq_ok, requireOperator_eq_ok, pure_eq_ok,
      Except.ok.injEq] at hrun
    obtain ⟨agent, -, rfl⟩ := hrun
    exact ⟨_, rfl, .one fun x t ht => ht⟩
  | setSpendLimit agentId spendLimit =>
    obtain ⟨s, hrun, rfl⟩ := map_eq_ok.mp h
    simp only [setSpendLimit, bind_eq_ok, requireOperator_eq_ok, revertIf_eq_ok, pure_eq_ok,
      Except.ok.injEq] at hrun
    obtain ⟨agent, ⟨hexists, -, rfl⟩, committed, -, -, -, rfl⟩ := hrun
    refine ⟨_, rfl, .one fun x t ht =>
      ht.changed (fun agent => { agent with spendLimit }) hexists ?_ ?_ x⟩ <;> rfl
  | setAgentActive agentId active =>
    obtain ⟨s, hrun, rfl⟩ := map_eq_ok.mp h
    simp only [setAgentActive, bind_eq_ok, requireOperator_eq_ok, pure_eq_ok,
      Except.ok.injEq] at hrun
    obtain ⟨agent, ⟨hexists, -, rfl⟩, rfl⟩ := hrun
    refine ⟨_, rfl, .one fun x t ht =>
      ht.changed (fun agent => { agent with active }) hexists ?_ ?_ x⟩ <;> rfl
  | fundAgentBudget agentId =>
    obtain ⟨s, hrun, rfl⟩ := map_eq_ok.mp h
    exact narrates_fundAgentBudget hrun owed
  | reserveBudget agentId amount =>
    obtain ⟨s, hrun, rfl⟩ := map_eq_ok.mp h
    simp only [reserveBudget, bind_eq_ok, requireExistingAgent_eq_ok, revertIf_eq_ok,
      checkedAdd_eq_ok, pure_eq_ok, Except.ok.injEq] at hrun
    obtain ⟨-, -, agent, ⟨hexists, rfl⟩, -, -, -, -, reserved, ⟨-, rfl⟩, committed, -, -, -, -, -,
      rfl⟩ := hrun
    refine ⟨_, rfl, .one fun x t ht => ht.changed
      (fun agent => { agent with reservedBudget := agent.reservedBudget + amount })
      hexists ?_ ?_ x⟩
    · rfl
    · simp only [AgentColumns.ofRecord, AgentColumns.mk.injEq, true_and, and_true]
      push_cast
      omega
  | releaseBudget agentId amount =>
    obtain ⟨s, hrun, rfl⟩ := map_eq_ok.mp h
    simp only [releaseBudget, bind_eq_ok, requireExistingAgent_eq_ok, revertIf_eq_ok,
      checkedSub_eq_ok, pure_eq_ok, Except.ok.injEq] at hrun
    obtain ⟨-, -, agent, ⟨hexists, rfl⟩, -, -, -, -, reserved, ⟨hle, rfl⟩, rfl⟩ := hrun
    refine ⟨_, rfl, .one fun x t ht => ht.changed
      (fun agent => { agent with reservedBudget := agent.reservedBudget - amount })
      hexists ?_ ?_ x⟩
    · rfl
    · simp only [AgentColumns.ofRecord, AgentColumns.mk.injEq, true_and, and_true]
      push_cast [hle]
      omega
  | consumeBudget agentId amount recipient =>
    simp only [consumeBudget, bind_eq_ok, requireExistingAgent_eq_ok, revertIf_eq_ok,
      safeTransferValue_eq_ok, checkedSub_eq_ok, checkedAdd_eq_ok] at h
    obtain ⟨-, -, -, -, agent, ⟨hexists, rfl⟩, -, -, -, -, -, -, -, -, reserved, ⟨hreserved, rfl⟩,
      budget, ⟨hbudget, rfl⟩, spent, ⟨-, rfl⟩, -, rfl⟩ := h
    refine ⟨[], (List.append_nil _).symm,
      .imp fun t ht => ht.paid (k := agentId) hnumbered rfl hexists ?_ ?_⟩
    · rfl
    · simp only [AgentColumns.ofRecord, AgentColumns.mk.injEq, owedBy_cons, payer, payout,
        consumption, hnumbered agentId hexists, if_true, true_and, and_true]
      push_cast [hreserved, hbudget]
      omega
  | withdrawBudget agentId amount recipient =>
    simp only [withdrawBudget, bind_eq_ok, requireOperator_eq_ok, revertIf_eq_ok,
      safeTransferValue_eq_ok, checkedSub_eq_ok] at h
    obtain ⟨-, -, agent, ⟨hexists, -, rfl⟩, -, -, -, -, available, -, -, -, budget, ⟨hbudget, rfl⟩,
      -, rfl⟩ := h
    refine ⟨[], (List.append_nil _).symm,
      .imp fun t ht => ht.paid (k := agentId) hnumbered rfl hexists ?_ ?_⟩
    · rfl
    · simp only [AgentColumns.ofRecord, AgentColumns.mk.injEq, owedBy_cons, payer, payout,
        consumption, hnumbered agentId hexists, if_true, true_and, and_true]
      push_cast [hbudget]
      omega
  | setDepositsPaused paused =>
    obtain ⟨s, hrun, rfl⟩ := map_eq_ok.mp h
    simp only [setDepositsPaused, bind_eq_ok, pure_eq_ok, Except.ok.injEq] at hrun
    obtain ⟨-, -, rfl⟩ := hrun
    exact ⟨_, rfl, .one fun x t ht => ht⟩

end AgentRegistry

/-- A work reward tops up the budget of an agent, or of none. -/
theorem ClaimRewardVault.narrates_of_exec {ctx : Ctx} {claimRegistry : ClaimRegistry}
    {agentRegistry : AgentRegistry} {self : ClaimRewardVault} {call : Call}
    {o : Outcome (ClaimRewardVault × AgentRegistry) Pending}
    (h : self.exec ctx claimRegistry agentRegistry call = .ok o)
    (owed : List AgentRegistry.Pending) :
    ∃ new, o.state.2.logs = agentRegistry.logs ++ new ∧ Leads Subgraph.handleAgentRegistry
      (Subgraph.AgentsFollow agentRegistry.agents owed) new
      (Subgraph.AgentsFollow o.state.2.agents owed) := by
  have hsame : ∀ {o : Outcome (ClaimRewardVault × AgentRegistry) Pending},
      o.state.2 = agentRegistry → ∃ new, o.state.2.logs = agentRegistry.logs ++ new ∧
        Leads Subgraph.handleAgentRegistry (Subgraph.AgentsFollow agentRegistry.agents owed) new
          (Subgraph.AgentsFollow o.state.2.agents owed) := by
    intro o heq
    rw [heq]
    exact ⟨[], (List.append_nil _).symm, .refl _⟩
  simp only [exec, bind_eq_ok] at h
  obtain ⟨balance, -, h⟩ := h
  cases call with
  | fundClaimRewards claimId workKind =>
    obtain ⟨s, -, rfl⟩ := map_eq_ok.mp h
    exact hsame rfl
  | accrueWorkReward accrual =>
    obtain ⟨⟨s, ar⟩, hrun, rfl⟩ := map_eq_ok.mp h
    simp only [accrueWorkReward, bind_eq_ok] at hrun
    obtain ⟨-, -, -, -, -, -, s₁, -, hrun⟩ := hrun
    split at hrun
    next =>
      obtain ⟨⟨s₂, ar₂⟩, htop, heq⟩ := bind_eq_ok.mp hrun
      obtain ⟨rfl, rfl⟩ := Prod.mk.inj (Except.ok.inj heq)
      simp only [topUpBudget, bind_eq_ok, pure_eq_ok, Except.ok.injEq, Prod.mk.injEq] at htop
      obtain ⟨-, -, balance, -, ar', hfund, rfl, rfl⟩ := htop
      exact AgentRegistry.narrates_fundAgentBudget hfund owed
    next =>
      obtain ⟨rfl, rfl⟩ := Prod.mk.inj (Except.ok.inj hrun)
      exact hsame rfl
  | withdrawAccruedRewards amount recipient =>
    obtain ⟨o', -, rfl⟩ := map_eq_ok.mp h
    exact hsame (by rw [Outcome.state_map])
  | setDepositsPaused paused =>
    obtain ⟨s, -, rfl⟩ := map_eq_ok.mp h
    exact hsame rfl

namespace Subgraph

variable {D : Deployment} {c c' : Config World Suspended} {events : List ChainEvent}

/-! ### Agents along a stretch -/

/-- The payment a call of the agent registry waits with. -/
def payment? : Suspended → Option AgentRegistry.Pending
  | .agentRegistry p => some p
  | _ => none

/-- The payments that are owed to the log. -/
def payments (c : Config World Suspended) : List AgentRegistry.Pending :=
  Machine.waiting payment? c.frames

/-- The entities follow the registry and what it owes to the log. -/
def AgentsFollowed (c : Config World Suspended) : Table ℕ Agent → Prop :=
  AgentsFollow c.world.agentRegistry.agents (payments c)

def agentRegistry? : ChainEvent → Option AgentRegistry.Event
  | .agentRegistry event => some event
  | _ => none

theorem agents_of_message {m : Message} {w : World} {o : Outcome World Suspended}
    (hself : w.agentRegistry.Conserved) (h : World.exec D m w = .ok o)
    (owed : List AgentRegistry.Pending) :
    ∃ new, o.state.agentRegistry.logs = w.agentRegistry.logs ++ new ∧
      Leads handleAgentRegistry (AgentsFollow w.agentRegistry.agents owed) new
        (AgentsFollow o.state.agentRegistry.agents ((o.pending.bind payment?).toList ++ owed)) := by
  have hsame : ∀ {o : Outcome World Suspended}, o.state.agentRegistry = w.agentRegistry →
      o.pending.bind payment? = none → ∃ new,
        o.state.agentRegistry.logs = w.agentRegistry.logs ++ new ∧
        Leads handleAgentRegistry (AgentsFollow w.agentRegistry.agents owed) new
          (AgentsFollow o.state.agentRegistry.agents
            ((o.pending.bind payment?).toList ++ owed)) := by
    intro o hstate hpending
    rw [hstate, hpending]
    exact ⟨[], (List.append_nil _).symm, .refl _⟩
  unfold World.exec at h
  split at h
  case h_1 =>
    obtain rfl := Except.ok.inj h
    exact hsame rfl rfl
  case h_6 =>
    obtain ⟨o', hexec, rfl⟩ := map_eq_ok.mp h
    obtain ⟨new, hlogs, hleads⟩ := AgentRegistry.narrates_of_exec hself hexec owed
    cases o' <;> exact ⟨new, hlogs, hleads⟩
  case h_9 =>
    obtain ⟨o', hexec, rfl⟩ := map_eq_ok.mp h
    obtain ⟨new, hlogs, hleads⟩ := ClaimRewardVault.narrates_of_exec hexec owed
    cases o' <;> exact ⟨new, hlogs, hleads⟩
  -- Every other contract leaves the agents alone, and itself waiting, or nobody.
  all_goals
    obtain ⟨o', hexec, rfl⟩ := map_eq_ok.mp h
    first
    | exact hsame rfl rfl
    | cases o' <;> exact hsame rfl rfl

/-- **What is owed is told when its transfer is over.** -/
theorem agents_of_resume {self : AgentRegistry} (hself : self.Conserved)
    (p : AgentRegistry.Pending) (owed : List AgentRegistry.Pending) :
    ∃ new, (self.resume p).logs = self.logs ++ new ∧
      Leads handleAgentRegistry (AgentsFollow self.agents (p :: owed)) new
        (AgentsFollow (self.resume p).agents owed) := by
  have hnumbered : ∀ k, (self.agents k).agentId ≠ 0 → (self.agents k).agentId = k :=
    fun k hk => hself.numbered.idOf_eq rfl hk
  cases p with
  | consumeBudget sender agentId amount recipient =>
    refine ⟨_, rfl, .one fun x t ht => ht.told hnumbered
      (fun agent => { agent with
        reservedBudget := agent.reservedBudget - amount
        budgetBalance := agent.budgetBalance - amount
        spentBudget := agent.spentBudget + amount }) ?_ x⟩
    have hid := hnumbered agentId (ht.payers _ List.mem_cons_self)
    simp only [AgentColumns.ofRecord, AgentColumns.mk.injEq, owedBy_cons, payer, payout,
      consumption, hid, if_true, true_and, and_true]
    push_cast
    omega
  | withdrawBudget agentId amount recipient =>
    refine ⟨_, rfl, .one fun x t ht => ht.told hnumbered
      (fun agent => { agent with budgetBalance := agent.budgetBalance - amount }) ?_ x⟩
    have hid := hnumbered agentId (ht.payers _ List.mem_cons_self)
    simp only [AgentColumns.ofRecord, AgentColumns.mk.injEq, owedBy_cons, payer, payout,
      consumption, hid, if_true, true_and, and_true]
    push_cast
    omega

theorem agents_of_forward {a : Action Message Suspended} (hc : (protocol D).Reachable c)
    (h : (protocol D).Forward c a c') : ∃ new,
    c'.world.agentRegistry.logs = c.world.agentRegistry.logs ++ new ∧
      Leads handleAgentRegistry (AgentsFollowed c) new (AgentsFollowed c') := by
  have hself := AgentRegistry.conserved_of_reachable hc
  have hsame : c'.world.agentRegistry = c.world.agentRegistry → payments c' = payments c → ∃ new,
      c'.world.agentRegistry.logs = c.world.agentRegistry.logs ++ new ∧
        Leads handleAgentRegistry (AgentsFollowed c) new (AgentsFollowed c') := by
    intro heq hpayments
    rw [AgentsFollowed, AgentsFollowed, heq, hpayments]
    exact ⟨[], (List.append_nil _).symm, .refl _⟩
  rcases h.waiting_cases payment? with
    ⟨m, o, -, hexec, hworld, hwaiting⟩ | ⟨p, -, hworld, hwaiting⟩ | ⟨hwaiting, hrest⟩
  · obtain ⟨new, hlogs, hleads⟩ := agents_of_message hself hexec (payments c)
    rw [← hworld] at hlogs hleads
    rw [AgentsFollowed, AgentsFollowed, payments, payments, hwaiting]
    exact ⟨new, hlogs, hleads⟩
  · rcases p with p | p | p | p | p
    case agentRegistry =>
      obtain ⟨new, hlogs, hleads⟩ := agents_of_resume hself p (payments c')
      rw [AgentsFollowed, AgentsFollowed, payments, hwaiting, hworld]
      exact ⟨new, hlogs, hleads⟩
    all_goals exact hsame (by rw [hworld]; rfl) hwaiting.symm
  · refine hsame ?_ hwaiting
    rcases hrest with ⟨-, hworld⟩ | ⟨t, -, htick⟩
    · rw [hworld]
    · obtain ⟨-, hw⟩ := Option.ite_none_right_eq_some.mp htick
      rw [← Option.some.inj hw]

/-- **The agents along a stretch.** -/
theorem leads_agents (h : Emits D c events c') (hc : (protocol D).Reachable c) :
    Leads handleAgentRegistry (AgentsFollowed c) (events.filterMap agentRegistry?)
      (AgentsFollowed c') := by
  refine h.leads AgentsFollowed (fun {c a c'} hc hfwd => ?_) hc
  obtain ⟨new, hlogs, hleads⟩ := agents_of_forward hc hfwd
  rw [filterMap_emitted_agentRegistry hlogs fun e he => ?_]
  · exact (List.filterMap_some).symm ▸ hleads
  · unfold agentRegistry? at he
    split at he
    · exact ⟨_, rfl⟩
    · exact absurd rfl he

/-! ### The other registries along a stretch -/

def claimRegistry? : ChainEvent → Option ClaimRegistry.Event
  | .claimRegistry event => some event
  | _ => none

def artifactRegistry? : ChainEvent → Option ArtifactRegistry.Event
  | .artifactRegistry event => some event
  | _ => none

def replicationRegistry? : ChainEvent → Option ReplicationRegistry.Event
  | .replicationRegistry event => some event
  | _ => none

def reputationCheckpointRegistry? : ChainEvent → Option ReputationCheckpointRegistry.Event
  | .reputationCheckpointRegistry event => some event
  | _ => none

/-- **Claims and decisions along a stretch.** -/
theorem leads_claims (h : Emits D c events c') (hc : (protocol D).Reachable c) :
    Leads handleClaimRegistry c.world.claimRegistry.Followed (events.filterMap claimRegistry?)
      c'.world.claimRegistry.Followed := by
  refine h.leads (fun c => c.world.claimRegistry.Followed) (fun {c a c'} hc hfwd => ?_) hc
  have hindexed := (registries_indexed hc).1
  have hstep : ClaimRegistry.Narrates c.world.claimRegistry c'.world.claimRegistry := by
    have heffect := World.step_of_effect hfwd.effect
    generalize c.world = w at *
    generalize c'.world = w' at *
    cases heffect with
    | claimRegistry _ hexec => exact ClaimRegistry.narrates_of_exec hindexed hexec
    | resume p w => cases p <;> exact .refl _
    | _ => exact .refl _
  obtain ⟨new, hlogs, hleads⟩ := hstep
  rw [filterMap_emitted_claimRegistry hlogs fun e he => ?_]
  · exact (List.filterMap_some).symm ▸ hleads
  · unfold claimRegistry? at he
    split at he
    · exact ⟨_, rfl⟩
    · exact absurd rfl he

/-- **Artifacts along a stretch.** -/
theorem leads_artifacts (h : Emits D c events c') (hc : (protocol D).Reachable c) :
    Leads handleArtifactRegistry c.world.artifactRegistry.Followed
      (events.filterMap artifactRegistry?) c'.world.artifactRegistry.Followed := by
  refine h.leads (fun c => c.world.artifactRegistry.Followed) (fun {c a c'} hc hfwd => ?_) hc
  have hindexed := (records_indexed hc).1
  have hstep : ∃ new, c'.world.artifactRegistry.logs = c.world.artifactRegistry.logs ++ new ∧
      Leads handleArtifactRegistry c.world.artifactRegistry.Followed new
        c'.world.artifactRegistry.Followed := by
    have heffect := World.step_of_effect hfwd.effect
    generalize c.world = w at *
    generalize c'.world = w' at *
    cases heffect with
    | artifactRegistry _ hexec => exact ArtifactRegistry.narrates_of_exec hindexed hexec
    | resume p w => cases p <;> exact ⟨[], (List.append_nil _).symm, .refl _⟩
    | _ => exact ⟨[], (List.append_nil _).symm, .refl _⟩
  obtain ⟨new, hlogs, hleads⟩ := hstep
  rw [filterMap_emitted_artifactRegistry hlogs fun e he => ?_, List.filterMap_map]
  · exact (List.filterMap_some).symm ▸ hleads
  · unfold artifactRegistry? at he
    split at he
    · exact ⟨_, rfl⟩
    · exact absurd rfl he

/-- **Replications along a stretch.** -/
theorem leads_replications (h : Emits D c events c') (hc : (protocol D).Reachable c) :
    Leads handleReplicationRegistry c.world.replicationRegistry.Followed
      (events.filterMap replicationRegistry?) c'.world.replicationRegistry.Followed := by
  refine h.leads (fun c => c.world.replicationRegistry.Followed) (fun {c a c'} hc hfwd => ?_) hc
  have hnow := now_pos hc
  have hindexed := (registries_indexed hc).2
  have hstep : ∃ new,
      c'.world.replicationRegistry.logs = c.world.replicationRegistry.logs ++ new ∧
      Leads handleReplicationRegistry c.world.replicationRegistry.Followed new
        c'.world.replicationRegistry.Followed := by
    have heffect := World.step_of_effect hfwd.effect
    generalize c.world = w at *
    generalize c'.world = w' at *
    cases heffect with
    | replicationRegistry _ hexec =>
      exact ReplicationRegistry.narrates_of_exec hindexed hnow hexec
    | resume p w => cases p <;> exact ⟨[], (List.append_nil _).symm, .refl _⟩
    | _ => exact ⟨[], (List.append_nil _).symm, .refl _⟩
  obtain ⟨new, hlogs, hleads⟩ := hstep
  rw [filterMap_emitted_replicationRegistry hlogs fun e he => ?_, List.filterMap_map]
  · exact (List.filterMap_some).symm ▸ hleads
  · unfold replicationRegistry? at he
    split at he
    · exact ⟨_, rfl⟩
    · exact absurd rfl he

/-- **Checkpoints along a stretch.** -/
theorem leads_reputationCheckpoints (h : Emits D c events c') (hc : (protocol D).Reachable c) :
    Leads handleReputationCheckpointRegistry c.world.reputationCheckpointRegistry.Followed
      (events.filterMap reputationCheckpointRegistry?)
      c'.world.reputationCheckpointRegistry.Followed := by
  refine h.leads (fun c => c.world.reputationCheckpointRegistry.Followed)
    (fun {c a c'} hc hfwd => ?_) hc
  have hindexed := (records_indexed hc).2
  have hstep : ∃ new, c'.world.reputationCheckpointRegistry.logs =
      c.world.reputationCheckpointRegistry.logs ++ new ∧
      Leads handleReputationCheckpointRegistry c.world.reputationCheckpointRegistry.Followed new
        c'.world.reputationCheckpointRegistry.Followed := by
    have heffect := World.step_of_effect hfwd.effect
    generalize c.world = w at *
    generalize c'.world = w' at *
    cases heffect with
    | reputationCheckpointRegistry _ hexec =>
      exact ReputationCheckpointRegistry.narrates_of_exec hindexed hexec
    | resume p w => cases p <;> exact ⟨[], (List.append_nil _).symm, .refl _⟩
    | _ => exact ⟨[], (List.append_nil _).symm, .refl _⟩
  obtain ⟨new, hlogs, hleads⟩ := hstep
  rw [filterMap_emitted_reputationCheckpointRegistry hlogs fun e he => ?_, List.filterMap_map]
  · exact (List.filterMap_some).symm ▸ hleads
  · unfold reputationCheckpointRegistry? at he
    split at he
    · exact ⟨_, rfl⟩
    · exact absurd rfl he

/-! ### The index along a chain -/

/-- The events of one data source, with their contexts. -/
def eventsOf {E : Type} (said? : ChainEvent → Option E) (es : List SubgraphEvent) :
    List (EventContext × E) :=
  es.filterMap fun e => (said? e.2).map (Prod.mk e.1)

section

variable (es : List SubgraphEvent) (s : Store)

theorem claimRegistry_handleAll : (handleAll es s).claimRegistry =
    listen handleClaimRegistry (eventsOf claimRegistry? es) s.claimRegistry :=
  @part_foldl _ _ _ _ _ handle Store.claimRegistry claimRegistry? handleClaimRegistry
    (fun _ e => by rcases e with ⟨x, e⟩; cases e <;> rfl) es s

theorem artifacts_handleAll : (handleAll es s).artifacts =
    listen handleArtifactRegistry (eventsOf artifactRegistry? es) s.artifacts :=
  @part_foldl _ _ _ _ _ handle Store.artifacts artifactRegistry? handleArtifactRegistry
    (fun _ e => by rcases e with ⟨x, e⟩; cases e <;> rfl) es s

theorem replications_handleAll : (handleAll es s).replications =
    listen handleReplicationRegistry (eventsOf replicationRegistry? es) s.replications :=
  @part_foldl _ _ _ _ _ handle Store.replications replicationRegistry? handleReplicationRegistry
    (fun _ e => by rcases e with ⟨x, e⟩; cases e <;> rfl) es s

theorem reputationCheckpoints_handleAll : (handleAll es s).reputationCheckpoints =
    listen handleReputationCheckpointRegistry (eventsOf reputationCheckpointRegistry? es)
      s.reputationCheckpoints :=
  @part_foldl _ _ _ _ _ handle Store.reputationCheckpoints reputationCheckpointRegistry?
    handleReputationCheckpointRegistry (fun _ e => by rcases e with ⟨x, e⟩; cases e <;> rfl) es s

theorem agents_handleAll : (handleAll es s).agents =
    listen handleAgentRegistry (eventsOf agentRegistry? es) s.agents :=
  @part_foldl _ _ _ _ _ handle Store.agents agentRegistry? handleAgentRegistry
    (fun _ e => by rcases e with ⟨x, e⟩; cases e <;> rfl) es s

end

/-- **The index of a chain is the state of its contracts.** -/
theorem follows (C : Indexer.Chain D) (n : ℕ) {es : List SubgraphEvent}
    (h : es.map (fun e => ⟨e.1.blockNumber, e.2⟩) = C.logs 0 n) :
    Follows (handleAll es .empty) (C.world n) := by
  have hemits := C.emits (Nat.zero_le n)
  have hzero := C.reachable 0
  have hevents : es.map Prod.snd = (C.logs 0 n).map EventLog.event := by
    rw [← h, List.map_map]
    rfl
  have hof : ∀ {E : Type} (said? : ChainEvent → Option E), (eventsOf said? es).map Prod.snd =
      ((C.logs 0 n).map EventLog.event).filterMap said? := by
    intro E said?
    rw [eventsOf, map_snd_filterMap, hevents]
  obtain ⟨now, hasRole, -, -, hdeployed⟩ := C.deployed
  -- Before the first block there are no records.
  have hclaims : (C.world 0).claimRegistry.Followed ⟨.empty, .empty⟩ := by
    rw [hdeployed]
    exact ⟨(rowsOf_default rfl).symm, (rowsOf_default rfl).symm, fun _ _ => rfl⟩
  have hartifacts : (C.world 0).artifactRegistry.Followed .empty := by
    rw [hdeployed]
    exact (rowsOf_default rfl).symm
  have hreplications : (C.world 0).replicationRegistry.Followed .empty := by
    rw [hdeployed]
    exact (rowsOf_default rfl).symm
  have hcheckpoints : (C.world 0).reputationCheckpointRegistry.Followed .empty := by
    rw [hdeployed]
    exact (rowsOf_default rfl).symm
  have hagents : AgentsFollowed ⟨C.world 0, []⟩ .empty := by
    rw [AgentsFollowed, hdeployed]
    exact ⟨(rowsOf_default rfl).symm, fun _ hp => absurd hp List.not_mem_nil⟩
  have hclaims := leads_claims hemits hzero _ _ (hof claimRegistry?) hclaims
  exact
    { claims := by
        rw [claimRegistry_handleAll]
        exact hclaims.claims
      resolutionDecisions := by
        rw [claimRegistry_handleAll]
        exact hclaims.resolutionDecisions
      artifacts := by
        rw [artifacts_handleAll]
        exact leads_artifacts hemits hzero _ _ (hof artifactRegistry?) hartifacts
      replications := by
        rw [replications_handleAll]
        exact leads_replications hemits hzero _ _ (hof replicationRegistry?) hreplications
      reputationCheckpoints := by
        rw [reputationCheckpoints_handleAll]
        exact leads_reputationCheckpoints hemits hzero _ _ (hof reputationCheckpointRegistry?)
          hcheckpoints
      agents := by
        rw [agents_handleAll]
        exact (leads_agents hemits hzero _ _ (hof agentRegistry?) hagents).agents }

/-- The events of a devnet, with one caller and one second for each block. -/
def devnetEvents : List SubgraphEvent :=
  (devnetChain.logs 0 2).map fun log => (⟨log.blockNumber, log.blockNumber, 0xBB⟩, log.event)

theorem map_devnetEvents :
    devnetEvents.map (fun e => ⟨e.1.blockNumber, e.2⟩) = devnetChain.logs 0 2 := by
  rw [devnetEvents, List.map_map]
  exact List.map_id _

/-- Claim 1 is in the index with the decision that established it. -/
theorem follows_devnet : ((handleAll devnetEvents .empty).claimRegistry.claims.map
    Claim.toClaimColumns) 1 = some
      (.ofRecord (devnetChain.world 2).claimRegistry.effectiveClaimDecisionId
        ((devnetChain.world 2).claimRegistry.claims 1)) := by
  rw [(follows devnetChain 2 map_devnetEvents).claims]
  decide

end Subgraph

end ScientificProtocol
