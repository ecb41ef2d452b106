import ScientificProtocol.Agents.Conservation
import ScientificProtocol.Indexer.Emitted

/-!
# What the agent registry tells

An agent is told of whenever its record changes, though a payment out of its budget is told
of last, after a transfer that runs the recipient's code. Its controllers are told of when
the operator authorizes one or takes the authorization back. That the operator is a
controller of its own agent from the beginning is told by the registration alone.
-/

namespace ScientificProtocol

open Evm Indexer

namespace Indexer

/-- What an event says of a controller of an agent. -/
def ChainEvent.authorizes? (agentId : ℕ) (controller : Address) : ChainEvent → Option Bool
  | .agentRegistry (.agentControllerAuthorization agentId' controller' authorized) =>
    if agentId' = agentId ∧ controller' = controller then some authorized else none
  | _ => none

/-- The last word about a controller. -/
def lastAuthorization (events : List ChainEvent) (agentId : ℕ) (controller : Address) :
    Option Bool :=
  (events.filterMap (ChainEvent.authorizes? agentId controller)).getLast?

/-- Logs that authorize nobody. -/
def AuthorizesNobody (events : List ChainEvent) : Prop :=
  ∀ agentId controller, events.filterMap (ChainEvent.authorizes? agentId controller) = []

end Indexer

namespace AgentRegistry

/-- The agent a suspended call pays for. -/
def paying? : Suspended → Option ℕ
  | .agentRegistry (.consumeBudget _ agentId _ _) => some agentId
  | .agentRegistry (.withdrawBudget agentId _ _) => some agentId
  | _ => none

/-- **What a step does to the agents and their controllers**: the logs it adds, and the
payment it leaves waiting. -/
inductive Change (self : AgentRegistry) : List ChainEvent → Option ℕ → AgentRegistry → Prop
  | silent {events : List ChainEvent} {s : AgentRegistry} :
      events.filterMap ChainEvent.agentId? = [] → AuthorizesNobody events →
      s.agents = self.agents → s.controllers = self.controllers → Change self events none s
  | registered {events : List ChainEvent} {s : AgentRegistry} {agent : AgentRecord} :
      (∀ k, k ∈ events.filterMap ChainEvent.agentId? ↔ k = self.nextAgentId) →
      AuthorizesNobody events → self.agents self.nextAgentId = default →
      s.agents = self.agents.set self.nextAgentId agent → agent.agentId ≠ 0 →
      s.controllers = self.controllers.set self.nextAgentId
        ((self.controllers self.nextAgentId).set agent.operator true) →
      Change self events none s
  | authorized {s : AgentRegistry} {k : ℕ} {controller : Address} {isAuthorized : Bool} :
      (self.agents k).agentId ≠ 0 → s.agents = self.agents →
      s.controllers = self.controllers.set k ((self.controllers k).set controller isAuthorized) →
      Change self [.agentRegistry (.agentControllerAuthorization k controller isAuthorized)] none s
  /-- The record changes, and its operator stays. -/
  | changed {events : List ChainEvent} {s : AgentRegistry} {k : ℕ} {agent : AgentRecord} :
      events.filterMap ChainEvent.agentId? = [k] → AuthorizesNobody events →
      (self.agents k).agentId ≠ 0 → s.agents = self.agents.set k agent →
      agent.agentId = (self.agents k).agentId → agent.operator = (self.agents k).operator →
      s.controllers = self.controllers → Change self events none s
  /-- The payment is on its way, and nothing has been said yet. -/
  | paid {s : AgentRegistry} {k : ℕ} {agent : AgentRecord} :
      (self.agents k).agentId ≠ 0 → s.agents = self.agents.set k agent →
      agent.agentId = (self.agents k).agentId → agent.operator = (self.agents k).operator →
      s.controllers = self.controllers → Change self [] (some k) s

variable {ctx : Ctx} {self s : AgentRegistry}

theorem Change.refl (self : AgentRegistry) : Change self [] none self :=
  .silent rfl (fun _ _ => rfl) rfl rfl

/-- Whatever is registered stays so, and so does its operator. -/
theorem Change.operators {events : List ChainEvent}
    {waits : Option ℕ} (h : Change self events waits s) (k : ℕ) (hk : (self.agents k).agentId ≠ 0) :
    (s.agents k).agentId ≠ 0 ∧ (s.agents k).operator = (self.agents k).operator := by
  have hset : ∀ {k' : ℕ} {agent : AgentRecord}, s.agents = self.agents.set k' agent →
      agent.agentId = (self.agents k').agentId → agent.operator = (self.agents k').operator →
      (s.agents k).agentId ≠ 0 ∧ (s.agents k).operator = (self.agents k).operator := by
    intro k' agent heq hid hoperator
    rw [heq, Mapping.set_apply]
    split
    next hkk => exact ⟨by rw [hid, ← hkk]; exact hk, by rw [hoperator, ← hkk]⟩
    next => exact ⟨hk, rfl⟩
  cases h with
  | silent _ _ heq | authorized _ heq =>
    rw [heq]
    exact ⟨hk, rfl⟩
  | registered _ _ hblank heq =>
    have hne : k ≠ self.nextAgentId := by
      rintro rfl
      rw [hblank] at hk
      exact hk rfl
    rw [heq, Mapping.set_of_ne _ hne]
    exact ⟨hk, rfl⟩
  | changed _ _ _ heq hid hoperator => exact hset heq hid hoperator
  | paid _ heq hid hoperator => exact hset heq hid hoperator

/-- Topping a budget up changes the record and nothing else. -/
theorem change_of_fundAgentBudget {balance agentId : ℕ}
    (h : { self with balance }.fundAgentBudget ctx agentId = .ok s) :
    ∃ new, s.logs = self.logs ++ new ∧
      Change self (new.map ChainEvent.agentRegistry) none s := by
  simp only [fundAgentBudget, bind_eq_ok, revertIf_eq_ok, checkedAdd_eq_ok, pure_eq_ok,
    Except.ok.injEq] at h
  obtain ⟨-, -, -, -, -, hexists, -, -, budget, -, rfl⟩ := h
  exact ⟨_, rfl, .changed rfl (fun _ _ => rfl) hexists rfl rfl rfl rfl⟩

/-- **What a call does, and what its logs say.** -/
theorem change_of_exec {call : Call} {o : Outcome AgentRegistry Pending}
    (hself : self.Conserved) (h : self.exec ctx call = .ok o) :
    ∃ new, o.state.logs = self.logs ++ new ∧ Change self (new.map ChainEvent.agentRegistry)
      ((o.pending.map Suspended.agentRegistry).bind paying?) o.state := by
  simp only [exec, bind_eq_ok] at h
  obtain ⟨balance, -, h⟩ := h
  cases call with
  | registerAgent metadataHash uri spendLimit =>
    obtain ⟨⟨agentId, s⟩, hrun, rfl⟩ := map_eq_ok.mp h
    simp only [registerAgent, bind_eq_ok, checkedAdd_eq_ok, pure_eq_ok, Except.ok.injEq,
      Prod.mk.injEq] at hrun
    obtain ⟨-, -, next, -, rfl, rfl⟩ := hrun
    have hpos := hself.numbered.next_pos
    refine ⟨_, rfl, .registered (fun k => ?_) (fun k controller => ?_)
      hself.numbered.blank_next rfl hpos.ne' rfl⟩
    -- A registration with value is told of twice.
    · by_cases hvalue : ctx.value = 0 <;> simp [hvalue, ChainEvent.agentId?]
    · by_cases hvalue : ctx.value = 0 <;> simp [hvalue, ChainEvent.authorizes?]
  | authorizeController agentId controller authorized =>
    obtain ⟨s, hrun, rfl⟩ := map_eq_ok.mp h
    simp only [authorizeController, bind_eq_ok, requireOperator_eq_ok, pure_eq_ok,
      Except.ok.injEq] at hrun
    obtain ⟨agent, ⟨hexists, -, rfl⟩, rfl⟩ := hrun
    rw [hself.numbered.idOf_eq rfl hexists]
    exact ⟨_, rfl, .authorized hexists rfl rfl⟩
  | setSpendLimit agentId spendLimit =>
    obtain ⟨s, hrun, rfl⟩ := map_eq_ok.mp h
    simp only [setSpendLimit, bind_eq_ok, requireOperator_eq_ok, revertIf_eq_ok, pure_eq_ok,
      Except.ok.injEq] at hrun
    obtain ⟨agent, ⟨hexists, -, rfl⟩, committed, -, -, -, rfl⟩ := hrun
    exact ⟨_, rfl, .changed rfl (fun _ _ => rfl) hexists rfl rfl rfl rfl⟩
  | setAgentActive agentId active =>
    obtain ⟨s, hrun, rfl⟩ := map_eq_ok.mp h
    simp only [setAgentActive, bind_eq_ok, requireOperator_eq_ok, pure_eq_ok,
      Except.ok.injEq] at hrun
    obtain ⟨agent, ⟨hexists, -, rfl⟩, rfl⟩ := hrun
    exact ⟨_, rfl, .changed rfl (fun _ _ => rfl) hexists rfl rfl rfl rfl⟩
  | fundAgentBudget agentId =>
    obtain ⟨s, hrun, rfl⟩ := map_eq_ok.mp h
    exact change_of_fundAgentBudget hrun
  | reserveBudget agentId amount =>
    obtain ⟨s, hrun, rfl⟩ := map_eq_ok.mp h
    simp only [reserveBudget, bind_eq_ok, requireExistingAgent_eq_ok, revertIf_eq_ok, pure_eq_ok,
      Except.ok.injEq] at hrun
    obtain ⟨-, -, agent, ⟨hexists, rfl⟩, -, -, -, -, reserved, -, committed, -, -, -, -, -, rfl⟩ :=
      hrun
    exact ⟨_, rfl, .changed rfl (fun _ _ => rfl) hexists rfl rfl rfl rfl⟩
  | releaseBudget agentId amount =>
    obtain ⟨s, hrun, rfl⟩ := map_eq_ok.mp h
    simp only [releaseBudget, bind_eq_ok, requireExistingAgent_eq_ok, revertIf_eq_ok, pure_eq_ok,
      Except.ok.injEq] at hrun
    obtain ⟨-, -, agent, ⟨hexists, rfl⟩, -, -, -, -, reserved, -, rfl⟩ := hrun
    exact ⟨_, rfl, .changed rfl (fun _ _ => rfl) hexists rfl rfl rfl rfl⟩
  | consumeBudget agentId amount recipient =>
    simp only [consumeBudget, bind_eq_ok, requireExistingAgent_eq_ok, revertIf_eq_ok,
      safeTransferValue_eq_ok] at h
    obtain ⟨-, -, -, -, agent, ⟨hexists, rfl⟩, -, -, -, -, -, -, -, -, reserved, -, budget, -,
      spent, -, -, rfl⟩ := h
    exact ⟨[], (List.append_nil _).symm, .paid hexists rfl rfl rfl rfl⟩
  | withdrawBudget agentId amount recipient =>
    simp only [withdrawBudget, bind_eq_ok, requireOperator_eq_ok, revertIf_eq_ok,
      safeTransferValue_eq_ok] at h
    obtain ⟨-, -, agent, ⟨hexists, -, rfl⟩, -, -, -, -, available, -, -, -, budget, -, -, rfl⟩ := h
    exact ⟨[], (List.append_nil _).symm, .paid hexists rfl rfl rfl rfl⟩
  | setDepositsPaused paused =>
    obtain ⟨s, hrun, rfl⟩ := map_eq_ok.mp h
    simp only [setDepositsPaused, bind_eq_ok, pure_eq_ok, Except.ok.injEq] at hrun
    obtain ⟨-, -, rfl⟩ := hrun
    exact ⟨_, rfl, .silent rfl (fun _ _ => rfl) rfl rfl⟩

end AgentRegistry

/-- A work reward tops up the budget of an agent, or of none. -/
theorem ClaimRewardVault.change_of_exec {ctx : Ctx} {claimRegistry : ClaimRegistry}
    {agentRegistry : AgentRegistry} {self : ClaimRewardVault} {call : Call}
    {o : Outcome (ClaimRewardVault × AgentRegistry) Pending}
    (h : self.exec ctx claimRegistry agentRegistry call = .ok o) :
    ∃ new, o.state.2.logs = agentRegistry.logs ++ new ∧
      AgentRegistry.Change agentRegistry (new.map ChainEvent.agentRegistry) none o.state.2 := by
  have hsame : ∀ {o : Outcome (ClaimRewardVault × AgentRegistry) Pending},
      o.state.2 = agentRegistry → ∃ new, o.state.2.logs = agentRegistry.logs ++ new ∧
        AgentRegistry.Change agentRegistry (new.map ChainEvent.agentRegistry) none o.state.2 := by
    intro o heq
    rw [heq]
    exact ⟨[], (List.append_nil _).symm, .refl _⟩
  simp only [exec, bind_eq_ok] at h
  obtain ⟨balance, -, h⟩ := h
  cases call with
  | fundClaimRewards claimId workKind =>
    obtain ⟨s, -, rfl⟩ := map_eq_ok.mp h
    exact hsame rfl
  | accrueWorkReward accrual =>
    obtain ⟨⟨s, ar⟩, hrun, rfl⟩ := map_eq_ok.mp h
    simp only [accrueWorkReward, bind_eq_ok] at hrun
    obtain ⟨-, -, -, -, -, -, s₁, -, hrun⟩ := hrun
    split at hrun
    next =>
      obtain ⟨⟨s₂, ar₂⟩, htop, heq⟩ := bind_eq_ok.mp hrun
      obtain ⟨rfl, rfl⟩ := Prod.mk.inj (Except.ok.inj heq)
      simp only [topUpBudget, bind_eq_ok, pure_eq_ok, Except.ok.injEq, Prod.mk.injEq] at htop
      obtain ⟨-, -, balance, -, ar', hfund, rfl, rfl⟩ := htop
      exact AgentRegistry.change_of_fundAgentBudget hfund
    next =>
      obtain ⟨rfl, rfl⟩ := Prod.mk.inj (Except.ok.inj hrun)
      exact hsame rfl
  | withdrawAccruedRewards amount recipient =>
    obtain ⟨o', -, rfl⟩ := map_eq_ok.mp h
    exact hsame (by rw [Outcome.state_map])
  | setDepositsPaused paused =>
    obtain ⟨s, -, rfl⟩ := map_eq_ok.mp h
    exact hsame rfl

namespace Indexer

open AgentRegistry

variable {D : Deployment} {c c' : Config World Suspended}

/-- What a message does to the agents, and what its logs say. -/
theorem agents_of_exec {m : Message} {w : World} {o : Outcome World Suspended}
    (hself : w.agentRegistry.Conserved) (h : World.exec D m w = .ok o) :
    ∃ new, o.state.agentRegistry.logs = w.agentRegistry.logs ++ new ∧
      Change w.agentRegistry (new.map ChainEvent.agentRegistry)
        (o.pending.bind paying?) o.state.agentRegistry := by
  have hsame : ∀ {o : Outcome World Suspended}, o.state.agentRegistry = w.agentRegistry →
      o.pending.bind paying? = none → ∃ new,
        o.state.agentRegistry.logs = w.agentRegistry.logs ++ new ∧
        Change w.agentRegistry (new.map ChainEvent.agentRegistry) (o.pending.bind paying?)
          o.state.agentRegistry := by
    intro o hstate hpending
    rw [hstate, hpending]
    exact ⟨[], (List.append_nil _).symm, .refl _⟩
  unfold World.exec at h
  split at h
  case h_1 =>
    obtain rfl := Except.ok.inj h
    exact hsame rfl rfl
  case h_6 =>
    obtain ⟨o', hexec, rfl⟩ := map_eq_ok.mp h
    obtain ⟨new, hlogs, hchange⟩ := change_of_exec hself hexec
    cases o' <;> exact ⟨new, hlogs, hchange⟩
  case h_9 =>
    obtain ⟨o', hexec, rfl⟩ := map_eq_ok.mp h
    obtain ⟨new, hlogs, hchange⟩ := ClaimRewardVault.change_of_exec hexec
    cases o' <;> exact ⟨new, hlogs, hchange⟩
  -- Every other contract leaves the agents alone, and itself waiting, or nobody.
  all_goals
    obtain ⟨o', hexec, rfl⟩ := map_eq_ok.mp h
    first
    | exact hsame rfl rfl
    | cases o' <;> exact hsame rfl rfl

/-- The payments that wait for their transfer. -/
def paying (c : Config World Suspended) : List ℕ :=
  Machine.waiting paying? c.frames

/-- **What a step does to the agents and to the payments that wait**: one of the changes of
the registry, or the end of a payment. -/
inductive AgentsStep (c : Config World Suspended) (events : List ChainEvent)
    (c' : Config World Suspended) : Prop
  | change {waits : Option ℕ} :
      Change c.world.agentRegistry events waits c'.world.agentRegistry →
      paying c' = waits.toList ++ paying c → AgentsStep c events c'
  | finished {k : ℕ} : events.filterMap ChainEvent.agentId? = [k] → AuthorizesNobody events →
      c'.world.agentRegistry.agents = c.world.agentRegistry.agents →
      c'.world.agentRegistry.controllers = c.world.agentRegistry.controllers →
      paying c = k :: paying c' → AgentsStep c events c'

theorem agents_of_forward {a : Action Message Suspended} (hc : (protocol D).Reachable c)
    (h : (protocol D).Forward c a c') : ∃ new,
    c'.world.agentRegistry.logs = c.world.agentRegistry.logs ++ new ∧
      AgentsStep c (new.map ChainEvent.agentRegistry) c' := by
  have hsame : c'.world.agentRegistry = c.world.agentRegistry → paying c' = paying c → ∃ new,
      c'.world.agentRegistry.logs = c.world.agentRegistry.logs ++ new ∧
        AgentsStep c (new.map ChainEvent.agentRegistry) c' := fun heq hwaiting =>
    ⟨[], by rw [heq, List.append_nil],
      @AgentsStep.change _ _ _ none (heq ▸ Change.refl _) hwaiting⟩
  rcases h.waiting_cases paying? with
    ⟨m, o, -, hexec, hworld, hwaiting⟩ | ⟨p, -, hworld, hwaiting⟩ | ⟨hwaiting, hrest⟩
  · obtain ⟨new, hlogs, hchange⟩ := agents_of_exec (AgentRegistry.conserved_of_reachable hc) hexec
    rw [← hworld] at hlogs hchange
    exact ⟨new, hlogs, .change hchange hwaiting⟩
  · rcases p with p | p | p | p | p
    case agentRegistry =>
      cases p with
      | consumeBudget sender agentId amount recipient =>
        exact ⟨[.agentBudgetConsumed agentId amount recipient sender], by rw [hworld]; rfl,
          .finished rfl (fun _ _ => rfl) (by rw [hworld]; rfl) (by rw [hworld]; rfl) hwaiting⟩
      | withdrawBudget agentId amount recipient =>
        exact ⟨[.agentBudgetWithdrawn agentId amount recipient], by rw [hworld]; rfl,
          .finished rfl (fun _ _ => rfl) (by rw [hworld]; rfl) (by rw [hworld]; rfl) hwaiting⟩
    all_goals exact hsame (by rw [hworld]; rfl) hwaiting.symm
  · refine hsame ?_ hwaiting
    rcases hrest with ⟨-, hworld⟩ | ⟨t, -, htick⟩
    · rw [hworld]
    · obtain ⟨-, hw⟩ := Option.ite_none_right_eq_some.mp htick
      rw [← Option.some.inj hw]

/-- What logs say of the agents. -/
structure AgentsTold (before : Config World Suspended) (events : List ChainEvent)
    (after : Config World Suspended) : Prop where
  agents : Tells before.world.agentRegistry.agents (· ∈ paying before)
    (events.filterMap ChainEvent.agentId?) after.world.agentRegistry.agents (· ∈ paying after)
  /-- What is told of is registered. -/
  registered : ∀ k ∈ events.filterMap ChainEvent.agentId?,
    (after.world.agentRegistry.agents k).agentId ≠ 0
  /-- An operator is an operator for good. -/
  operators : ∀ k, (before.world.agentRegistry.agents k).agentId ≠ 0 →
    (after.world.agentRegistry.agents k).agentId ≠ 0 ∧
      (after.world.agentRegistry.agents k).operator =
        (before.world.agentRegistry.agents k).operator

theorem AgentsTold.refl (c : Config World Suspended) : AgentsTold c [] c where
  agents := .refl _ _
  registered := by simp
  operators _ hk := ⟨hk, rfl⟩

theorem AgentsTold.trans {c'' : Config World Suspended} {events events' : List ChainEvent}
    (h : AgentsTold c events c') (h' : AgentsTold c' events' c'') :
    AgentsTold c (events ++ events') c'' where
  agents := List.filterMap_append ▸ h.agents.trans h'.agents
  registered k hk := by
    rw [List.filterMap_append] at hk
    rcases List.mem_append.mp hk with hk | hk
    · exact (h'.operators k (h.registered k hk)).1
    · exact h'.registered k hk
  operators k hk := by
    obtain ⟨hk', hoperator⟩ := h.operators k hk
    obtain ⟨hk'', hoperator'⟩ := h'.operators k hk'
    exact ⟨hk'', hoperator'.trans hoperator⟩

/-- **Only a registered agent pays.** -/
theorem registered_of_paying (hc : (protocol D).Reachable c) :
    ∀ k ∈ paying c, (c.world.agentRegistry.agents k).agentId ≠ 0 := by
  obtain ⟨tr, hrun⟩ := hc.exists_run
  clear hc
  induction hrun with
  | genesis _ => simp [paying, Machine.waiting]
  | @snoc tr c c' a hrun hfwd ih =>
    obtain ⟨new, -, hstep⟩ := agents_of_forward hrun.reachable hfwd
    generalize new.map ChainEvent.agentRegistry = events at hstep
    intro k hk
    cases hstep with
    | @change waits hchange hwaits =>
      rw [hwaits] at hk
      rcases List.mem_append.mp hk with hnew | hold
      · cases hchange with
        | paid hexists heq hid =>
          obtain rfl := List.mem_singleton.mp hnew
          rwa [heq, Mapping.set_self, hid]
        | _ => exact absurd hnew List.not_mem_nil
      · exact (hchange.operators k (ih k hold)).1
    | finished _ _ hagents _ hwaits =>
      rw [hagents]
      exact ih k (hwaits ▸ List.mem_cons_of_mem _ hk)

/-- What a step says of the agents. -/
theorem agentsTold_of_step {events : List ChainEvent} (hc : (protocol D).Reachable c)
    (h : AgentsStep c events c') : AgentsTold c events c' := by
  cases h with
  | @change waits hchange hwaits =>
    refine ⟨?_, ?_, hchange.operators⟩
    · cases hchange with
      | silent hnone _ heq =>
        have hwaits : paying c' = paying c := hwaits
        rw [hnone]
        exact .same (fun k => by rw [heq]) fun k hk => hwaits ▸ hk
      | registered hid _ _ heq =>
        have hwaits : paying c' = paying c := hwaits
        refine ⟨fun k => ?_, fun k hk => .inl (hwaits ▸ hk)⟩
        by_cases hk : k = c.world.agentRegistry.nextAgentId
        · exact .inr (.inr ((hid k).mpr hk))
        · exact .inl (by rw [heq, Mapping.set_of_ne _ hk])
      | authorized _ heq =>
        have hwaits : paying c' = paying c := hwaits
        exact .one (fun k _ => by rw [heq]) fun k _ hk => hwaits ▸ hk
      | changed hid _ _ heq =>
        have hwaits : paying c' = paying c := hwaits
        rw [hid]
        exact .one (fun k hk => by rw [heq, Mapping.set_of_ne _ hk]) fun k _ hk => hwaits ▸ hk
      | @paid _ k _ _ heq =>
        have hwaits : paying c' = k :: paying c := hwaits
        rw [hwaits]
        refine ⟨fun k' => ?_, fun k' hk' => .inl (List.mem_cons_of_mem _ hk')⟩
        by_cases hk : k' = k
        · exact .inr (.inl (hk ▸ List.mem_cons_self))
        · exact .inl (by rw [heq, Mapping.set_of_ne _ hk])
    · intro k hk
      cases hchange with
      | silent hnone => simp [hnone] at hk
      | registered hid _ _ heq hne =>
        obtain rfl := (hid k).mp hk
        rwa [heq, Mapping.set_self]
      | @authorized _ k' _ _ hexists heq =>
        obtain rfl := List.mem_singleton.mp hk
        rwa [heq]
      | changed hid _ hexists heq hid' =>
        rw [hid] at hk
        obtain rfl := List.mem_singleton.mp hk
        rwa [heq, Mapping.set_self, hid']
      | paid => simp at hk
  | @finished k hid _ hagents _ hwaits =>
    refine ⟨?_, fun k' hk' => ?_, fun k' hk' => by rw [hagents]; exact ⟨hk', rfl⟩⟩
    · rw [hid, hagents]
      refine .one (fun _ _ => rfl) fun k' hne hk' => ?_
      rw [hwaits] at hk'
      exact (List.mem_cons.mp hk').resolve_left hne
    · rw [hid] at hk'
      obtain rfl := List.mem_singleton.mp hk'
      rw [hagents]
      exact registered_of_paying hc k' (hwaits ▸ List.mem_cons_self)

/-- What a step says of the agents is in its logs. -/
theorem agents_emitted {new : List AgentRegistry.Event}
    (hlogs : c'.world.agentRegistry.logs = c.world.agentRegistry.logs ++ new) :
    (emitted c.world c'.world).filterMap ChainEvent.agentId? =
        (new.map ChainEvent.agentRegistry).filterMap ChainEvent.agentId? ∧
      ∀ k controller, (emitted c.world c'.world).filterMap (ChainEvent.authorizes? k controller) =
        (new.map ChainEvent.agentRegistry).filterMap (ChainEvent.authorizes? k controller) := by
  refine ⟨?_, fun k controller => ?_⟩ <;> rw [List.filterMap_map] <;>
    refine filterMap_emitted_agentRegistry hlogs fun e he => ?_
  · cases e <;> simp_all [ChainEvent.agentId?]
  · cases e <;> simp_all [ChainEvent.authorizes?]

/-- **What a stretch tells of the agents.** -/
theorem Emits.agents {events : List ChainEvent} (h : Emits D c events c')
    (hc : (protocol D).Reachable c) : AgentsTold c events c' := by
  refine h.relation (Q := AgentsTold) .refl .trans (fun {c a c'} hc hfwd => ?_) hc
  obtain ⟨new, hlogs, hstep⟩ := agents_of_forward hc hfwd
  obtain ⟨hid, -⟩ := agents_emitted hlogs
  obtain ⟨hagents, hregistered, hoperators⟩ := agentsTold_of_step hc hstep
  exact ⟨hid ▸ hagents, hid ▸ hregistered, hoperators⟩

/-! ### Controllers -/

/-- **The controllers of an agent are what was said of them last**, and before anything was,
the operator. -/
def Controlled (events : List ChainEvent) (s : AgentRegistry) : Prop :=
  ∀ k controller, s.controllers k controller = (lastAuthorization events k controller).getD
    (decide ((s.agents k).agentId ≠ 0 ∧ controller = (s.agents k).operator))

theorem lastAuthorization_append {events events' : List ChainEvent} (k : ℕ)
    (controller : Address) : lastAuthorization (events ++ events') k controller =
      (lastAuthorization events' k controller).or (lastAuthorization events k controller) := by
  rw [lastAuthorization, List.filterMap_append, List.getLast?_append]
  rfl

/-- Whoever is authorized is a controller of a registered agent. -/
theorem mem_agentIds_of_lastAuthorization {events : List ChainEvent} {k : ℕ}
    {controller : Address} (h : lastAuthorization events k controller ≠ none) :
    k ∈ events.filterMap ChainEvent.agentId? := by
  obtain ⟨authorized, hlast⟩ := Option.ne_none_iff_exists'.mp h
  obtain ⟨e, he, hauthorizes⟩ := List.mem_filterMap.mp (List.mem_of_getLast? hlast)
  unfold ChainEvent.authorizes? at hauthorizes
  split at hauthorizes
  next heq =>
    obtain ⟨⟨rfl, -⟩, -⟩ := Option.ite_none_right_eq_some.mp hauthorizes
    exact List.mem_filterMap.mpr ⟨_, he, rfl⟩
  next => exact absurd hauthorizes (by simp)

theorem lastAuthorization_of_nobody {events : List ChainEvent} (h : AuthorizesNobody events)
    (k : ℕ) (controller : Address) : lastAuthorization events k controller = none := by
  rw [lastAuthorization, h k controller]
  rfl

theorem lastAuthorization_singleton (k k' : ℕ) (controller controller' : Address)
    (authorized : Bool) :
    lastAuthorization [.agentRegistry (.agentControllerAuthorization k controller authorized)] k'
      controller' = if k = k' ∧ controller = controller' then some authorized else none := by
  unfold lastAuthorization
  split
  next h => simp [ChainEvent.authorizes?, h]
  next h => simp [ChainEvent.authorizes?, h]

/-- Logs that authorize nobody leave the controllers as they were said to be. -/
theorem Controlled.nobody {self s : AgentRegistry} {told events : List ChainEvent}
    (h : Controlled told self) (hevents : AuthorizesNobody events)
    (hagents : ∀ k, (s.agents k).agentId = (self.agents k).agentId ∧
      (s.agents k).operator = (self.agents k).operator)
    (hcontrollers : s.controllers = self.controllers) : Controlled (told ++ events) s := by
  intro k controller
  rw [lastAuthorization_append, lastAuthorization_of_nobody hevents, Option.none_or, hcontrollers,
    (hagents k).1, (hagents k).2]
  exact h k controller

/-- **A change of the registry and its logs.** -/
theorem Controlled.change {self s : AgentRegistry} {told events : List ChainEvent}
    {waits : Option ℕ} (h : Controlled told self)
    (htold : ∀ k ∈ told.filterMap ChainEvent.agentId?, (self.agents k).agentId ≠ 0)
    (hchange : Change self events waits s) : Controlled (told ++ events) s := by
  have hset : ∀ {k : ℕ} {agent : AgentRecord}, s.agents = self.agents.set k agent →
      agent.agentId = (self.agents k).agentId → agent.operator = (self.agents k).operator →
      ∀ k', (s.agents k').agentId = (self.agents k').agentId ∧
        (s.agents k').operator = (self.agents k').operator := by
    intro k agent heq hid hoperator k'
    rw [heq, Mapping.set_apply]
    split
    next hk => exact ⟨hk ▸ hid, hk ▸ hoperator⟩
    next => exact ⟨rfl, rfl⟩
  cases hchange with
  | silent _ hnobody hagents hcontrollers =>
    exact h.nobody hnobody (fun k => by rw [hagents]; exact ⟨rfl, rfl⟩) hcontrollers
  | changed _ hnobody _ heq hid hoperator hcontrollers =>
    exact h.nobody hnobody (hset heq hid hoperator) hcontrollers
  | paid _ heq hid hoperator hcontrollers =>
    exact h.nobody (fun _ _ => rfl) (hset heq hid hoperator) hcontrollers
  | @registered _ _ agent _ hnobody hblank heq hne hcontrollers =>
    intro k controller
    rw [lastAuthorization_append, lastAuthorization_of_nobody hnobody, Option.none_or,
      hcontrollers, heq]
    by_cases hk : k = self.nextAgentId
    -- Nothing has been said of the new agent, and nobody was its controller.
    · subst hk
      have hnone : lastAuthorization told self.nextAgentId controller = none := by
        by_contra hsome
        have hexists := htold _ (mem_agentIds_of_lastAuthorization hsome)
        rw [hblank] at hexists
        exact hexists rfl
      have hold := h self.nextAgentId controller
      rw [hnone, hblank] at hold
      have hold : self.controllers self.nextAgentId controller = false := hold.trans rfl
      rw [hnone, Mapping.set_self, Mapping.set_self, Mapping.set_apply, hold]
      by_cases hoperator : controller = agent.operator <;> simp [hoperator, hne]
    · rw [Mapping.set_of_ne _ hk, Mapping.set_of_ne _ hk]
      exact h k controller
  | @authorized _ k controller isAuthorized hexists heq hcontrollers =>
    intro k' controller'
    rw [lastAuthorization_append, lastAuthorization_singleton, hcontrollers, heq]
    by_cases hk : k' = k
    · subst hk
      rw [Mapping.set_self, Mapping.set_apply]
      by_cases hcontroller : controller' = controller
      · simp [hcontroller]
      · rw [if_neg hcontroller, if_neg fun hboth => hcontroller hboth.2.symm, Option.none_or]
        exact h k' controller'
    · rw [Mapping.set_of_ne _ hk, if_neg fun hboth => hk hboth.1.symm, Option.none_or]
      exact h k' controller'

/-- **What the logs say of the controllers is what the registry has.** -/
theorem Emits.controllers {w : World} {events : List ChainEvent} (hw : (protocol D).genesis w)
    (h : Emits D ⟨w, []⟩ events c') : Controlled events c'.world.agentRegistry := by
  have hc : (protocol D).Reachable ⟨w, []⟩ := .genesis hw
  induction h with
  | refl =>
    obtain ⟨now, hasRole, -, -, rfl⟩ := hw
    intro k controller
    rfl
  | @snoc c₁ c₂ told a hemits hfwd ih =>
    obtain ⟨new, hlogs, hstep⟩ := agents_of_forward (hemits.reachable hc) hfwd
    obtain ⟨-, hauthorizes⟩ := agents_emitted hlogs
    have hemitted : Controlled (told ++ new.map ChainEvent.agentRegistry)
        c₂.world.agentRegistry := by
      have htold := (Emits.agents hemits hc).registered
      cases hstep with
      | change hchange => exact ih.change htold hchange
      | finished _ hnobody hagents hcontrollers =>
        exact ih.nobody hnobody (fun k => by rw [hagents]; exact ⟨rfl, rfl⟩) hcontrollers
    intro k controller
    rw [hemitted k controller, lastAuthorization_append, lastAuthorization_append]
    unfold lastAuthorization
    rw [hauthorizes k controller]

end Indexer

end ScientificProtocol
