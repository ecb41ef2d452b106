import ScientificProtocol.Resolver.Engine

/-!
# What a submitted run has done

The row of a run is written before anything is sent, and marked after everything has been
executed, in commits of their own, so that a row can be behind the chain. It is never ahead
of it, and never at odds with it: **whatever else happens, a run that is marked as submitted
is the one that has resolved its replication**
(`ScientificProtocol.Resolver.submitted_agrees`). The replication has the result of the row,
by the resolver of the row, and the claim of the row has a decision that says the same. No
other row is about that replication, so no two runs of the resolver can both claim to have
resolved it.
-/

namespace ScientificProtocol.Resolver

open Evm Concurrency Sql

/-! ### What a row says -/

/-- A replication that is resolved as a row says. -/
structure ResolutionRun.ResolvedAs (run : ResolutionRun) (record : ReplicationRecord) : Prop where
  resolvedAt : record.resolvedAt ≠ 0
  resolver : record.resolver = run.resolver
  resolutionStatus : record.resolutionStatus = run.resolutionStatus
  confidenceBps : record.confidenceBps = run.confidenceBps
  resolverType : record.resolverType = run.resolverType
  resolutionHash : record.resolutionHash = run.resolutionHash
  evidenceHash : record.resolutionEvidenceHash = run.evidenceHash
  evidenceURI : record.resolutionEvidenceURI = run.evidenceURI

/-- A decision that says what a row says. -/
structure ResolutionRun.DecidedAs (run : ResolutionRun) (decision : ResolutionDecision) :
    Prop where
  exists_ : decision.decisionId ≠ 0
  claimId : Js.bigInt run.claimId = some decision.claimId
  replicationId : Js.bigInt run.replicationId = some decision.replicationId
  status : decision.status = run.resolutionStatus
  confidenceBps : decision.confidenceBps = run.confidenceBps
  resolverType : decision.resolverType = run.resolverType
  resolutionHash : decision.resolutionHash = run.resolutionHash
  evidenceHash : decision.evidenceHash = run.evidenceHash

/-- The replication of a row is resolved as the row says. -/
def ResolutionRun.Resolved (run : ResolutionRun) (w : World) : Prop :=
  ∃ replicationId, Js.bigInt run.replicationId = some replicationId ∧
    run.ResolvedAs (w.replicationRegistry.replications replicationId)

/-- There is a decision that says what a row says. -/
def ResolutionRun.Decided (run : ResolutionRun) (w : World) : Prop :=
  ∃ decisionId, run.DecidedAs (w.claimRegistry.decisions decisionId)

namespace ResolutionRun

variable {run : ResolutionRun} {w w' : World}

theorem Resolved.extend (h : run.Resolved w) (hextends : HistoryExtends w w') :
    run.Resolved w' := by
  obtain ⟨replicationId, hid, hrecord⟩ := h
  exact ⟨replicationId, hid, hextends.replication replicationId hrecord.resolvedAt ▸ hrecord⟩

theorem Decided.extend (h : run.Decided w) (hextends : HistoryExtends w w') :
    run.Decided w' := by
  obtain ⟨decisionId, hdecision⟩ := h
  exact ⟨decisionId, hextends.decision decisionId hdecision.exists_ ▸ hdecision⟩

end ResolutionRun

/-! ### What a transaction does -/

section

variable {D : Deployment} {c : Evm.Config World Suspended} {w w' : World}
  {reply : ModuleReply} {task : ResolutionTask}

/-- A task that is what its row says. -/
structure ResolutionTask.WellFormed (task : ResolutionTask) : Prop where
  claimId : Js.bigInt task.input.claimId = some task.claimId
  replicationId : Js.bigInt task.input.replicationId = some task.replicationId
  status : task.input.status = .prepared

/-- **The second transaction** resolves the replication as the row says. -/
theorem resolved_of_exec (htask : task.WellFormed) (hnow : 0 < w.now)
    (h : World.exec D (message task.input.resolver reply (.replicationRegistry
      (.resolveReplicationOutcome task.replicationId task.input.result))) w = .ok (.done w')) :
    task.input.Resolved w' := by
  have hstep := World.step_of_exec h
  rw [Outcome.state_done] at hstep
  generalize hm : message task.input.resolver reply (.replicationRegistry
    (.resolveReplicationOutcome task.replicationId task.input.result)) = m at hstep
  have htarget : m.target = .replicationRegistry
      (.resolveReplicationOutcome task.replicationId task.input.result) := hm ▸ rfl
  have hsender : m.sender = task.input.resolver := hm ▸ rfl
  cases hstep with
  | replicationRegistry htarget' hexec =>
    obtain rfl := Target.replicationRegistry.inj (htarget'.symm.trans htarget)
    have hcall := ReplicationRegistry.step_of_exec hexec
    cases hcall with
    | resolveReplicationOutcome =>
      refine ⟨task.replicationId, htask.replicationId, ?_⟩
      rw [Mapping.set_self]
      exact
        { resolvedAt := hnow.ne'
          resolver := hsender
          resolutionStatus := rfl
          confidenceBps := rfl
          resolverType := rfl
          resolutionHash := rfl
          evidenceHash := rfl
          evidenceURI := rfl }
  | _ htarget' => exact absurd (htarget'.symm.trans htarget) (by simp)

/-- **The third transaction** records a decision that says what the row says. -/
theorem decided_of_exec (htask : task.WellFormed)
    (hindexed : w.claimRegistry.Indexed) (hresolved : task.input.Resolved w)
    (h : World.exec D (message task.input.resolver reply (.claimRegistry
      (.finalizeClaimResolution task.claimId task.replicationId))) w = .ok (.done w')) :
    task.input.Decided w' := by
  obtain ⟨replicationId, hid, hrecord⟩ := hresolved
  obtain rfl := Option.some.inj (hid.symm.trans htask.replicationId)
  have hstep := World.step_of_exec h
  rw [Outcome.state_done] at hstep
  generalize hm : message task.input.resolver reply (.claimRegistry
    (.finalizeClaimResolution task.claimId task.replicationId)) = m at hstep
  have htarget : m.target = .claimRegistry
      (.finalizeClaimResolution task.claimId task.replicationId) := hm ▸ rfl
  cases hstep with
  | claimRegistry htarget' hexec =>
    obtain rfl := Target.claimRegistry.inj (htarget'.symm.trans htarget)
    have hcall := ClaimRegistry.step_of_exec hexec
    change ClaimRegistry.Step _ _ _ _ _ _
      (.finalizeClaimResolution task.claimId task.replicationId) _ at hcall
    cases hcall with
    | @finalizeClaimResolution _ _ decision _ _ _ _ _ _ _ _ _ _ _ hdecision =>
      refine ⟨decision.decisionId, ?_⟩
      simp only [ClaimRegistry.withDecision_decisions, Mapping.set_self]
      rw [hdecision]
      exact
        { exists_ := hindexed.decisions.next_pos.ne'
          claimId := htask.claimId
          replicationId := hid
          status := hrecord.resolutionStatus
          confidenceBps := hrecord.confidenceBps
          resolverType := hrecord.resolverType
          resolutionHash := hrecord.resolutionHash
          evidenceHash := hrecord.evidenceHash }
  | _ htarget' => exact absurd (htarget'.symm.trans htarget) (by simp)

end

/-! ### What an action does -/

/-- The row a run answers for. -/
def Resolution.runId? : Resolution → Option ℕ
  | .underWay runId _ _ _ _ => some runId
  | _ => none

/-- **What an action of a run does** to the table, to the chain, and to the run. -/
inductive ResolutionEffect (D : Deployment) (s : ResolverSite) :
    Resolution → ResolverSite → Resolution → Prop
  /-- It has no row yet, and comes to none. -/
  | read {p p' : Resolution} : p'.runId? = none →
      (∀ task, p' = .proposed task → task.WellFormed) →
      ResolutionEffect D s p s p'
  | insert {task : ResolutionTask} {runId : ℕ} {runs : Serial ResolutionRun} :
      insertResolutionRun s.runs task.input = some (runId, runs) →
      ResolutionEffect D s (.proposed task) { s with runs }
        (.underWay runId task .trying .move false)
  /-- It goes on, or gives up. -/
  | work {runId : ℕ} {task : ResolutionTask} {stage stage' : ResolutionStage}
      {phase phase' : ResolutionPhase} {inFlight inFlight' : Bool} :
      phase' = phase ∨ phase' = .resolve →
      ResolutionEffect D s (.underWay runId task stage phase inFlight) s
        (.underWay runId task stage' phase' inFlight')
  | mined {runId : ℕ} {task : ResolutionTask} {stage : ResolutionStage} {phase : ResolutionPhase}
      {reply : ModuleReply} {target : Target} {w : World} : task.target phase = some target →
      World.exec D (message task.input.resolver reply target) s.chain.world = .ok (.done w) →
      s.chain.frames = [] →
      ResolutionEffect D s (.underWay runId task stage phase true)
        { s with chain := ⟨w, []⟩ } (.underWay runId task stage phase.next false)
  | submitted {runId : ℕ} {task : ResolutionTask} {stage : ResolutionStage} :
      ResolutionEffect D s (.underWay runId task .trying .done false)
        { s with runs := markResolutionRunSubmitted s.runs runId }
        (.underWay runId task stage .done false)
  | failed {runId : ℕ} {task : ResolutionTask} {phase : ResolutionPhase} {inFlight : Bool}
      {failureReason : String} :
      ResolutionEffect D s (.underWay runId task .failing phase inFlight)
        { s with runs := markResolutionRunFailed s.runs runId failureReason }
        (.underWay runId task .over phase inFlight)

section

variable {D : Deployment} {resolutionHash : ResolutionHash} {s s' : ResolverSite}
  {p p' : Resolution} {a : ResolutionAction}

theorem effect_of_mineTx {runId : ℕ} {task : ResolutionTask} {stage : ResolutionStage}
    {phase : ResolutionPhase} {reply : ModuleReply} {target : Target}
    (htarget : task.target phase = some target)
    (h : mineTx D runId task stage phase reply target s = some (s', p')) :
    ResolutionEffect D s (.underWay runId task stage phase true) s' p' := by
  unfold mineTx at h
  split at h
  next hframes hexec =>
    obtain ⟨rfl, rfl⟩ := Prod.mk.inj (Option.some.inj h)
    exact .mined htarget hexec hframes
  next =>
    obtain ⟨rfl, rfl⟩ := Prod.mk.inj (Option.some.inj h)
    exact .work (.inl rfl)
  next => exact absurd h (by simp)

theorem effect_of_underWayAct {runId : ℕ} {task : ResolutionTask} {stage : ResolutionStage}
    {phase : ResolutionPhase} {inFlight : Bool}
    (h : underWayAct D runId task s a stage phase inFlight = some (s', p')) :
    ResolutionEffect D s (.underWay runId task stage phase inFlight) s' p' := by
  unfold underWayAct at h
  split at h
  next =>
    split at h
    next =>
      obtain ⟨rfl, rfl⟩ := Prod.mk.inj (Option.some.inj h)
      exact .work (.inr rfl)
    next =>
      obtain ⟨-, h⟩ := Option.ite_none_left_eq_some.mp h
      obtain ⟨rfl, rfl⟩ := Prod.mk.inj (Option.some.inj h)
      exact .work (.inl rfl)
  next =>
    obtain ⟨target, htarget, hmine⟩ := Option.bind_eq_some_iff.mp h
    exact effect_of_mineTx htarget hmine
  next =>
    obtain ⟨rfl, rfl⟩ := Prod.mk.inj (Option.some.inj h)
    exact .work (.inl rfl)
  next =>
    obtain ⟨rfl, rfl⟩ := Prod.mk.inj (Option.some.inj h)
    exact .work (.inl rfl)
  next =>
    obtain ⟨rfl, rfl⟩ := Prod.mk.inj (Option.some.inj h)
    exact .submitted
  next =>
    obtain ⟨rfl, rfl⟩ := Prod.mk.inj (Option.some.inj h)
    exact .failed
  next =>
    obtain ⟨rfl, rfl⟩ := Prod.mk.inj (Option.some.inj h)
    exact .work (.inl rfl)
  next => exact absurd h (by simp)

/-- **Every action of a run has one of the effects above.** -/
theorem effect_of_act (h : resolutionAct resolutionHash D a s p = some (s', p')) :
    ResolutionEffect D s p s' p' := by
  have hstopped : some (s, Resolution.stopped) = some (s', p') →
      ResolutionEffect D s p s' p' := by
    intro h
    obtain ⟨rfl, rfl⟩ := Prod.mk.inj (Option.some.inj h)
    exact .read rfl fun _ => nofun
  cases p with
  | idle =>
    simp only [resolutionAct] at h
    split at h
    next job =>
      split at h
      next =>
        obtain ⟨rfl, rfl⟩ := Prod.mk.inj (Option.some.inj h)
        exact .read rfl fun _ => nofun
      next => exact hstopped h
    next => exact absurd h (by simp)
  | admitted job replicationId =>
    simp only [resolutionAct] at h
    split at h
    next =>
      split at h
      next => exact hstopped h
      next =>
        obtain ⟨rfl, rfl⟩ := Prod.mk.inj (Option.some.inj h)
        exact .read rfl fun _ => nofun
    next => exact hstopped h
    next => exact hstopped h
    next => exact absurd h (by simp)
  | checked job replicationId =>
    simp only [resolutionAct] at h
    split at h
    next resolver options rationaleArtifactKey =>
      split at h
      next claimId replicationNumber hclaim hreplication =>
        split at h
        next claimRecord _ =>
          obtain ⟨rfl, rfl⟩ := Prod.mk.inj (Option.some.inj h)
          refine .read rfl fun task htask => ?_
          obtain rfl := Resolution.proposed.inj htask
          exact ⟨hclaim, hreplication, rfl⟩
        next => exact hstopped h
      next => exact hstopped h
    next => exact hstopped h
    next => exact hstopped h
    next => exact absurd h (by simp)
  | proposed task =>
    simp only [resolutionAct] at h
    split at h
    next =>
      split at h
      next runId runs hinsert =>
        obtain ⟨rfl, rfl⟩ := Prod.mk.inj (Option.some.inj h)
        exact .insert hinsert
      next => exact hstopped h
    next => exact hstopped h
    next => exact hstopped h
    next => exact absurd h (by simp)
  | stopped => exact absurd h (by simp [resolutionAct])
  | underWay runId task stage phase inFlight => exact effect_of_underWayAct h

end

/-! ### The invariant -/

/-- A row that a run has inserted, however it has been marked. -/
def ResolutionTask.IsRowOf (task : ResolutionTask) (run : ResolutionRun) : Prop :=
  ∃ status failureReason, run = { task.input with status, failureReason }

/-- A row says what its task says. -/
theorem ResolutionTask.IsRowOf.resolved {task : ResolutionTask} {run : ResolutionRun} {w : World}
    (h : task.IsRowOf run) (hresolved : task.input.Resolved w) : run.Resolved w := by
  obtain ⟨status, failureReason, rfl⟩ := h
  obtain ⟨replicationId, hid, hrecord⟩ := hresolved
  exact ⟨replicationId, hid, hrecord.1, hrecord.2, hrecord.3, hrecord.4, hrecord.5, hrecord.6,
    hrecord.7, hrecord.8⟩

theorem ResolutionTask.IsRowOf.decided {task : ResolutionTask} {run : ResolutionRun} {w : World}
    (h : task.IsRowOf run) (hdecided : task.input.Decided w) : run.Decided w := by
  obtain ⟨status, failureReason, rfl⟩ := h
  obtain ⟨decisionId, hdecision⟩ := hdecided
  exact ⟨decisionId, hdecision.1, hdecision.2, hdecision.3, hdecision.4, hdecision.5,
    hdecision.6, hdecision.7, hdecision.8⟩

/-- Marking a row does not make it another one. -/
theorem ResolutionTask.IsRowOf.mark {task : ResolutionTask} {run : ResolutionRun}
    (h : task.IsRowOf run) (status : ResolutionRunStatus) (failureReason : Option String) :
    task.IsRowOf { run with status, failureReason } := by
  obtain ⟨_, _, rfl⟩ := h
  exact ⟨status, failureReason, rfl⟩

/-- **What a run can assert** of the table and of the chain. -/
def Asserts (s : ResolverSite) : Resolution → Prop
  | .proposed task => task.WellFormed
  | .underWay runId task _ phase _ => task.WellFormed ∧
    (∃ run, s.runs runId = some run ∧ task.IsRowOf run) ∧
    (phase = .finalize ∨ phase = .done → task.input.Resolved s.chain.world) ∧
    (phase = .done → task.input.Decided s.chain.world)
  | _ => True

/-- **What holds of the table and of the chain**: there is one row for each replication, and
what is marked as submitted has been done. -/
structure Sound (D : Deployment) (s : ResolverSite) : Prop where
  reachable : (protocol D).Reachable s.chain
  unique : ∀ {k k' run run'}, s.runs k = some run → s.runs k' = some run' →
    run.replicationId = run'.replicationId → k = k'
  submitted : ∀ {k run}, s.runs k = some run → run.status = .submitted →
    run.Resolved s.chain.world ∧ run.Decided s.chain.world

section

variable {D : Deployment} {s s' : ResolverSite} {p p' : Resolution}
  {a : ResolutionAction} {task : ResolutionTask}

/-- A chain that has gone on leaves what was asserted. -/
theorem Asserts.extend {c : Evm.Config World Suspended} (h : Asserts s p)
    (hextends : HistoryExtends s.chain.world c.world) :
    Asserts { s with chain := c } p := by
  cases p with
  | underWay runId task stage phase inFlight =>
    obtain ⟨htask, hrow, hresolved, hdecided⟩ := h
    exact ⟨htask, hrow, fun hphase => (hresolved hphase).extend hextends,
      fun hphase => (hdecided hphase).extend hextends⟩
  | _ => exact h

/-- Another table with the same row leaves what was asserted. -/
theorem Asserts.runs {runs : Serial ResolutionRun} (h : Asserts s p)
    (hkept : ∀ k run, p.runId? = some k → s.runs k = some run → runs k = some run) :
    Asserts { s with runs } p := by
  cases p with
  | underWay runId task stage phase inFlight =>
    obtain ⟨htask, ⟨run, hrun, hrow⟩, hresolved, hdecided⟩ := h
    exact ⟨htask, ⟨run, hkept runId run rfl hrun, hrow⟩, hresolved, hdecided⟩
  | _ => exact h

theorem Sound.extend {c : Evm.Config World Suspended} (h : Sound D s)
    (hc : (protocol D).Reachable c) (hextends : HistoryExtends s.chain.world c.world) :
    Sound D { s with chain := c } where
  reachable := hc
  unique := h.unique
  submitted hrun hstatus :=
    ⟨(h.submitted hrun hstatus).1.extend hextends, (h.submitted hrun hstatus).2.extend hextends⟩

/-- A row of another replication is added. -/
theorem Sound.insert {run : ResolutionRun} {runId : ℕ} {runs : Serial ResolutionRun}
    (h : Sound D s) (hinsert : insertResolutionRun s.runs run = some (runId, runs))
    (hstatus : run.status = .prepared) : Sound D { s with runs } := by
  obtain ⟨hnone, heq⟩ := Option.ite_none_right_eq_some.mp hinsert
  obtain ⟨rfl, rfl⟩ := Prod.mk.inj (Option.some.inj heq)
  have hother : ∀ {k run'}, s.runs k = some run' → run'.replicationId ≠ run.replicationId :=
    fun hrun' hsame => by
      have hcount := Serial.count_eq_zero.mp hnone _ _ hrun'
      rw [decide_eq_true hsame] at hcount
      exact absurd hcount (by simp)
  refine ⟨h.reachable, fun {k k' run₁ run₂} hrun₁ hrun₂ hsame => ?_, fun {k run'} hrun' hsub => ?_⟩
  · rcases Serial.insert_eq_some.mp hrun₁ with ⟨rfl, rfl⟩ | hold₁ <;>
      rcases Serial.insert_eq_some.mp hrun₂ with ⟨rfl, rfl⟩ | hold₂
    · rfl
    · exact absurd hsame.symm (hother hold₂)
    · exact absurd hsame (hother hold₁)
    · exact h.unique hold₁ hold₂ hsame
  · rcases Serial.insert_eq_some.mp hrun' with ⟨rfl, rfl⟩ | hold
    · rw [hstatus] at hsub
      exact absurd hsub nofun
    · exact h.submitted hold hsub

/-- A row is marked. -/
theorem Sound.mark {runId : ℕ} {f : ResolutionRun → ResolutionRun} (h : Sound D s)
    (hid : ∀ run, (f run).replicationId = run.replicationId)
    (hmark : ∀ run, s.runs runId = some run → (f run).status = .submitted →
      (f run).Resolved s.chain.world ∧ (f run).Decided s.chain.world) :
    Sound D { s with runs := s.runs.update runId f } := by
  have hback : ∀ {k run}, s.runs.update runId f k = some run → ∃ run₀, s.runs k = some run₀ ∧
      run.replicationId = run₀.replicationId ∧ (run = run₀ ∨ k = runId ∧ run = f run₀) := by
    intro k run hrun
    obtain ⟨run₀, hrun₀, heq⟩ := Serial.update_eq_some.mp hrun
    split at heq
    next hk => exact ⟨run₀, hrun₀, heq ▸ hid run₀, .inr ⟨hk, heq.symm⟩⟩
    next => exact ⟨run₀, hrun₀, heq ▸ rfl, .inl heq.symm⟩
  refine ⟨h.reachable, fun {k k' run₁ run₂} hrun₁ hrun₂ hsame => ?_, fun {k run'} hrun' hsub => ?_⟩
  · obtain ⟨run₁', hrow₁, hid₁, -⟩ := hback hrun₁
    obtain ⟨run₂', hrow₂, hid₂, -⟩ := hback hrun₂
    exact h.unique hrow₁ hrow₂ (hid₁.symm.trans (hsame.trans hid₂))
  · obtain ⟨run₀, hrow, -, rfl | ⟨rfl, rfl⟩⟩ := hback hrun'
    · exact h.submitted hrow hsub
    · exact hmark run₀ hrow hsub

/-- Two runs answer for different rows. -/
def Apart (p q : Resolution) : Prop := ∀ k, p.runId? = some k → q.runId? ≠ some k

theorem apart_symm {p q : Resolution} (h : Apart p q) : Apart q p :=
  fun k hq hp => h k hp hq

/-- What is asserted of a row is asserted of one that is there. -/
theorem Asserts.exists_run (h : Asserts s p) {k : ℕ} (hk : p.runId? = some k) :
    ∃ run, s.runs k = some run := by
  cases p with
  | underWay runId task stage phase inFlight =>
    obtain rfl := Option.some.inj hk
    obtain ⟨-, ⟨run, hrun, -⟩, -⟩ := h
    exact ⟨run, hrun⟩
  | _ => exact absurd hk nofun

/-- A transaction extends the history of the chain. -/
theorem extends_of_exec {m : Message} {w : World} (h : Sound D s)
    (hframes : s.chain.frames = []) (hexec : World.exec D m s.chain.world = .ok (.done w)) :
    (protocol D).Reachable ⟨w, []⟩ ∧ HistoryExtends s.chain.world w := by
  have heq : s.chain = ⟨s.chain.world, []⟩ := by
    rw [← hframes]
  have hfwd : (protocol D).Forward s.chain (.exec m) ⟨w, []⟩ := by
    rw [heq]
    exact .call hexec
  exact ⟨h.reachable.forward hfwd, historyExtends_of_effect h.reachable hfwd.effect⟩

/-- **What an action keeps**: the invariant, what the run itself asserts, and what the other
runs assert. -/
theorem ResolutionEffect.keeps (heffect : ResolutionEffect D s p s' p')
    (hsound : Sound D s) (hown : Asserts s p) :
    Sound D s' ∧ Asserts s' p' ∧ ∀ q, Asserts s q → Apart p q →
      Asserts s' q ∧ Apart p' q := by
  cases heffect with
  | read hrow hproposed =>
    refine ⟨hsound, ?_, fun q hq _ => ⟨hq, fun k hk => ?_⟩⟩
    · cases p' with
      | proposed task => exact hproposed task rfl
      | underWay => exact absurd hrow nofun
      | _ => trivial
    · rw [hrow] at hk
      exact absurd hk nofun
  | @insert task runId runs hinsert =>
    refine ⟨hsound.insert hinsert hown.status, ?_, fun q hq _ => ?_⟩
    all_goals
      obtain ⟨-, heq⟩ := Option.ite_none_right_eq_some.mp hinsert
      obtain ⟨rfl, rfl⟩ := Prod.mk.inj (Option.some.inj heq)
    · exact ⟨hown, ⟨task.input, Serial.insert_self .., _, _, rfl⟩,
        fun hphase => absurd hphase (by simp), nofun⟩
    -- The others answer for rows that are there already.
    · refine ⟨hq.runs fun k run _ hrun => Serial.insert_of_some hrun, fun k hk hqk => ?_⟩
      obtain ⟨run, hrun⟩ := hq.exists_run hqk
      exact Serial.ne_next hrun (Option.some.inj hk).symm
  | @work runId task stage stage' phase phase' inFlight inFlight' hphase =>
    obtain ⟨htask, hrow, hresolved, hdecided⟩ := hown
    refine ⟨hsound, ⟨htask, hrow, fun h => hresolved ?_, fun h => hdecided ?_⟩, fun q hq hapart =>
      ⟨hq, hapart⟩⟩
    · rcases hphase with rfl | rfl
      · exact h
      · exact absurd h (by simp)
    · rcases hphase with rfl | rfl
      · exact h
      · exact absurd h (by simp)
  | @mined runId task stage phase reply target w htarget hexec hframes =>
    obtain ⟨hreachable, hextends⟩ := extends_of_exec hsound hframes hexec
    obtain ⟨htask, hrow, hresolved, hdecided⟩ := hown
    refine ⟨hsound.extend hreachable hextends, ?_, fun q hq hapart =>
      ⟨hq.extend hextends, hapart⟩⟩
    cases phase with
    | move => exact ⟨htask, hrow, fun h => absurd h (by simp [ResolutionPhase.next]), nofun⟩
    | resolve =>
      obtain rfl := Option.some.inj htarget
      have hdone := resolved_of_exec htask (now_pos hsound.reachable) hexec
      exact ⟨htask, hrow, fun _ => hdone, nofun⟩
    | finalize =>
      obtain rfl := Option.some.inj htarget
      have hdone := decided_of_exec htask (registries_indexed hsound.reachable).1
        (hresolved (.inl rfl)) hexec
      exact ⟨htask, hrow, fun _ => (hresolved (.inl rfl)).extend hextends, fun _ => hdone⟩
    | done => exact absurd htarget nofun
  | @submitted runId task stage =>
    obtain ⟨htask, ⟨run, hrun, hrow⟩, hresolved, hdecided⟩ := hown
    have hmarked := hrow.mark .submitted run.failureReason
    refine ⟨hsound.mark (fun _ => rfl) fun run' hrun' _ => ?_, ?_, fun q hq hapart =>
      ⟨hq.runs fun k run' hk hrun' => ?_, hapart⟩⟩
    · obtain rfl := Option.some.inj (hrun'.symm.trans hrun)
      exact ⟨hmarked.resolved (hresolved (.inr rfl)), hmarked.decided (hdecided rfl)⟩
    · exact ⟨htask, ⟨_, Serial.update_eq_some.mpr ⟨run, hrun, if_pos rfl⟩, hmarked⟩, hresolved,
        hdecided⟩
    · have hne : k ≠ runId := fun heq => hapart runId rfl (heq ▸ hk)
      exact Serial.update_eq_some.mpr ⟨run', hrun', if_neg hne⟩
  | @failed runId task phase inFlight failureReason =>
    obtain ⟨htask, ⟨run, hrun, hrow⟩, hresolved, hdecided⟩ := hown
    have hmarked := hrow.mark .failed (some failureReason)
    refine ⟨hsound.mark (fun _ => rfl) fun run' _ hsub => absurd hsub nofun, ?_, fun q hq hapart =>
      ⟨hq.runs fun k run' hk hrun' => ?_, hapart⟩⟩
    · exact ⟨htask, ⟨_, Serial.update_eq_some.mpr ⟨run, hrun, if_pos rfl⟩, hmarked⟩, hresolved,
        hdecided⟩
    · have hne : k ≠ runId := fun heq => hapart runId rfl (heq ▸ hk)
      exact Serial.update_eq_some.mpr ⟨run', hrun', if_neg hne⟩

end

/-! ### Every history -/

section

variable {ι : Type} [DecidableEq ι] {D : Deployment} {resolutionHash : ResolutionHash}
  {tr : List (Concurrency.Event ι ResolverSite Resolution ResolutionAction
    (Evm.Action Message Suspended))} {c : Concurrency.Config ι ResolverSite Resolution}

/-- **Along every history the table is sound.** -/
theorem sound_of_run (h : (resolutions resolutionHash D).Run tr c) : Sound D c.shared := by
  refine (Processes.Run.ownedApart (I := fun _ s => Sound D s)
    (O := fun _ s _ p => Asserts s p) (D := Apart) apart_symm (fun s hgen => ?_)
    (fun {tr c i a s p} _ hsound hown hapart hact => ?_)
    (fun {tr c b s} _ hsound hown henv => ?_) h).1
  · obtain ⟨hreachable, hempty⟩ := hgen
    refine ⟨⟨hreachable, fun hrun => ?_, fun hrun => ?_⟩, fun _ => trivial, nofun⟩
    · exact absurd (hempty ▸ hrun) nofun
    · exact absurd (hempty ▸ hrun) nofun
  · obtain ⟨hsound', hown', hothers⟩ := (effect_of_act hact).keeps hsound (hown i)
    exact ⟨hsound', hown', fun j hj => hothers _ (hown j) (hapart j hj)⟩
  · cases henv with
    | chain hfwd =>
      have hextends := historyExtends_of_effect hsound.reachable hfwd.effect
      exact ⟨hsound.extend (hsound.reachable.forward hfwd) hextends, fun j =>
        (hown j).extend hextends⟩

/-- **A run that is marked as submitted has resolved its replication**, and is the only run
of it. -/
theorem submitted_agrees (h : (resolutions resolutionHash D).Run tr c) {runId : ℕ}
    {run : ResolutionRun} (hrun : c.shared.runs runId = some run) :
    (run.status = .submitted →
      run.Resolved c.shared.chain.world ∧ run.Decided c.shared.chain.world) ∧
    ∀ runId' run', c.shared.runs runId' = some run' → run'.replicationId = run.replicationId →
      runId' = runId :=
  ⟨(sound_of_run h).submitted hrun, fun _ _ hrun' hsame =>
    (sound_of_run h).unique hrun' hrun hsame⟩

end

/-! ### A run that is submitted -/

/-- Claim 1 has replication 1, which is not resolved. -/
def unresolved : List (Move Message) :=
  opening ++ [send 0xBB 0 (.replicationRegistry (.submitReplication 1 1 2 3 0))]

theorem playDevnet_unresolved : (playDevnet unresolved).isSome := by decide

def devnetResolutionHash : ResolutionHash := fun _ _ _ _ => 7

/-- The history some actions of runs make, on that network. -/
def playResolutions (moves : List (ℕ × ResolutionAction)) :
    Option (List (Concurrency.Event ℕ ResolverSite Resolution ResolutionAction
      (Evm.Action Message Suspended)) × Concurrency.Config ℕ ResolverSite Resolution) :=
  (resolutions devnetResolutionHash devnet).play moves
    ⟨⟨.empty, ((playDevnet unresolved).get playDevnet_unresolved).2⟩, fun _ => .idle⟩

/-- **Played histories are histories of runs.** -/
theorem run_playResolutions {moves : List (ℕ × ResolutionAction)}
    (h : (playResolutions moves).isSome) : (resolutions devnetResolutionHash devnet).Run
      ((playResolutions moves).get h).1 ((playResolutions moves).get h).2 :=
  Processes.run_play (M := resolutions devnetResolutionHash devnet)
    ⟨(run_playDevnet playDevnet_unresolved).reachable, rfl⟩ h

def completedJob : ReplicationJob where
  jobId := 1
  isCompleted := true
  onchainReplicationId := some "1"
  claimId := "1"
  evidenceHash := none
  evidenceURI := none
  artifactSha256 := 8
  storagePath := "artifacts/result.json"

/-- Two runs read the job before either has a row. The first one resolves the replication,
and the second one is stopped by the row of the first. -/
def twoResolutions : List (ℕ × ResolutionAction) :=
  [(0, .readJob completedJob), (0, .readRuns), (1, .readJob completedJob), (1, .readRuns),
    (0, .readClaim 0x0A ⟨none, none, none⟩ "rationale"), (0, .insertRun),
    (1, .readClaim 0x0B ⟨none, none, some .refuted⟩ "rationale"), (1, .insertRun),
    (0, .send), (0, .send), (0, .mine default), (0, .send), (0, .mine default),
    (0, .markSubmitted true)]

theorem twoResolutions_possible : (playResolutions twoResolutions).isSome := by decide

/-- The table and the chain after that. -/
def resolvedTwice : ResolverSite :=
  ((playResolutions twoResolutions).get twoResolutions_possible).2.shared

theorem exists_run_twoResolutions : (resolvedTwice.runs 1).isSome := by decide

/-- There, the replication and the claim have the result of the first run. -/
theorem submitted_agrees_twoResolutions :
    ((resolvedTwice.runs 1).get exists_run_twoResolutions).Resolved resolvedTwice.chain.world ∧
      ((resolvedTwice.runs 1).get exists_run_twoResolutions).Decided resolvedTwice.chain.world :=
  (submitted_agrees (run_playResolutions twoResolutions_possible)
    (Option.some_get exists_run_twoResolutions).symm).1 (by decide)

end ScientificProtocol.Resolver
