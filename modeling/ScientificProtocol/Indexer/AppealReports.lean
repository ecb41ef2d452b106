import ScientificProtocol.Appeals.Conservation
import ScientificProtocol.Evm.Reports
import ScientificProtocol.Indexer.Emitted

/-!
# What the appeals registry reports

The log of an adjudication says how an appeal was decided and what was refunded. Where the
bond is forfeited it comes after a transfer, out of what the suspended call has kept, while
the recipient's code may do what it likes with the registry. What the call has kept fits the
appeal all the same (`ScientificProtocol.Indexer.awaitedFits_of_reachable`), so that **the
reports fit the appeals** (`ScientificProtocol.Indexer.Emits.appealReports`).
-/

namespace ScientificProtocol

open Evm Indexer

namespace AppealsRegistry

/-- What is said of an appeal when it is adjudicated. -/
structure Adjudication where
  status : AppealStatus
  adjudicationHash : Bytes32
  adjudicationURI : String
  refundedAmount : ℕ
  deriving DecidableEq

/-- The adjudication is the one the appeal has. -/
structure Adjudication.Fits (x : Adjudication) (a : AppealRecord) : Prop where
  adjudicated : a.adjudicatedAt ≠ 0
  status : a.status = x.status
  adjudicationHash : a.adjudicationHash = x.adjudicationHash
  adjudicationURI : a.adjudicationURI = x.adjudicationURI
  refunded : x.refundedAmount = if forfeits x.status then 0 else a.bondAmount

/-- The life of an appeal, with whether its adjudication is still on its way. -/
def appealLife : Life (AppealRecord × Bool) Adjudication where
  begun a := a.1.appealId ≠ 0
  ended a := a.1.adjudicatedAt ≠ 0 ∧ a.2 = false
  fits a x := x.Fits a.1 ∧ a.2 = false
  ended_of_fits h := ⟨h.1.adjudicated, h.2⟩

def Event.appealReport? : Event → Option (ℕ × Option Adjudication)
  | .appealFiled appealId .. => some (appealId, none)
  | .appealAdjudicated appealId status adjudicationHash adjudicationURI refundedAmount _ _ =>
    some (appealId, some ⟨status, adjudicationHash, adjudicationURI, refundedAmount⟩)
  | _ => none

/-- The adjudication a suspended call still has to tell of. -/
def adjudication? : Suspended → Option (ℕ × Adjudication)
  | .appealsRegistry (.adjudicateAppeal appealId status adjudicationHash adjudicationURI _ _) =>
    some (appealId, ⟨status, adjudicationHash, adjudicationURI, 0⟩)
  | _ => none

/-- **What a step does to the appeals**: the reports it makes, and the adjudication it leaves
waiting. -/
inductive Passage (self : AppealsRegistry) : List (ℕ × Option Adjudication) →
    Option (ℕ × Adjudication) → AppealsRegistry → Prop
  | silent {s : AppealsRegistry} : s.appeals = self.appeals → Passage self [] none s
  | filed {s : AppealsRegistry} {appeal : AppealRecord} :
      (self.appeals self.nextAppealId).adjudicatedAt = 0 → appeal.appealId ≠ 0 →
      appeal.adjudicatedAt = 0 → s.appeals = self.appeals.set self.nextAppealId appeal →
      Passage self [(self.nextAppealId, none)] none s
  | credited {s : AppealsRegistry} {k : ℕ} {appeal : AppealRecord} {x : Adjudication} :
      (self.appeals k).adjudicatedAt = 0 → appeal.appealId ≠ 0 → x.Fits appeal →
      s.appeals = self.appeals.set k appeal → Passage self [(k, some x)] none s
  | forfeited {s : AppealsRegistry} {k : ℕ} {appeal : AppealRecord} {x : Adjudication} :
      (self.appeals k).adjudicatedAt = 0 → (self.appeals k).appealId ≠ 0 →
      appeal.appealId ≠ 0 → x.Fits appeal →
      s.appeals = self.appeals.set k appeal → Passage self [] (some (k, x)) s

variable {ctx : Ctx} {claimRegistry : ClaimRegistry} {replicationRegistry : ReplicationRegistry}
  {epistemicMarket : EpistemicMarket} {self s : AppealsRegistry}

/-- **What a call does, and what it reports.** -/
theorem passage_of_exec {call : Call} {o : Outcome AppealsRegistry Pending}
    (hself : self.Conserved) (hnow : 0 < ctx.timestamp)
    (h : self.exec ctx claimRegistry replicationRegistry epistemicMarket call = .ok o) :
    ∃ new, o.state.logs = self.logs ++ new ∧
      Passage self (new.filterMap Event.appealReport?)
        ((o.pending.map Suspended.appealsRegistry).bind adjudication?) o.state := by
  simp only [exec, bind_eq_ok] at h
  obtain ⟨balance, -, h⟩ := h
  cases call with
  | fileAppeal claimId replicationId challengeId reason filingHash uri =>
    obtain ⟨⟨appealId, s⟩, hrun, rfl⟩ := map_eq_ok.mp h
    simp only [fileAppeal, bind_eq_ok, revertIf_eq_ok, checkedAdd_eq_ok, pure_eq_ok,
      Except.ok.injEq, Prod.mk.injEq] at hrun
    obtain ⟨-, -, -, -, -, -, -, -, -, -, next, -, rfl, rfl⟩ := hrun
    refine ⟨_, rfl, .filed ?_ hself.numbered.next_pos.ne' rfl rfl⟩
    rw [hself.numbered.blank_next]
    rfl
  | adjudicateAppeal appealId status adjudicationHash adjudicationURI =>
    simp only [adjudicateAppeal, bind_eq_ok, revertIf_eq_ok, not_not] at h
    obtain ⟨-, -, -, -, -, hexists, -, hopen, -, -, h⟩ := h
    split at h
    next hforfeits =>
      rw [safeTransferValue_eq_ok] at h
      obtain ⟨-, rfl⟩ := h
      refine ⟨[], (List.append_nil _).symm, .forfeited hopen hexists ?_ ?_ rfl⟩
      · exact hexists
      · exact ⟨hnow.ne', rfl, rfl, rfl, (if_pos hforfeits).symm⟩
    next hforfeits =>
      simp only [bind_eq_ok, pure_eq_ok, Except.ok.injEq] at h
      obtain ⟨refundable, -, rfl⟩ := h
      refine ⟨_, rfl, .credited hopen ?_ ?_ rfl⟩
      · exact hexists
      · exact ⟨hnow.ne', rfl, rfl, rfl, (if_neg hforfeits).symm⟩
  | withdrawRefundedBond amount recipient =>
    simp only [withdrawRefundedBond, bind_eq_ok, safeTransferValue_eq_ok] at h
    obtain ⟨-, -, -, -, -, -, -, -, refundable, -, -, rfl⟩ := h
    exact ⟨[], (List.append_nil _).symm, .silent rfl⟩
  | setDepositsPaused paused =>
    obtain ⟨s, hrun, rfl⟩ := map_eq_ok.mp h
    simp only [setDepositsPaused, bind_eq_ok, pure_eq_ok, Except.ok.injEq] at hrun
    obtain ⟨-, -, rfl⟩ := hrun
    exact ⟨_, rfl, .silent rfl⟩

end AppealsRegistry

namespace Indexer

open AppealsRegistry

def ChainEvent.appealReport? : ChainEvent → Option (ℕ × Option Adjudication)
  | .appealsRegistry event => event.appealReport?
  | _ => none

variable {D : Deployment} {c c' : Config World Suspended}

/-- What a message does to the appeals, and what it reports. -/
theorem passage_of_exec {m : Message} {w : World} {o : Outcome World Suspended}
    (hself : w.appealsRegistry.Conserved) (hnow : 0 < w.now) (h : World.exec D m w = .ok o) :
    ∃ new, o.state.appealsRegistry.logs = w.appealsRegistry.logs ++ new ∧
      Passage w.appealsRegistry (new.filterMap Event.appealReport?) (o.pending.bind adjudication?)
        o.state.appealsRegistry := by
  have hsame : ∀ {o : Outcome World Suspended}, o.state.appealsRegistry = w.appealsRegistry →
      o.pending.bind adjudication? = none → ∃ new,
        o.state.appealsRegistry.logs = w.appealsRegistry.logs ++ new ∧
        Passage w.appealsRegistry (new.filterMap Event.appealReport?)
          (o.pending.bind adjudication?) o.state.appealsRegistry := by
    intro o hstate hpending
    rw [hstate, hpending]
    exact ⟨[], (List.append_nil _).symm, .silent rfl⟩
  unfold World.exec at h
  split at h
  case h_1 =>
    obtain rfl := Except.ok.inj h
    exact hsame rfl rfl
  case h_10 =>
    obtain ⟨o', hexec, rfl⟩ := map_eq_ok.mp h
    obtain ⟨new, hlogs, hpassage⟩ := AppealsRegistry.passage_of_exec hself hnow hexec
    cases o' <;> exact ⟨new, hlogs, hpassage⟩
  -- Every other contract leaves the appeals alone, and itself waiting, or nobody.
  all_goals
    obtain ⟨o', hexec, rfl⟩ := map_eq_ok.mp h
    first
    | exact hsame rfl rfl
    | cases o' <;> exact hsame rfl rfl

/-- The adjudications that wait for their transfer, with what they will tell. -/
def awaited (c : Config World Suspended) : List (ℕ × Adjudication) :=
  Machine.waiting adjudication? c.frames

/-- **What a step does to the appeals and to the adjudications that wait.** -/
theorem passage_of_forward {a : Action Message Suspended} (hc : (protocol D).Reachable c)
    (h : (protocol D).Forward c a c') :
    (∃ reports waits, (emitted c.world c'.world).filterMap ChainEvent.appealReport? = reports ∧
      Passage c.world.appealsRegistry reports waits c'.world.appealsRegistry ∧
      awaited c' = waits.toList ++ awaited c) ∨
    ∃ k x, (emitted c.world c'.world).filterMap ChainEvent.appealReport? = [(k, some x)] ∧
      c'.world.appealsRegistry.appeals = c.world.appealsRegistry.appeals ∧
      awaited c = (k, x) :: awaited c' := by
  have hsaid : ∀ e, ChainEvent.appealReport? e ≠ none → ∃ event, e = .appealsRegistry event := by
    intro e he
    cases e <;> simp_all [ChainEvent.appealReport?]
  have hsame : ∀ {w' : World} {new : List AppealsRegistry.Event},
      w'.appealsRegistry.logs = c.world.appealsRegistry.logs ++ new →
      w'.appealsRegistry.appeals = c.world.appealsRegistry.appeals →
      new.filterMap Event.appealReport? = [] →
      (emitted c.world w').filterMap ChainEvent.appealReport? = [] ∧
        Passage c.world.appealsRegistry [] none w'.appealsRegistry := by
    intro w' new hlogs happeals hnew
    exact ⟨(filterMap_emitted_appealsRegistry _ hlogs hsaid).trans hnew, .silent happeals⟩
  have hstill : c'.world.appealsRegistry = c.world.appealsRegistry →
      (emitted c.world c'.world).filterMap ChainEvent.appealReport? = [] ∧
        Passage c.world.appealsRegistry [] none c'.world.appealsRegistry := fun heq =>
    @hsame c'.world [] (by rw [heq, List.append_nil]) (by rw [heq]) rfl
  rcases h.waiting_cases adjudication? with
    ⟨m, o, -, hexec, hworld, hwaiting⟩ | ⟨p, -, hworld, hwaiting⟩ | ⟨hwaiting, hrest⟩
  · obtain ⟨new, hlogs, hpassage⟩ := passage_of_exec (AppealsRegistry.conserved_of_reachable hc)
      (now_pos hc) hexec
    rw [← hworld] at hlogs hpassage
    exact .inl ⟨_, _, filterMap_emitted_appealsRegistry _ hlogs hsaid, hpassage, hwaiting⟩
  · rcases p with p | p | p | p | p
    case appealsRegistry =>
      cases p with
      | adjudicateAppeal appealId status adjudicationHash adjudicationURI amount actor =>
        refine .inr ⟨appealId, ⟨status, adjudicationHash, adjudicationURI, 0⟩, ?_,
          by rw [hworld]; rfl, hwaiting⟩
        exact filterMap_emitted_appealsRegistry [.appealAdjudicated appealId status
          adjudicationHash adjudicationURI 0 amount actor] (by rw [hworld]; rfl) hsaid
      | withdrawRefundedBond account recipient amount =>
        obtain ⟨hreports, hpassage⟩ := @hsame c'.world
          [.appealBondWithdrawn account recipient amount] (by rw [hworld]; rfl)
          (by rw [hworld]; rfl) rfl
        exact .inl ⟨[], none, hreports, hpassage, hwaiting.symm⟩
    all_goals
      obtain ⟨hreports, hpassage⟩ := hstill (by rw [hworld]; rfl)
      exact .inl ⟨[], none, hreports, hpassage, hwaiting.symm⟩
  · obtain ⟨hreports, hpassage⟩ := hstill <| by
      rcases hrest with ⟨-, hworld⟩ | ⟨t, -, htick⟩
      · rw [hworld]
      · obtain ⟨-, hw⟩ := Option.ite_none_right_eq_some.mp htick
        rw [← Option.some.inj hw]
    exact .inl ⟨[], none, hreports, hpassage, hwaiting⟩

/-- What waits has been written, and waits once. -/
structure AwaitedFits (c : Config World Suspended) : Prop where
  nodup : ((awaited c).map Prod.fst).Nodup
  fits : ∀ p ∈ awaited c, p.2.Fits (c.world.appealsRegistry.appeals p.1)
  exists_appeal : ∀ p ∈ awaited c, (c.world.appealsRegistry.appeals p.1).appealId ≠ 0

theorem AwaitedFits.of_open (h : AwaitedFits c) {k : ℕ}
    (hopen : (c.world.appealsRegistry.appeals k).adjudicatedAt = 0) :
    ∀ p ∈ awaited c, p.1 ≠ k := by
  rintro p hp rfl
  exact (h.fits p hp).adjudicated hopen

/-- An appeal is written that is still open. -/
theorem AwaitedFits.set (h : AwaitedFits c) {k : ℕ} {appeal : AppealRecord}
    (hopen : (c.world.appealsRegistry.appeals k).adjudicatedAt = 0)
    (hset : c'.world.appealsRegistry.appeals = c.world.appealsRegistry.appeals.set k appeal)
    (hwaits : awaited c' = awaited c) : AwaitedFits c' := by
  have hother : ∀ p ∈ awaited c, c'.world.appealsRegistry.appeals p.1 =
      c.world.appealsRegistry.appeals p.1 := fun p hp => by
    rw [hset, Mapping.set_of_ne _ (h.of_open hopen p hp)]
  refine ⟨hwaits ▸ h.nodup, fun p hp => ?_, fun p hp => ?_⟩ <;> rw [hwaits] at hp <;>
    rw [hother p hp]
  · exact h.fits p hp
  · exact h.exists_appeal p hp

theorem awaitedFits_of_reachable (hc : (protocol D).Reachable c) : AwaitedFits c := by
  obtain ⟨tr, hrun⟩ := hc.exists_run
  clear hc
  induction hrun with
  | genesis _ =>
    exact ⟨.nil, by simp [awaited, Machine.waiting], by simp [awaited, Machine.waiting]⟩
  | @snoc tr c c' a hrun hfwd ih =>
    rcases passage_of_forward hrun.reachable hfwd with
      ⟨reports, waits, -, hpassage, hwaits⟩ | ⟨k, x, -, happeals, hwaits⟩
    · cases hpassage with
      | silent heq =>
        have hwaits : awaited c' = awaited c := hwaits
        exact ⟨hwaits ▸ ih.nodup, by rw [hwaits, heq]; exact ih.fits,
          by rw [hwaits, heq]; exact ih.exists_appeal⟩
      | filed hopen _ _ heq => exact ih.set hopen heq hwaits
      | credited hopen _ _ heq => exact ih.set hopen heq hwaits
      | @forfeited _ k appeal x hopen _ hexists hfits heq =>
        have hwaits : awaited c' = (k, x) :: awaited c := hwaits
        have hne := ih.of_open hopen
        have hother : ∀ p ∈ awaited c, c'.world.appealsRegistry.appeals p.1 =
            c.world.appealsRegistry.appeals p.1 := fun p hp => by
          rw [heq, Mapping.set_of_ne _ (hne p hp)]
        have hself : c'.world.appealsRegistry.appeals k = appeal := by
          rw [heq, Mapping.set_self]
        refine ⟨?_, ?_, ?_⟩ <;> rw [hwaits]
        · refine List.nodup_cons.mpr ⟨fun hmem => ?_, ih.nodup⟩
          obtain ⟨p, hp, hpk⟩ := List.mem_map.mp hmem
          exact hne p hp hpk
        · refine List.forall_mem_cons.mpr ⟨hself ▸ hfits, fun p hp => ?_⟩
          rw [hother p hp]
          exact ih.fits p hp
        · refine List.forall_mem_cons.mpr ⟨hself ▸ hexists, fun p hp => ?_⟩
          rw [hother p hp]
          exact ih.exists_appeal p hp
    · have hmem : ∀ p ∈ awaited c', p ∈ awaited c := fun p hp =>
        hwaits ▸ List.mem_cons_of_mem _ hp
      have hnodup := ih.nodup
      rw [hwaits] at hnodup
      refine ⟨(List.nodup_cons.mp hnodup).2, fun p hp => ?_, fun p hp => ?_⟩ <;> rw [happeals]
      · exact ih.fits p (hmem p hp)
      · exact ih.exists_appeal p (hmem p hp)

/-- The appeals, with whether their adjudication is still on its way. -/
def appealStates (c : Config World Suspended) (k : ℕ) : AppealRecord × Bool :=
  (c.world.appealsRegistry.appeals k, decide (k ∈ (awaited c).map Prod.fst))

/-- What a step reports of the appeals. -/
theorem appealReports_of_forward {a : Action Message Suspended} (hc : (protocol D).Reachable c)
    (h : (protocol D).Forward c a c') :
    Reports appealLife (appealStates c)
      ((emitted c.world c'.world).filterMap ChainEvent.appealReport?) (appealStates c') := by
  have hawaited := awaitedFits_of_reachable hc
  have halive : ∀ {k : ℕ}, (c.world.appealsRegistry.appeals k).adjudicatedAt = 0 →
      ¬appealLife.ended (appealStates c k) := fun hopen hended => hended.1 hopen
  have hquiet : ∀ {k : ℕ}, (c.world.appealsRegistry.appeals k).adjudicatedAt = 0 →
      k ∉ (awaited c).map Prod.fst := fun {k} hopen hmem => by
    obtain ⟨p, hp, hpk⟩ := List.mem_map.mp hmem
    exact hawaited.of_open hopen p hp hpk
  rcases passage_of_forward hc h with
    ⟨reports, waits, hreports, hpassage, hwaits⟩ | ⟨k, x, hreports, happeals, hwaits⟩ <;>
    rw [hreports]
  · -- A record that is set, with nothing waiting for it.
    have hset : ∀ {k : ℕ} {appeal : AppealRecord} {b : Option Adjudication},
        awaited c' = awaited c → (c.world.appealsRegistry.appeals k).adjudicatedAt = 0 →
        c'.world.appealsRegistry.appeals = c.world.appealsRegistry.appeals.set k appeal →
        appeal.appealId ≠ 0 → (appeal.adjudicatedAt ≠ 0 → b ≠ none) →
        (∀ x, b = some x → x.Fits appeal) →
        Reports appealLife (appealStates c) [(k, b)] (appealStates c') := by
      intro k appeal b hwaits hopen heq hexists hends hfits
      have hself : appealStates c' k = (appeal, false) := by
        rw [appealStates, heq, Mapping.set_self, hwaits, decide_eq_false (hquiet hopen)]
      refine .one (fun k' hk' => ?_) (halive hopen) ?_ ?_ ?_
      · rw [appealStates, heq, Mapping.set_of_ne _ hk', hwaits]
        rfl
      · rw [hself]
        exact hexists
      · rw [hself]
        exact fun hended => hends hended.1
      · rw [hself]
        exact fun x hx => ⟨hfits x hx, rfl⟩
    cases hpassage with
    | silent heq =>
      have hwaits : awaited c' = awaited c := hwaits
      have hsame : appealStates c' = appealStates c := by
        funext k
        rw [appealStates, appealStates, heq, hwaits]
      rw [hsame]
      exact .refl _ _
    | filed hopen hexists hzero heq =>
      exact hset hwaits hopen heq hexists (fun hone => absurd hzero hone) nofun
    | credited hopen hexists hfits heq =>
      exact hset hwaits hopen heq hexists nofun fun x hx => Option.some.inj hx ▸ hfits
    | @forfeited _ k appeal x hopen hbefore hexists hfits heq =>
      have hwaits : awaited c' = (k, x) :: awaited c := hwaits
      have hself : appealStates c' k = (appeal, true) := by
        rw [appealStates, heq, Mapping.set_self, hwaits, List.map_cons,
          decide_eq_true List.mem_cons_self]
      refine .untold (k := k) (fun k' hk' => ?_) (halive hopen) ?_ ?_
      · rw [appealStates, heq, Mapping.set_of_ne _ hk', hwaits, List.map_cons]
        simp only [List.mem_cons, hk', false_or]
        rfl
      · rw [hself]
        exact fun hended => Bool.false_ne_true hended.2.symm
      · rw [hself]
        exact iff_of_true hexists hbefore
  · have hnodup := hawaited.nodup
    rw [hwaits] at hnodup
    obtain ⟨hnot, -⟩ := List.nodup_cons.mp hnodup
    have hmem : (k, x) ∈ awaited c := hwaits ▸ List.mem_cons_self
    have hself : appealStates c' k = (c.world.appealsRegistry.appeals k, false) := by
      rw [appealStates, happeals, decide_eq_false hnot]
    refine .one (fun k' hk' => ?_) (fun hended => ?_) ?_ nofun ?_
    · rw [appealStates, appealStates, happeals, hwaits, List.map_cons]
      simp only [List.mem_cons, hk', false_or]
    · have hwaiting : k ∈ (awaited c).map Prod.fst := List.mem_map.mpr ⟨_, hmem, rfl⟩
      exact absurd hended.2 (by simp [appealStates, hwaiting])
    · rw [hself]
      exact hawaited.exists_appeal _ hmem
    · rw [hself]
      exact fun y hy => ⟨Option.some.inj hy ▸ hawaited.fits _ hmem, rfl⟩

/-- **What a stretch reports of appeals.** -/
theorem Emits.appealReports {events : List ChainEvent} (h : Emits D c events c')
    (hc : (protocol D).Reachable c) :
    Reports appealLife (appealStates c) (events.filterMap ChainEvent.appealReport?)
      (appealStates c') :=
  h.relation (Q := fun c events c' => Reports appealLife (appealStates c)
      (events.filterMap ChainEvent.appealReport?) (appealStates c'))
    (fun _ => .refl _ _) (fun h h' => List.filterMap_append ▸ h.trans h')
    (fun hc hfwd => appealReports_of_forward hc hfwd) hc

/-- Between two blocks no adjudication waits. -/
theorem appealStates_apply (w : World) (k : ℕ) :
    appealStates ⟨w, []⟩ k = (w.appealsRegistry.appeals k, false) := by
  rw [appealStates, decide_eq_false]
  exact List.not_mem_nil

theorem map_fst_appealReport? (e : ChainEvent) :
    e.appealReport?.map Prod.fst = e.appealId? := by
  cases e with
  | appealsRegistry e => cases e <;> rfl
  | _ => rfl

end Indexer

end ScientificProtocol
