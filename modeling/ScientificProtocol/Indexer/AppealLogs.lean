import ScientificProtocol.Appeals.Conservation
import ScientificProtocol.Indexer.Emitted

/-!
# What the appeals registry tells

An appeal is told of when it is filed and when it is adjudicated. An adjudication that
forfeits the bond changes the appeal first and tells of it last, after a transfer that runs
the recipient's code. In between the stack holds the call, and at the end of a transaction
it holds nothing, so that between two blocks an appeal that has changed has been told of.
After the word that an appeal is adjudicated there is no other.
-/

namespace ScientificProtocol

open Evm Indexer

namespace Indexer

/-- What an event says of appeals. -/
abbrev ChainEvent.appealWord? : ChainEvent → Option (ℕ × Bool) :=
  ChainEvent.word? ChainEvent.appealId? ChainEvent.adjudicatedAppealId?

end Indexer

namespace AppealsRegistry

/-- The appeal a suspended call adjudicates. -/
def adjudicating? : Suspended → Option ℕ
  | .appealsRegistry (.adjudicateAppeal appealId ..) => some appealId
  | _ => none

/-- **What a step does to the appeals**: the words it says, and the adjudication it leaves
waiting. -/
inductive Change (self : AppealsRegistry) : List (ℕ × Bool) → Option ℕ → AppealsRegistry → Prop
  | silent {s : AppealsRegistry} : s.appeals = self.appeals → Change self [] none s
  | filed {s : AppealsRegistry} {appeal : AppealRecord} : appeal.adjudicatedAt = 0 →
      (self.appeals self.nextAppealId).adjudicatedAt = 0 →
      s.appeals = self.appeals.set self.nextAppealId appeal →
      Change self [(self.nextAppealId, false)] none s
  | credited {s : AppealsRegistry} {k : ℕ} {appeal : AppealRecord} :
      (self.appeals k).adjudicatedAt = 0 → appeal.adjudicatedAt ≠ 0 →
      s.appeals = self.appeals.set k appeal → Change self [(k, true)] none s
  /-- The bond is on its way, and nothing has been said yet. -/
  | forfeited {s : AppealsRegistry} {k : ℕ} {appeal : AppealRecord} :
      (self.appeals k).adjudicatedAt = 0 → appeal.adjudicatedAt ≠ 0 →
      s.appeals = self.appeals.set k appeal → Change self [] (some k) s

variable {ctx : Ctx} {claimRegistry : ClaimRegistry} {replicationRegistry : ReplicationRegistry}
  {epistemicMarket : EpistemicMarket} {self s : AppealsRegistry}

/-- **What a call does, and what its logs say.** -/
theorem change_of_exec {call : Call} {o : Outcome AppealsRegistry Pending}
    (hself : self.Conserved) (hnow : 0 < ctx.timestamp)
    (h : self.exec ctx claimRegistry replicationRegistry epistemicMarket call = .ok o) :
    ∃ new, o.state.logs = self.logs ++ new ∧
      Change self ((new.map ChainEvent.appealsRegistry).filterMap ChainEvent.appealWord?)
        ((o.pending.map Suspended.appealsRegistry).bind adjudicating?) o.state := by
  simp only [exec, bind_eq_ok] at h
  obtain ⟨balance, -, h⟩ := h
  cases call with
  | fileAppeal claimId replicationId challengeId reason filingHash uri =>
    obtain ⟨⟨appealId, s⟩, hrun, rfl⟩ := map_eq_ok.mp h
    simp only [fileAppeal, bind_eq_ok, revertIf_eq_ok, checkedAdd_eq_ok, pure_eq_ok,
      Except.ok.injEq, Prod.mk.injEq] at hrun
    obtain ⟨-, -, -, -, -, -, -, -, -, -, next, -, rfl, rfl⟩ := hrun
    refine ⟨_, rfl, .filed ?_ ?_ rfl⟩
    · rfl
    · rw [hself.numbered.blank_next]
      rfl
  | adjudicateAppeal appealId status adjudicationHash adjudicationURI =>
    simp only [adjudicateAppeal, bind_eq_ok, revertIf_eq_ok, not_not] at h
    obtain ⟨-, -, -, -, -, -, -, hopen, -, -, h⟩ := h
    split at h
    next =>
      rw [safeTransferValue_eq_ok] at h
      obtain ⟨-, rfl⟩ := h
      exact ⟨[], (List.append_nil _).symm, .forfeited hopen hnow.ne' rfl⟩
    next =>
      simp only [bind_eq_ok, pure_eq_ok, Except.ok.injEq] at h
      obtain ⟨refundable, -, rfl⟩ := h
      exact ⟨_, rfl, .credited hopen hnow.ne' rfl⟩
  | withdrawRefundedBond amount recipient =>
    simp only [withdrawRefundedBond, bind_eq_ok, safeTransferValue_eq_ok] at h
    obtain ⟨-, -, -, -, -, -, -, -, refundable, -, -, rfl⟩ := h
    exact ⟨[], (List.append_nil _).symm, .silent rfl⟩
  | setDepositsPaused paused =>
    obtain ⟨s, hrun, rfl⟩ := map_eq_ok.mp h
    simp only [setDepositsPaused, bind_eq_ok, pure_eq_ok, Except.ok.injEq] at hrun
    obtain ⟨-, -, rfl⟩ := hrun
    exact ⟨_, rfl, .silent rfl⟩

end AppealsRegistry

namespace Indexer

open AppealsRegistry

variable {D : Deployment} {c c' : Config World Suspended}

/-- What a message does to the appeals, and what its logs say. -/
theorem appeals_of_exec {m : Message} {w : World} {o : Outcome World Suspended}
    (hself : w.appealsRegistry.Conserved) (hnow : 0 < w.now) (h : World.exec D m w = .ok o) :
    ∃ new, o.state.appealsRegistry.logs = w.appealsRegistry.logs ++ new ∧
      Change w.appealsRegistry
        ((new.map ChainEvent.appealsRegistry).filterMap ChainEvent.appealWord?)
        (o.pending.bind adjudicating?) o.state.appealsRegistry := by
  have hsame : ∀ {o : Outcome World Suspended}, o.state.appealsRegistry = w.appealsRegistry →
      o.pending.bind adjudicating? = none → ∃ new,
        o.state.appealsRegistry.logs = w.appealsRegistry.logs ++ new ∧
        Change w.appealsRegistry
          ((new.map ChainEvent.appealsRegistry).filterMap ChainEvent.appealWord?)
          (o.pending.bind adjudicating?) o.state.appealsRegistry := by
    intro o hstate hpending
    rw [hstate, hpending]
    exact ⟨[], (List.append_nil _).symm, .silent rfl⟩
  unfold World.exec at h
  split at h
  case h_1 =>
    obtain rfl := Except.ok.inj h
    exact hsame rfl rfl
  case h_10 =>
    obtain ⟨o', hexec, rfl⟩ := map_eq_ok.mp h
    obtain ⟨new, hlogs, hchange⟩ := change_of_exec hself hnow hexec
    cases o' <;> exact ⟨new, hlogs, hchange⟩
  -- Every other contract leaves the appeals alone, and itself waiting, or nobody.
  all_goals
    obtain ⟨o', hexec, rfl⟩ := map_eq_ok.mp h
    first
    | exact hsame rfl rfl
    | cases o' <;> exact hsame rfl rfl

/-- The adjudications that wait for their transfer. -/
def adjudicating (c : Config World Suspended) : List ℕ :=
  Machine.waiting adjudicating? c.frames

/-- An appeal that nothing more is told of. -/
def Adjudicated (c : Config World Suspended) (k : ℕ) : Prop :=
  (c.world.appealsRegistry.appeals k).adjudicatedAt ≠ 0 ∧ k ∉ adjudicating c

/-- An adjudication waits once, and its appeal has been changed. -/
structure Awaited (c : Config World Suspended) : Prop where
  nodup : (adjudicating c).Nodup
  adjudicated : ∀ k ∈ adjudicating c, (c.world.appealsRegistry.appeals k).adjudicatedAt ≠ 0

/-- What logs say of the appeals. -/
structure AppealsTold (before : Config World Suspended) (events : List ChainEvent)
    (after : Config World Suspended) : Prop where
  appeals : Tells before.world.appealsRegistry.appeals (· ∈ adjudicating before)
    (events.filterMap ChainEvent.appealId?) after.world.appealsRegistry.appeals
    (· ∈ adjudicating after)
  adjudications : Ends (Adjudicated before) (events.filterMap ChainEvent.appealWord?)
    (Adjudicated after)

/-- **What a step does to the appeals and to the adjudications that wait.** -/
theorem appeals_of_forward {a : Action Message Suspended} (hc : (protocol D).Reachable c)
    (h : (protocol D).Forward c a c') :
    (∃ words waits, (emitted c.world c'.world).filterMap ChainEvent.appealWord? = words ∧
      Change c.world.appealsRegistry words waits c'.world.appealsRegistry ∧
      adjudicating c' = waits.toList ++ adjudicating c) ∨
    ∃ k, (emitted c.world c'.world).filterMap ChainEvent.appealWord? = [(k, true)] ∧
      c'.world.appealsRegistry.appeals = c.world.appealsRegistry.appeals ∧
      adjudicating c = k :: adjudicating c' := by
  have hword : ∀ e, ChainEvent.appealWord? e ≠ none → ∃ event, e = .appealsRegistry event := by
    intro e he
    cases e <;> simp_all [ChainEvent.word?, ChainEvent.appealId?]
  have hsame : ∀ {w' : World} {new : List AppealsRegistry.Event},
      w'.appealsRegistry.logs = c.world.appealsRegistry.logs ++ new →
      w'.appealsRegistry.appeals = c.world.appealsRegistry.appeals →
      (new.map ChainEvent.appealsRegistry).filterMap ChainEvent.appealWord? = [] →
      (emitted c.world w').filterMap ChainEvent.appealWord? = [] ∧
        Change c.world.appealsRegistry [] none w'.appealsRegistry := by
    intro w' new hlogs happeals hnew
    rw [filterMap_emitted_appealsRegistry _ hlogs hword, ← List.filterMap_map]
    exact ⟨hnew, .silent happeals⟩
  have hstill : c'.world.appealsRegistry = c.world.appealsRegistry →
      (emitted c.world c'.world).filterMap ChainEvent.appealWord? = [] ∧
        Change c.world.appealsRegistry [] none c'.world.appealsRegistry := fun heq =>
    @hsame c'.world [] (by rw [heq, List.append_nil]) (by rw [heq]) rfl
  rcases h.waiting_cases adjudicating? with
    ⟨m, o, -, hexec, hworld, hwaiting⟩ | ⟨p, -, hworld, hwaiting⟩ | ⟨hwaiting, hrest⟩
  · obtain ⟨new, hlogs, hchange⟩ := appeals_of_exec (AppealsRegistry.conserved_of_reachable hc)
      (now_pos hc) hexec
    rw [← hworld] at hlogs hchange
    refine .inl ⟨_, _, ?_, hchange, hwaiting⟩
    rw [filterMap_emitted_appealsRegistry _ hlogs hword, List.filterMap_map]
  · rcases p with p | p | p | p | p
    case appealsRegistry =>
      cases p with
      | adjudicateAppeal appealId status adjudicationHash adjudicationURI amount actor =>
        refine .inr ⟨appealId, ?_, by rw [hworld]; rfl, hwaiting⟩
        rw [filterMap_emitted_appealsRegistry [.appealAdjudicated appealId status
          adjudicationHash adjudicationURI 0 amount actor] (by rw [hworld]; rfl) hword]
        rfl
      | withdrawRefundedBond account recipient amount =>
        obtain ⟨hwords, hchange⟩ := @hsame c'.world
          [.appealBondWithdrawn account recipient amount] (by rw [hworld]; rfl)
          (by rw [hworld]; rfl) rfl
        exact .inl ⟨[], none, hwords, hchange, hwaiting.symm⟩
    all_goals
      obtain ⟨hwords, hchange⟩ := hstill (by rw [hworld]; rfl)
      exact .inl ⟨[], none, hwords, hchange, hwaiting.symm⟩
  · obtain ⟨hwords, hchange⟩ := hstill <| by
      rcases hrest with ⟨-, hworld⟩ | ⟨t, -, htick⟩
      · rw [hworld]
      · obtain ⟨-, hw⟩ := Option.ite_none_right_eq_some.mp htick
        rw [← Option.some.inj hw]
    exact .inl ⟨[], none, hwords, hchange, hwaiting⟩

/-- **Between two transactions nothing waits**, and in the middle of one an adjudication
waits once. -/
theorem awaited_of_reachable (hc : (protocol D).Reachable c) : Awaited c := by
  obtain ⟨tr, hrun⟩ := hc.exists_run
  clear hc
  induction hrun with
  | genesis _ => exact ⟨.nil, by simp [adjudicating, Machine.waiting]⟩
  | @snoc tr c c' a hrun hfwd ih =>
    -- Whatever is set is not open afterwards, and what was not open stays so.
    have hset : ∀ {k : ℕ} {appeal : AppealRecord}, k ∉ adjudicating c →
        c'.world.appealsRegistry.appeals = c.world.appealsRegistry.appeals.set k appeal →
        ∀ k' ∈ adjudicating c, (c'.world.appealsRegistry.appeals k').adjudicatedAt ≠ 0 := by
      intro k appeal hk heq k' hk'
      have hne : k' ≠ k := fun hkk => hk (hkk ▸ hk')
      rw [heq, Mapping.set_of_ne _ hne]
      exact ih.adjudicated k' hk'
    have hopen : ∀ {k : ℕ}, (c.world.appealsRegistry.appeals k).adjudicatedAt = 0 →
        k ∉ adjudicating c := fun hzero hk => ih.adjudicated _ hk hzero
    rcases appeals_of_forward hrun.reachable hfwd with
      ⟨words, waits, -, hchange, hwaits⟩ | ⟨k, -, happeals, hwaits⟩
    · cases hchange with
      | silent heq =>
        have hwaits : adjudicating c' = adjudicating c := hwaits
        exact ⟨hwaits ▸ ih.nodup, by rw [hwaits, heq]; exact ih.adjudicated⟩
      | filed _ hzero heq =>
        have hwaits : adjudicating c' = adjudicating c := hwaits
        exact ⟨hwaits ▸ ih.nodup, hwaits ▸ hset (hopen hzero) heq⟩
      | credited hzero _ heq =>
        have hwaits : adjudicating c' = adjudicating c := hwaits
        exact ⟨hwaits ▸ ih.nodup, hwaits ▸ hset (hopen hzero) heq⟩
      | @forfeited _ k appeal hzero hone heq =>
        have hwaits : adjudicating c' = k :: adjudicating c := hwaits
        refine ⟨hwaits ▸ List.nodup_cons.mpr ⟨hopen hzero, ih.nodup⟩, ?_⟩
        rw [hwaits]
        refine List.forall_mem_cons.mpr ⟨?_, hset (hopen hzero) heq⟩
        rwa [heq, Mapping.set_self]
    · have hnodup := ih.nodup
      have hadjudicated := ih.adjudicated
      rw [hwaits] at hnodup hadjudicated
      refine ⟨(List.nodup_cons.mp hnodup).2, fun k' hk' => ?_⟩
      rw [happeals]
      exact hadjudicated k' (List.mem_cons_of_mem _ hk')

/-- What a step says of the appeals. -/
theorem appealsTold_of_forward {a : Action Message Suspended} (hc : (protocol D).Reachable c)
    (h : (protocol D).Forward c a c') :
    AppealsTold c (emitted c.world c'.world) c' := by
  have hof : ∀ words : List (ℕ × Bool),
      (emitted c.world c'.world).filterMap ChainEvent.appealWord? = words →
      Tells c.world.appealsRegistry.appeals (· ∈ adjudicating c) (words.map Prod.fst)
        c'.world.appealsRegistry.appeals (· ∈ adjudicating c') →
      Ends (Adjudicated c) words (Adjudicated c') →
      AppealsTold c (emitted c.world c'.world) c' := by
    rintro _ rfl htells hends
    rw [map_fst_filterMap_word?] at htells
    exact ⟨htells, hends⟩
  have hawaited := awaited_of_reachable hc
  rcases appeals_of_forward hc h with
    ⟨words, waits, hwords, hchange, hwaits⟩ | ⟨k, hwords, happeals, hwaits⟩
  · refine hof words hwords ?_ ?_
    · cases hchange with
      | silent heq =>
        have hwaits : adjudicating c' = adjudicating c := hwaits
        exact .same (fun k => by rw [heq]) fun k hk => hwaits ▸ hk
      | filed _ _ heq | credited _ _ heq =>
        have hwaits : adjudicating c' = adjudicating c := hwaits
        exact .one (fun k hk => by rw [heq, Mapping.set_of_ne _ hk]) fun k _ hk => hwaits ▸ hk
      | @forfeited _ k appeal _ _ heq =>
        have hwaits : adjudicating c' = k :: adjudicating c := hwaits
        rw [hwaits]
        refine ⟨fun k' => ?_, fun k' hk' => .inl (List.mem_cons_of_mem _ hk')⟩
        by_cases hk : k' = k
        · exact .inr (.inl (hk ▸ List.mem_cons_self))
        · exact .inl (by rw [heq, Mapping.set_of_ne _ hk])
    · have hset : ∀ {k : ℕ} {appeal : AppealRecord},
          (c.world.appealsRegistry.appeals k).adjudicatedAt = 0 →
          c'.world.appealsRegistry.appeals = c.world.appealsRegistry.appeals.set k appeal →
          (∀ k' ∈ adjudicating c', k' = k ∨ k' ∈ adjudicating c) →
          ∀ k', Adjudicated c k' → Adjudicated c' k' := by
        rintro k appeal hzero heq hmem k' ⟨hone, hk'⟩
        have hne : k' ≠ k := by
          rintro rfl
          exact hone hzero
        refine ⟨?_, fun hwaits => (hmem k' hwaits).elim hne hk'⟩
        rwa [heq, Mapping.set_of_ne _ hne]
      cases hchange with
      | silent heq =>
        have hwaits : adjudicating c' = adjudicating c := hwaits
        refine .silent fun k hk => ?_
        rwa [Adjudicated, heq, hwaits]
      | filed _ hzero heq =>
        have hwaits : adjudicating c' = adjudicating c := hwaits
        exact .word (fun hk => hk.1 hzero) nofun (hset hzero heq fun _ hk => .inr (hwaits ▸ hk))
      | credited hzero hone heq =>
        have hwaits : adjudicating c' = adjudicating c := hwaits
        refine .word (fun hk => hk.1 hzero) (fun _ => ⟨?_, fun hk => ?_⟩)
          (hset hzero heq fun _ hk => .inr (hwaits ▸ hk))
        · rwa [heq, Mapping.set_self]
        · exact hawaited.adjudicated _ (hwaits ▸ hk) hzero
      | forfeited hzero _ heq =>
        refine .silent (hset hzero heq fun k' hk' => ?_)
        rw [hwaits] at hk'
        exact List.mem_cons.mp hk'
  · have hnodup := hawaited.nodup
    rw [hwaits] at hnodup
    refine hof _ hwords ?_ ?_
    · refine .one (fun k' _ => by rw [happeals]) fun k' hne hk' => ?_
      rw [hwaits] at hk'
      exact (List.mem_cons.mp hk').resolve_left hne
    · refine .word (fun hk => hk.2 (hwaits ▸ List.mem_cons_self)) (fun _ => ⟨?_, ?_⟩)
        fun k' hk' => ?_
      · rw [happeals]
        exact hawaited.adjudicated k (hwaits ▸ List.mem_cons_self)
      · exact (List.nodup_cons.mp hnodup).1
      · refine ⟨happeals ▸ hk'.1, fun hmem => hk'.2 ?_⟩
        rw [hwaits]
        exact List.mem_cons_of_mem _ hmem

/-- **What a stretch tells of the appeals.** -/
theorem Emits.appeals {events : List ChainEvent} (h : Emits D c events c')
    (hc : (protocol D).Reachable c) : AppealsTold c events c' := by
  refine h.relation (Q := AppealsTold) (fun c => ⟨.refl _ _, .refl _⟩) ?_
    (fun hc hfwd => appealsTold_of_forward hc hfwd) hc
  rintro c events c' events' c'' ⟨happeals, hadjudications⟩ ⟨happeals', hadjudications'⟩
  refine ⟨?_, ?_⟩ <;> rw [List.filterMap_append]
  · exact happeals.trans happeals'
  · exact hadjudications.trans hadjudications'

end Indexer

end ScientificProtocol
