import Mathlib.Logic.Function.Iterate
import ScientificProtocol.Claims.Publication

/-!
# Requests are served once, and revisions lead back to the beginning

A delegated creation carries the hash of the request it serves. All the ways to create a
claim take its number from one counter, so a number that a hash is bound to is below the
counter from then on, and no other hash can be bound to it
(`ScientificProtocol.RequestsBound`). A request that comes back finds its hash bound, gets the
number again and changes nothing.

A revision names the claim it revises, which exists and has the same author. Since that claim
is older, its number is smaller (`ScientificProtocol.Lineage`), and going from revision to
revised claim ends, at the number `0` no claim has.
-/

namespace ScientificProtocol

open Evm

/-! ### Requests -/

/-- **The hashes are bound to different claims that exist.** -/
structure RequestsBound (s : ClaimRegistry) : Prop where
  zero : s.delegatedClaimRequestIds 0 = 0
  lt_next : ∀ requestHash, s.delegatedClaimRequestIds requestHash < s.nextClaimId
  injective : ∀ hash₁ hash₂, s.delegatedClaimRequestIds hash₁ ≠ 0 →
    s.delegatedClaimRequestIds hash₁ = s.delegatedClaimRequestIds hash₂ → hash₁ = hash₂

/-- A request hash that is bound. -/
def requestBound (requestHash : Bytes32) (w : World) : Bool :=
  decide (w.claimRegistry.delegatedClaimRequestIds requestHash ≠ 0)

section

variable {ctx : Ctx} {parameters : ProtocolParameters}
  {moduleRegistry : ResolutionModuleRegistry} {replicationRegistry : ReplicationRegistry}
  {bondEscrow : IBondEscrow} {self s : ClaimRegistry} {call : ClaimRegistry.Call}

/-- **What a call does to the bindings**: nothing, or it binds a free hash to the next
number. -/
theorem ClaimRegistry.Step.requests_cases
    (h : Step ctx parameters moduleRegistry replicationRegistry bondEscrow self call s) :
    (s.delegatedClaimRequestIds = self.delegatedClaimRequestIds ∧
        self.nextClaimId ≤ s.nextClaimId) ∨
      ∃ requestHash, requestHash ≠ 0 ∧ self.delegatedClaimRequestIds requestHash = 0 ∧
        s.delegatedClaimRequestIds =
          self.delegatedClaimRequestIds.set requestHash self.nextClaimId ∧
        s.nextClaimId = self.nextClaimId + 1 := by
  cases h with
  | configureProtocolDependencies | requestServed | setClaimStatus | finalizeClaimResolution =>
    exact .inl ⟨rfl, le_rfl⟩
  | createClaim | createClaimOnBehalf | reviseClaim => exact .inl ⟨rfl, Nat.le_succ _⟩
  | @createClaimOnBehalfWithRequestHash _ _ _ requestHash _ _ _ hhash hfresh =>
    exact .inr ⟨requestHash, hhash, hfresh, rfl, rfl⟩

theorem ClaimRegistry.Step.requestsBound
    (h : Step ctx parameters moduleRegistry replicationRegistry bondEscrow self call s)
    (hself : RequestsBound self) : RequestsBound s := by
  rcases h.requests_cases with ⟨hids, hnext⟩ | ⟨requestHash, hhash, hfresh, hids, hnext⟩
  · refine ⟨?_, fun hash => ?_, ?_⟩ <;> simp only [hids]
    · exact hself.zero
    · exact (hself.lt_next hash).trans_le hnext
    · exact hself.injective
  · refine ⟨?_, fun hash => ?_, fun hash₁ hash₂ hbound heq => ?_⟩
    · rw [hids, Mapping.set_of_ne _ hhash.symm]
      exact hself.zero
    · have hlt := hself.lt_next hash
      rw [hids, hnext, Mapping.set_apply]
      split <;> omega
    -- The new number is above all the others, so a hash that shares it is the new one.
    · have hlt₁ := hself.lt_next hash₁
      have hlt₂ := hself.lt_next hash₂
      simp only [hids, Mapping.set_apply] at hbound heq
      by_cases h₁ : hash₁ = requestHash
      · by_cases h₂ : hash₂ = requestHash
        · rw [h₁, h₂]
        · rw [if_pos h₁, if_neg h₂] at heq
          omega
      · rw [if_neg h₁] at hbound heq
        by_cases h₂ : hash₂ = requestHash
        · rw [if_pos h₂] at heq
          omega
        · rw [if_neg h₂] at heq
          exact hself.injective _ _ hbound heq

/-- No call moves a binding. -/
theorem ClaimRegistry.Step.request_kept
    (h : Step ctx parameters moduleRegistry replicationRegistry bondEscrow self call s)
    {requestHash : Bytes32} (hbound : self.delegatedClaimRequestIds requestHash ≠ 0) :
    s.delegatedClaimRequestIds requestHash = self.delegatedClaimRequestIds requestHash := by
  rcases h.requests_cases with ⟨hids, -⟩ | ⟨hash, -, hfresh, hids, -⟩
  · rw [hids]
  · rw [hids]
    refine Mapping.set_of_ne _ (fun heq => ?_) _
    subst heq
    exact hbound hfresh

/-- **A request that was served is answered with its claim**, and nothing changes. -/
theorem ClaimRegistry.createClaimOnBehalfWithRequestHash_of_bound {summary : ClaimSummary}
    {authorBondAmount : ℕ} {resolutionModule : Address} {requestHash : Bytes32}
    (hrole : ctx.hasRole .claimSubmitter ctx.sender = true) (hauthor : summary.author ≠ 0)
    (hhash : requestHash ≠ 0) (hbound : self.delegatedClaimRequestIds requestHash ≠ 0) :
    self.createClaimOnBehalfWithRequestHash ctx parameters moduleRegistry summary
      authorBondAmount resolutionModule requestHash =
        .ok (self.delegatedClaimRequestIds requestHash, self) := by
  have hsubmitter : ctx.onlyRole .claimSubmitter = .ok () := (Ctx.onlyRole_eq_ok ctx).mpr hrole
  simp only [createClaimOnBehalfWithRequestHash, hsubmitter, requireNonzeroClaimAuthor,
    revertIf_of_not hauthor, revertIf_of_not hhash, ok_bind, if_pos hbound, pure_eq_ok]

end

/-! ### Revisions -/

/-- The claim that a claim revises, or `0`. -/
def revised (s : ClaimRegistry) (id : ℕ) : ℕ := (s.claims id).revisionOfClaimId

/-- **A revision is younger than what it revises**, and by the same author. -/
structure Lineage (s : ClaimRegistry) : Prop where
  lt : ∀ id, id ≠ 0 → revised s id < id
  same_author : ∀ id, revised s id ≠ 0 →
    (s.claims (revised s id)).claimId ≠ 0 ∧
      (s.claims (revised s id)).summary.author = (s.claims id).summary.author

/-- Going down in the natural numbers ends at `0`. -/
theorem exists_iterate_eq_zero {f : ℕ → ℕ} (h : ∀ n, n ≠ 0 → f n < n) (n : ℕ) :
    ∃ k, f^[k] n = 0 := by
  induction n using Nat.strong_induction_on with
  | _ n ih =>
    by_cases hn : n = 0
    · exact ⟨0, hn⟩
    · obtain ⟨k, hk⟩ := ih (f n) (h n hn)
      exact ⟨k + 1, hk⟩

theorem Lineage.zero {s : ClaimRegistry} (hs : s.Indexed) : revised s 0 = 0 := by
  rw [revised, hs.claims.blank 0 (.inl rfl)]
  rfl

/-- The claims a claim goes back to have its author. -/
theorem Lineage.author_eq {s : ClaimRegistry} (h : Lineage s) (hs : s.Indexed) (id k : ℕ)
    (hk : (revised s)^[k] id ≠ 0) :
    (s.claims ((revised s)^[k] id)).summary.author = (s.claims id).summary.author := by
  induction k with
  | zero => rfl
  | succ k ih =>
    rw [Function.iterate_succ_apply'] at hk ⊢
    -- Only `0` revises `0`, so the chain has not ended before.
    have hk' : (revised s)^[k] id ≠ 0 := fun hzero => by
      rw [hzero, Lineage.zero hs] at hk
      exact hk rfl
    rw [(h.same_author _ hk).2, ih hk']

section

variable {D : Deployment} {a : Action Message Suspended} {c : Config World Suspended}
  {tr : List ProtocolEvent} {w w' : World}

/-- The slots of the claims after a step, and the lineage of each. -/
theorem lineage_of_effect (hc : (protocol D).Reachable c)
    (heffect : (protocol D).Effect a c.world w') (h : Lineage c.world.claimRegistry) :
    Lineage w'.claimRegistry := by
  have hindexed := (registries_indexed hc).1
  -- What a step does to a claim decides what it revises.
  have hrevised : ∀ id, revised w'.claimRegistry id = 0 ∨
      (revised w'.claimRegistry id < id ∧
        (c.world.claimRegistry.claims (revised w'.claimRegistry id)).claimId ≠ 0 ∧
        (c.world.claimRegistry.claims (revised w'.claimRegistry id)).summary.author =
          (w'.claimRegistry.claims id).summary.author) := by
    intro id
    have hold : revised c.world.claimRegistry id = 0 ∨
        (revised c.world.claimRegistry id < id ∧
          (c.world.claimRegistry.claims (revised c.world.claimRegistry id)).claimId ≠ 0 ∧
          (c.world.claimRegistry.claims (revised c.world.claimRegistry id)).summary.author =
            (c.world.claimRegistry.claims id).summary.author) := by
      by_cases hzero : revised c.world.claimRegistry id = 0
      · exact .inl hzero
      · refine .inr ⟨h.lt id fun hid => ?_, h.same_author id hzero⟩
        rw [hid, Lineage.zero hindexed] at hzero
        exact hzero rfl
    have hchange := claimChange_of_effect heffect id
    rw [revised]
    generalize w'.claimRegistry.claims id = record at hchange ⊢
    cases hchange with
    | unchanged | moved => exact hold
    | created hid _ _ _ hprior =>
      rcases hprior with hzero | ⟨hexists, hauthor⟩
      · exact .inl hzero
      · exact .inr ⟨hid ▸ hindexed.claims.lt_next rfl hexists, hexists, hauthor⟩
  refine ⟨fun id hid => ?_, fun id hne => ?_⟩
  · rcases hrevised id with hzero | ⟨hlt, -⟩
    · omega
    · exact hlt
  · rcases hrevised id with hzero | ⟨-, hexists, hauthor⟩
    · exact absurd hzero hne
    · have hkept := claimKept_of_effect hc heffect (revised w'.claimRegistry id) hexists
      rw [hkept]
      exact ⟨hexists, hauthor⟩

theorem lineage_of_reachable (h : (protocol D).Reachable c) : Lineage c.world.claimRegistry := by
  refine h.invariant (I := fun w => Lineage w.claimRegistry) ?_ fun hc hI heffect =>
    lineage_of_effect hc heffect hI
  rintro _ ⟨now, hasRole, -, -, rfl⟩
  exact ⟨fun id hid => Nat.pos_of_ne_zero hid, fun id hne => absurd rfl hne⟩

theorem requestsBound_of_reachable (h : (protocol D).Reachable c) :
    RequestsBound c.world.claimRegistry :=
  registries_invariant (I := fun claimRegistry _ => RequestsBound claimRegistry)
    ⟨rfl, fun _ => Nat.one_pos, fun _ _ hbound => absurd rfl hbound⟩
    (fun _ hstep hI => hstep.requestsBound hI)
    (fun _ _ hI => hI) h

/-! ### Every observable moment -/

/-- The delegated creation a message asks for. -/
structure Delegates (m : Message) (requestHash : Bytes32) (summary : ClaimSummary)
    (authorBondAmount : ℕ) (resolutionModule : Address) : Prop where
  target : m.target = .claimRegistry
    (.createClaimOnBehalfWithRequestHash summary authorBondAmount resolutionModule requestHash)

/-- **What a successful delegated creation did**: the first time it bound the hash to a new
claim, and every other time it changed nothing. -/
theorem World.Step.delegated {m : Message} {requestHash : Bytes32} {summary : ClaimSummary}
    {authorBondAmount : ℕ} {resolutionModule : Address} (h : World.Step D (.exec m) w w')
    (hm : Delegates m requestHash summary authorBondAmount resolutionModule) :
    (requestBound requestHash w = true ∧ w' = w) ∨
      (requestBound requestHash w = false ∧
        w'.claimRegistry.delegatedClaimRequestIds requestHash =
          w.claimRegistry.nextClaimId) := by
  cases h with
  | claimRegistry htarget hexec =>
    obtain rfl := Target.claimRegistry.inj (htarget.symm.trans hm.target)
    have hstep := ClaimRegistry.step_of_exec hexec
    generalize hself : w.claimRegistry = self at hstep
    cases hstep with
    | requestServed _ _ _ hbound =>
      refine .inl ⟨?_, ?_⟩
      · simpa [requestBound, hself] using hbound
      · rw [← hself]
    | createClaimOnBehalfWithRequestHash _ _ _ hfresh =>
      refine .inr ⟨?_, ?_⟩
      · simpa [requestBound, hself] using hfresh
      · simp
  | _ htarget => exact absurd (htarget.symm.trans hm.target) (by simp)

theorem request_kept_of_effect (h : (protocol D).Effect a w w') {requestHash : Bytes32}
    (hbound : w.claimRegistry.delegatedClaimRequestIds requestHash ≠ 0) :
    w'.claimRegistry.delegatedClaimRequestIds requestHash =
      w.claimRegistry.delegatedClaimRequestIds requestHash := by
  rcases (World.step_of_effect h).claimRegistry_cases with heq | ⟨m, call, -, -, hstep⟩
  · rw [heq]
  · exact hstep.request_kept hbound

theorem latched_requestBound (requestHash : Bytes32) :
    (protocol D).Latched (requestBound requestHash) := by
  refine ⟨?_, fun {tr c a w'} _ heffect hbound => ?_⟩
  · rintro _ ⟨now, hasRole, -, -, rfl⟩
    rfl
  · have hkept := request_kept_of_effect heffect (of_decide_eq_true hbound)
    rw [requestBound, hkept]
    exact hbound

/-- **What a history tells of requests and revisions**, up to the world `w` it has reached. -/
structure LineageSound (D : Deployment) (tr : List ProtocolEvent) (w : World) : Prop where
  /-- A hash is bound once, and stays bound to the same claim, -/
  bound_once : ∀ requestHash, tr.countP (·.raises (requestBound requestHash)) =
    if requestBound requestHash w then 1 else 0
  bound_kept : ∀ e ∈ tr, ∀ requestHash, requestBound requestHash e.after = true →
    w.claimRegistry.delegatedClaimRequestIds requestHash =
      e.after.claimRegistry.delegatedClaimRequestIds requestHash
  /-- which exists; the zero hash is never bound, and no two hashes to one claim. -/
  bound_exists : ∀ requestHash, requestBound requestHash w = true → requestHash ≠ 0 ∧
    (w.claimRegistry.claims (w.claimRegistry.delegatedClaimRequestIds requestHash)).claimId ≠ 0
  bound_injective : ∀ hash₁ hash₂, requestBound hash₁ w = true →
    w.claimRegistry.delegatedClaimRequestIds hash₁ =
      w.claimRegistry.delegatedClaimRequestIds hash₂ → hash₁ = hash₂
  /-- A delegated creation bound its hash to a new claim or found it bound and did nothing. -/
  delegated : ∀ e ∈ tr, ∀ m requestHash summary authorBondAmount resolutionModule,
    e.action = .exec m → Delegates m requestHash summary authorBondAmount resolutionModule →
    (e.raises (requestBound requestHash) = true ∧
        e.after.claimRegistry.delegatedClaimRequestIds requestHash =
          e.before.claimRegistry.nextClaimId) ∨
      (requestBound requestHash e.before = true ∧ e.after = e.before)
  /-- One that comes now for a bound hash is answered with its claim, -/
  answered : ∀ m requestHash summary authorBondAmount resolutionModule,
    Delegates m requestHash summary authorBondAmount resolutionModule →
    requestBound requestHash w = true → m.value = 0 →
    w.hasRole .claimSubmitter m.sender = true → summary.author ≠ 0 →
    w.claimRegistry.createClaimOnBehalfWithRequestHash (w.context D m) w.protocolParameters
        w.resolutionModuleRegistry summary authorBondAmount resolutionModule requestHash =
      .ok (w.claimRegistry.delegatedClaimRequestIds requestHash, w.claimRegistry) ∧
    World.exec D m w = .ok (.done w)
  /-- and changes nothing, whoever sends it and however it ends. -/
  unchanged : ∀ m requestHash summary authorBondAmount resolutionModule,
    Delegates m requestHash summary authorBondAmount resolutionModule →
    requestBound requestHash w = true → (protocol D).attempt m w = w
  /-- From revision to revised claim the numbers fall, to `0`, -/
  decreasing : ∀ id, id ≠ 0 → revised w.claimRegistry id < id
  ends : ∀ id, ∃ k, (revised w.claimRegistry)^[k] id = 0
  /-- and the author stays the same. -/
  same_author : ∀ id k, (revised w.claimRegistry)^[k] id ≠ 0 →
    (w.claimRegistry.claims ((revised w.claimRegistry)^[k] id)).summary.author =
      (w.claimRegistry.claims id).summary.author

/-- **Requests and revisions are sound in every history.** -/
theorem lineage_sound (h : (protocol D).Run tr c) : LineageSound D tr c.world where
  bound_once requestHash := h.countP_raises (latched_requestBound requestHash)
  bound_kept e he requestHash hbound := by
    have hne : e.after.claimRegistry.delegatedClaimRequestIds requestHash ≠ 0 :=
      of_decide_eq_true hbound
    exact (h.event_relation (R := fun w w' => ∀ hash,
        w.claimRegistry.delegatedClaimRequestIds hash ≠ 0 →
        w'.claimRegistry.delegatedClaimRequestIds hash =
          w.claimRegistry.delegatedClaimRequestIds hash)
      (fun _ _ _ => rfl)
      (fun h₁₂ h₂₃ hash hbound => by
        have heq := h₁₂ hash hbound
        exact (h₂₃ hash (by rwa [heq])).trans heq)
      (fun _ heffect _ hbound => request_kept_of_effect heffect hbound) e he).2 requestHash hne
  bound_exists requestHash hbound := by
    have hrequests := requestsBound_of_reachable h.reachable
    have hne := of_decide_eq_true hbound
    refine ⟨fun hzero => hne (hzero ▸ hrequests.zero), ?_⟩
    exact ((registries_indexed h.reachable).1.claims.ne_zero_iff rfl).mpr
      ⟨Nat.pos_of_ne_zero hne, hrequests.lt_next requestHash⟩
  bound_injective hash₁ hash₂ hbound heq :=
    (requestsBound_of_reachable h.reachable).injective hash₁ hash₂ (of_decide_eq_true hbound) heq
  delegated e he m requestHash summary authorBondAmount resolutionModule ha hm := by
    obtain ⟨heffect, tr', fs, hrun⟩ := h.event_effect e he
    rw [ha] at heffect
    rcases (World.step_of_effect heffect).delegated hm with hserved | ⟨hfresh, hbinds⟩
    · exact .inr hserved
    · refine .inl ⟨?_, hbinds⟩
      have hpos := (registries_indexed hrun.reachable).1.claims.next_pos
      simp [Event.raises, requestBound, hbinds, hpos.ne', of_decide_eq_false hfresh]
  answered m requestHash summary authorBondAmount resolutionModule hm hbound hvalue hrole
      hauthor := by
    have hne := of_decide_eq_true hbound
    have hhash : requestHash ≠ 0 := fun hzero =>
      hne (hzero ▸ (requestsBound_of_reachable h.reachable).zero)
    have hanswer : c.world.claimRegistry.createClaimOnBehalfWithRequestHash (c.world.context D m)
        c.world.protocolParameters c.world.resolutionModuleRegistry summary authorBondAmount
        resolutionModule requestHash =
          .ok (c.world.claimRegistry.delegatedClaimRequestIds requestHash, c.world.claimRegistry) :=
      ClaimRegistry.createClaimOnBehalfWithRequestHash_of_bound hrole hauthor hhash hne
    refine ⟨hanswer, ?_⟩
    have hpayable : (c.world.context D m).nonPayable = .ok () :=
      (Ctx.nonPayable_eq_ok _).mpr hvalue
    simp only [World.exec, hm.target, ClaimRegistry.Call.linked, ClaimRegistry.exec, hpayable,
      ok_bind, hanswer, map_ok]
  unchanged m requestHash summary authorBondAmount resolutionModule hm hbound := by
    rcases hexec : World.exec D m c.world with err | o
    · exact Machine.attempt_of_error (M := protocol D) hexec
    · rw [Machine.attempt_of_ok (M := protocol D) hexec]
      rcases (World.step_of_exec hexec).delegated hm with ⟨-, heq⟩ | ⟨hfresh, -⟩
      · exact heq
      · exact absurd (hfresh.symm.trans hbound) Bool.false_ne_true
  decreasing := (lineage_of_reachable h.reachable).lt
  ends := exists_iterate_eq_zero (lineage_of_reachable h.reachable).lt
  same_author id k hk :=
    (lineage_of_reachable h.reachable).author_eq (registries_indexed h.reachable).1 id k hk

/-- A request of the author `0xAA` is submitted twice, with a claim of somebody else and a
revision by `0xAA` in between. -/
def retriedRequest : List (Move Message) :=
  [send 0x0A 0 (.resolutionModuleRegistry (.registerModule 0xC0 "")),
    send 0x0A 0 (.claimRegistry (.createClaimOnBehalfWithRequestHash
      { (default : ClaimSummary) with author := 0xAA } 0 0xC0 7)),
    send 0xBB 0 (.claimRegistry
      (.createClaim { (default : ClaimSummary) with author := 0xBB } 0 0xC0)),
    send 0xAA 0 (.claimRegistry
      (.reviseClaim 1 { (default : ClaimSummary) with author := 0xAA } 0 0xC0)),
    send 0x0A 0 (.claimRegistry (.createClaimOnBehalfWithRequestHash
      { (default : ClaimSummary) with author := 0xAA } 0 0xC0 7))]

theorem playDevnet_retriedRequest : (playDevnet retriedRequest).isSome := by
  decide

/-- The hash of the request was bound once. -/
theorem lineage_sound_retriedRequest :
    ((playDevnet retriedRequest).get playDevnet_retriedRequest).1.countP
      (·.raises (requestBound 7)) = 1 :=
  ((lineage_sound (run_playDevnet playDevnet_retriedRequest)).bound_once 7).trans
    (by decide)

end

end ScientificProtocol
