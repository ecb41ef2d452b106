import ScientificProtocol.Sources.Grounding
import ScientificProtocol.Sources.Rejection

/-!
# A claim that waits for its bond

A publication stops when the claim has been created: its author has to put down a bond, and then
a second call goes on with the attempt. Which call this can be is a matter of the attempt. One that
was reserved by hand is gone on with by hand, by the author of the claim and with the candidate it
was reserved with. One that was reserved automatically is not gone on with by hand, as the modes
differ; and an automatic call says that a bond is awaited, whether it has been put down or not. So
what has been created automatically is never published by any of the calls
(`ScientificProtocol.Sources.leads_iff`).

What is gone on with by hand comes to its end if the claim is in the read model by then: the call
synchronizes the read model once the claim is public, and the row of the source can refer to no
claim that has not been indexed.

| the attempt was reserved | a call by hand | an automatic call |
|---|---|---|
| by hand | publishes the claim | fails, as the modes differ |
| automatically | fails, as the modes differ | shows the source as ready |
-/

namespace ScientificProtocol.Sources

open Concurrency Evm
open Review (Time)

/-- A claim that has been published, and has not been withdrawn. -/
def IsPublic (status : ClaimStatus) : Prop := status ≠ .draft ∧ status ≠ .deprecated

instance (status : ClaimStatus) : Decidable (IsPublic status) := inferInstanceAs (Decidable (_ ∧ _))

/-- **A source is published with a claim**: it has the claim, says so, and the claim is public. -/
structure PublishedWith (sourceId claimId : ℕ) (s : PublicationState) : Prop where
  claim : s.db.publishedClaimId sourceId = some claimId
  shown : IsPublished sourceId s.db
  onChain : IsPublic (s.chain.world.claimRegistry.claims claimId).status

/-- A call that may publish a source. -/
def PublicationCall.Publishes (sourceId : ℕ) : PublicationCall → Prop
  | .attemptSourceAutoPublication sourceId' => sourceId' = sourceId
  | .confirmSourcePublication sourceId' _ _ => sourceId' = sourceId
  | .rejectSourcePublication .. => False

/-- A call acts, and nobody else does anything. -/
def CallStep (O : Operator) (x y : PublicationState × Publisher) : Prop :=
  ∃ a, Publisher.act O a x.1 x.2 = some y

/-- **Some call publishes the source**, if it is left alone. -/
def Leads (O : Operator) (sourceId claimId : ℕ) (s : PublicationState) : Prop :=
  ∃ call, PublicationCall.Publishes sourceId call ∧ ∃ s' p',
    Relation.ReflTransGen (CallStep O) (s, .starting call) (s', p') ∧
      PublishedWith sourceId claimId s'

/-- **A synchronization makes the claim known**: it does not throw, and the claim is in the read
model then. -/
def Operator.Indexes (O : Operator) (db : SourceDb) (claimId : ℕ) (w : World) : Prop :=
  ∃ claims, O.syncClaimReadModel w = .ok claims ∧ claimId ∈ db.claims ++ claims

/-- The chain with a claim that the resolver has published. -/
def Operator.publishedClaim (O : Operator) (claimId : ℕ) (w : World) : World :=
  { w with claimRegistry := { w.claimRegistry with
      claims := w.claimRegistry.claims.set claimId
        { w.claimRegistry.claims claimId with status := .published }
      logs := w.claimRegistry.logs ++
        [.claimStatusUpdated claimId .draft .published O.resolver] } }

/-- **The resolver is able to publish a draft.** -/
structure Publishable (O : Operator) (claimId : ℕ) (w : World) : Prop where
  draft : (w.claimRegistry.claims claimId).status = .draft
  role : w.hasRole .resolver O.resolver = true
  linked : w.claimRegistry.bondEscrow ≠ 0 ∧ w.claimRegistry.replicationRegistry ≠ 0

/-- **What an attempt needs to be gone on with**: it was reserved by hand, and the claim is public,
or it is a draft that the resolver is able to publish; and once it is public, a synchronization
makes it known. -/
structure Continuable (O : Operator) (attempt : SourcePublicationAttempt) (claimId : ℕ)
    (db : SourceDb) (w : World) : Prop where
  byHand : attempt.publicationMode = .manual
  onChain : IsPublic (w.claimRegistry.claims claimId).status ∧ O.Indexes db claimId w ∨
    Publishable O claimId w ∧ O.Indexes db claimId (O.publishedClaim claimId w)

/-! ### Publishing on the chain -/

section

variable {O : Operator} {w : World} {db : SourceDb} {sourceId claimId : ℕ}

/-- A claim whose bond is there is there itself. -/
theorem isAuthorBondSatisfied_eq_ok_true :
    w.bondEscrow.isAuthorBondSatisfied w.claimRegistry claimId = .ok true ↔
      (w.claimRegistry.claims claimId).claimId ≠ 0 ∧
        (w.claimRegistry.claims claimId).requiredAuthorBond ≤
          w.bondEscrow.authorBondBalances claimId := by
  simp only [BondEscrow.isAuthorBondSatisfied, ClaimRegistry.getRequiredAuthorBond,
    ClaimRegistry.requireExistingClaim, bind_eq_ok, revertIf_eq_ok, pure_eq_ok, Except.ok.injEq,
    decide_eq_true_eq]
  constructor
  · rintro ⟨_, ⟨_, ⟨_, hexists, rfl⟩, rfl⟩, hbond⟩
    exact ⟨hexists, hbond⟩
  · rintro ⟨hexists, hbond⟩
    exact ⟨_, ⟨_, ⟨(), hexists, rfl⟩, rfl⟩, hbond⟩

/-- **When the resolver may publish a draft** whose bond is there. -/
theorem requireAuthorBond_eq_ok
    (hbond : w.bondEscrow.isAuthorBondSatisfied w.claimRegistry claimId = .ok true) :
    w.claimRegistry.requireAuthorBond (w.bondEscrow.toIBondEscrow w.claimRegistry) claimId =
      .ok () ↔ w.claimRegistry.bondEscrow ≠ 0 ∧ w.claimRegistry.replicationRegistry ≠ 0 := by
  simp only [ClaimRegistry.requireAuthorBond, ClaimRegistry.requireProtocolDependencies,
    BondEscrow.toIBondEscrow, hbond, bind_eq_ok, revertIf_eq_ok, not_or, Except.ok.injEq]
  constructor
  · rintro ⟨_, hlinked, -⟩
    exact hlinked
  · intro hlinked
    exact ⟨(), hlinked, true, rfl, by simp⟩

/-- What the resolver makes of a draft. -/
theorem exec_publishClaim (hdraft : (w.claimRegistry.claims claimId).status = .draft)
    (hbond : w.bondEscrow.isAuthorBondSatisfied w.claimRegistry claimId = .ok true)
    {o : Outcome World Suspended} :
    World.exec O.deployment (O.message db (.publishClaim sourceId claimId)) w = .ok o ↔
      Publishable O claimId w ∧ o = .done (O.publishedClaim claimId w) := by
  have hexists := (isAuthorBondSatisfied_eq_ok_true.mp hbond).1
  have hallowed : ClaimRegistry.isAllowedTransition .draft .published = true := rfl
  have hderived : ClaimRegistry.isResolutionDerivedStatus .published = false := rfl
  simp only [World.exec, Operator.message, Operator.target, Operator.sender, World.context,
    ClaimRegistry.Call.linked, ClaimRegistry.exec, ClaimRegistry.setClaimStatus, map_eq_ok,
    bind_eq_ok, revertIf_eq_ok, Ctx.onlyRole_eq_ok, if_true, hdraft, hexists, hallowed, hderived,
    requireAuthorBond_eq_ok hbond]
  constructor
  · rintro ⟨s, ⟨_, -, _, hrole, _, -, _, -, _, -, _, hlinked, heq⟩, rfl⟩
    obtain rfl := Except.ok.inj heq
    exact ⟨⟨hdraft, hrole, hlinked⟩, rfl⟩
  · rintro ⟨⟨-, hrole, hlinked⟩, rfl⟩
    exact ⟨_, ⟨(), rfl, (), hrole, (), not_false, (), Bool.false_ne_true, (), not_not.mpr trivial,
      (), hlinked, rfl⟩, rfl⟩

theorem isPublic_publishedClaim :
    IsPublic ((O.publishedClaim claimId w).claimRegistry.claims claimId).status := by
  have hstatus : ((O.publishedClaim claimId w).claimRegistry.claims claimId).status = .published :=
    congrArg ClaimRecord.status (Mapping.set_self ..)
  rw [hstatus]
  decide

/-! ### A call that publishes the source -/

variable {s : PublicationState} {p p' : Publisher} {db' : SourceDb} {now : Time}
  {source : SourceRecord} {attempt : SourcePublicationAttempt} {draft : PublicationDraft}

theorem callStep_next (hframes : s.chain.frames = [])
    (h : p.next O now s.db s.chain.world = some (db', p')) :
    CallStep O (s, p) (⟨db', s.chain⟩, p') := by
  refine ⟨.next now, ?_⟩
  simp only [Publisher.act, hframes, h, Option.map_some]

/-- **The end of a publication**: the claim is public and is indexed, and the source is marked. -/
theorem leads_sync (hframes : s.chain.frames = [])
    (hrow : (s.db.sources sourceId).isSome = true)
    (hpublic : IsPublic (s.chain.world.claimRegistry.claims claimId).status)
    (hindexes : O.Indexes s.db claimId s.chain.world) :
    ∃ s' p', Relation.ReflTransGen (CallStep O) (s, .syncing sourceId claimId) (s', p') ∧
      PublishedWith sourceId claimId s' := by
  obtain ⟨source, hsource⟩ := Option.isSome_iff_exists.mp hrow
  obtain ⟨claims, hsync, hindexed⟩ := hindexes
  let synced : SourceDb := { s.db with claims := s.db.claims ++ claims }
  have hafter : (synced.setPublished 0 sourceId claimId).sources sourceId =
      some { source with
        publishedClaimId := some claimId, status := .published, updatedAt := 0 } := by
    rw [SourceDb.setPublished, Sql.Serial.update_self]
    simp only [synced, hsource, Option.map_some]
  have hfind : Publisher.next O 0 s.db s.chain.world (.syncing sourceId claimId) =
      some (synced, .marking sourceId claimId) := by
    simp only [Publisher.next, hsync, synced]
  have hmark : Publisher.next O 0 synced s.chain.world (.marking sourceId claimId) =
      some (synced.setPublished 0 sourceId claimId, .completing sourceId claimId) := by
    simp only [Publisher.next, markSourcePublished]
    rw [if_pos (show claimId ∈ synced.claims from hindexed)]
  have hsynced : CallStep O (s, .syncing sourceId claimId)
      (⟨synced, s.chain⟩, .marking sourceId claimId) := callStep_next hframes hfind
  have hmarked : CallStep O (⟨synced, s.chain⟩, .marking sourceId claimId)
      (⟨synced.setPublished 0 sourceId claimId, s.chain⟩, .completing sourceId claimId) :=
    callStep_next (s := ⟨synced, s.chain⟩) hframes hmark
  exact ⟨_, _, .head hsynced (.single hmarked), publishedClaimId_eq hafter, ⟨_, hafter, rfl⟩,
    hpublic⟩

/-- The author of a claim that needs no more than to be published, or to be marked. -/
theorem leads_publish (hframes : s.chain.frames = [])
    (hrow : (s.db.sources draft.sourceId).isSome = true)
    (hbond : s.chain.world.bondEscrow.isAuthorBondSatisfied s.chain.world.claimRegistry claimId =
      .ok true)
    (hauthor : draft.confirmedBy = some (s.chain.world.claimRegistry.claims claimId).summary.author)
    (h : Continuable O attempt claimId s.db s.chain.world) :
    ∃ s' p', Relation.ReflTransGen (CallStep O) (s, .publishing draft claimId) (s', p') ∧
      PublishedWith draft.sourceId claimId s' := by
  have hexists := (isAuthorBondSatisfied_eq_ok_true.mp hbond).1
  have hnext : Publisher.next O 0 s.db s.chain.world (.publishing draft claimId) =
      some (s.db, Publisher.publish s.chain.world draft claimId) := rfl
  rcases h.onChain with ⟨hpublic, hindexes⟩ | ⟨hpublishable, hindexes⟩
  · have hsync : Publisher.publish s.chain.world draft claimId =
        .syncing draft.sourceId claimId := by
      obtain ⟨hnotDraft, hnotDeprecated⟩ := hpublic
      simp only [Publisher.publish, if_neg hexists, hauthor, ne_eq, not_true_eq_false, if_false]
    rw [hsync] at hnext
    obtain ⟨s', p', hsteps, hpublished⟩ := leads_sync (O := O) hframes hrow hpublic hindexes
    exact ⟨s', p', .head (callStep_next hframes hnext) hsteps, hpublished⟩
  · have hsend : Publisher.publish s.chain.world draft claimId =
        .sentPublish draft.sourceId claimId := by
      simp only [Publisher.publish, if_neg hexists, hauthor, ne_eq, not_true_eq_false, if_false,
        hpublishable.draft, hbond]
    rw [hsend] at hnext
    have hexec : World.exec O.deployment (O.message s.db (.publishClaim draft.sourceId claimId))
        s.chain.world = .ok (.done (O.publishedClaim claimId s.chain.world)) :=
      (exec_publishClaim hpublishable.draft hbond).mpr ⟨hpublishable, rfl⟩
    have hmine : CallStep O (s, .sentPublish draft.sourceId claimId)
        (⟨s.db, ⟨O.publishedClaim claimId s.chain.world, []⟩⟩,
          .syncing draft.sourceId claimId) := by
      refine ⟨.mine, ?_⟩
      simp only [Publisher.act, hframes, Publisher.inFlight, Option.bind_some, Publisher.mine,
        hexec]
      rfl
    obtain ⟨s', p', hsteps, hpublished⟩ :=
      leads_sync (O := O) (s := ⟨s.db, ⟨O.publishedClaim claimId s.chain.world, []⟩⟩) rfl hrow
        isPublic_publishedClaim hindexes
    exact ⟨s', p', .head (callStep_next hframes hnext) (.head hmine hsteps), hpublished⟩

/-- **An attempt that can be gone on with leads to a publication**: the author of the claim
confirms the candidate the attempt was reserved with. -/
theorem leads_of_continuable (hframes : s.chain.frames = [])
    (hrow : s.db.sources sourceId = some source) (hnone : source.publishedClaimId = none)
    (hstatus : source.status ≠ .rejected)
    (hattempt : s.db.publicationAttempts sourceId = some attempt)
    (hready : attempt.status = .claimReady) (hclaim : attempt.claimId = some claimId)
    {candidate : SourceExtractionCandidate}
    (hcandidate : s.db.candidates attempt.candidateId = some candidate)
    (hat : candidate.sourceId = sourceId)
    (hbond : s.chain.world.bondEscrow.isAuthorBondSatisfied s.chain.world.claimRegistry claimId =
      .ok true)
    (h : Continuable O attempt claimId s.db s.chain.world) : Leads O sourceId claimId s := by
  let author := (s.chain.world.claimRegistry.claims claimId).summary.author
  let call := PublicationCall.confirmSourcePublication sourceId author attempt.candidateId
  obtain ⟨winner, hfind⟩ : ∃ winner, (readSourceExtractionCandidates s.db sourceId).find?
      (fun found => decide (found.1 = attempt.candidateId)) =
        some (attempt.candidateId, winner) := by
    have hmem := mem_readSourceExtractionCandidates.mpr ⟨hcandidate, hat⟩
    have hsome : ((readSourceExtractionCandidates s.db sourceId).find?
        (fun found => decide (found.1 = attempt.candidateId))).isSome = true :=
      List.find?_isSome.mpr ⟨_, hmem, decide_eq_true rfl⟩
    obtain ⟨⟨id, winner⟩, hfind⟩ := Option.isSome_iff_exists.mp hsome
    obtain rfl : id = attempt.candidateId := of_decide_eq_true (List.find?_some hfind :)
    exact ⟨winner, hfind⟩
  let draft : PublicationDraft :=
    ⟨sourceId, source, attempt.candidateId, winner, some author⟩
  have hstart : Publisher.next O 0 s.db s.chain.world (.starting call) =
      some (s.db, .choosing call source) := by
    simp only [Publisher.next, call, PublicationCall.sourceId, hrow, Publisher.start, hnone,
      if_neg hstatus]
  have hchoose : Publisher.next O 0 s.db s.chain.world (.choosing call source) =
      some (s.db, .reserving draft) := by
    simp only [Publisher.next, call, PublicationCall.sourceId, Publisher.choose, hfind,
      Option.map_some, draft]
  have hreserve : Publisher.next O 0 s.db s.chain.world (.reserving draft) =
      some (s.db, .reserved draft false) := by
    simp only [Publisher.next, reserveSourcePublicationAttempt, draft, hattempt]
  have hmode : draft.publicationMode = .manual := rfl
  have hgoOn : Publisher.next O 0 s.db s.chain.world (.reserved draft false) =
      some (s.db, .publishing draft claimId) := by
    simp only [Publisher.next, Publisher.reserve, hattempt, Bool.false_eq_true, if_false, hmode,
      h.byHand, ne_eq, not_true_eq_false, or_self, hready, hclaim, draft]
  have hrest : ∃ s' p', Relation.ReflTransGen (CallStep O) (s, .publishing draft claimId) (s', p') ∧
      PublishedWith sourceId claimId s' :=
    leads_publish hframes (Option.isSome_of_eq_some hrow) hbond rfl h
  obtain ⟨s', p', hsteps, hpublished⟩ := hrest
  exact ⟨call, rfl, s', p', .head (callStep_next hframes hstart) (.head (callStep_next hframes
    hchoose) (.head (callStep_next hframes hreserve) (.head (callStep_next hframes hgoOn)
      hsteps))), hpublished⟩

/-! ### Calls that come to nothing -/

/-- **Where a call can be** that has not published the claim: it goes on with the attempt only if it
is one by hand, and sends the claim to be published only if it is a draft. -/
def Publisher.Held (sourceId claimId : ℕ) (attempt : SourcePublicationAttempt) (w : World) :
    Publisher → Prop
  | .starting call | .choosing call _ => call.Publishes sourceId
  | .reserving draft | .reserved draft false => draft.sourceId = sourceId
  | .publishing draft claimId' =>
    draft.sourceId = sourceId ∧ claimId' = claimId ∧ attempt.publicationMode = .manual
  | .sentPublish sourceId' claimId' => (sourceId' = sourceId ∧ claimId' = claimId) ∧
    attempt.publicationMode = .manual ∧ (w.claimRegistry.claims claimId).status = .draft
  | .drafting _ _ | .returned _ _ | .threw _ _ | .crashed _ => True
  | _ => False

/-- **Where a call can be** that finds the claim public, and will not find it indexed. -/
def Publisher.Vain (O : Operator) (claimId : ℕ) (s : PublicationState) : Publisher → Prop
  | .syncing _ claimId' => claimId' = claimId ∧ ¬O.Indexes s.db claimId s.chain.world
  | .marking _ claimId' => claimId' = claimId ∧ claimId ∉ s.db.claims
  | .returned _ _ | .threw _ _ | .crashed _ => True
  | _ => False

/-- **A state in which nothing has come of a call**: the source has no claim, and everything is as
it was in the beginning, or the call will not find its claim. -/
inductive HeldBack (O : Operator) (sourceId claimId : ℕ) (attempt : SourcePublicationAttempt)
    (s₀ : PublicationState) : PublicationState × Publisher → Prop
  | before {s : PublicationState} {p : Publisher} :
      p.Held sourceId claimId attempt s₀.chain.world → s.db.publishedClaimId sourceId = none →
      s.db.publicationAttempts sourceId = some attempt → s.db.claims = s₀.db.claims →
      s.chain = s₀.chain → HeldBack O sourceId claimId attempt s₀ (s, p)
  | after {s : PublicationState} {p : Publisher} :
      p.Vain O claimId s → s.db.publishedClaimId sourceId = none →
      HeldBack O sourceId claimId attempt s₀ (s, p)

theorem HeldBack.unpublished {s₀ : PublicationState} {x : PublicationState × Publisher}
    (h : HeldBack O sourceId claimId attempt s₀ x) : x.1.db.publishedClaimId sourceId = none := by
  cases h with
  | before _ hnone | after _ hnone => exact hnone

section

variable {call : PublicationCall} {s₀ : PublicationState}

theorem held_refuse {reason error : String} :
    (Publisher.refuse draft reason error).Held sourceId claimId attempt w := by
  unfold Publisher.refuse
  split <;> trivial

theorem held_start (hcall : call.Publishes sourceId) {found : Option SourceRecord} :
    (Publisher.start found call).Held sourceId claimId attempt w := by
  cases found with
  | none =>
    cases call with
    | attemptSourceAutoPublication | confirmSourcePublication => trivial
    | rejectSourcePublication => exact hcall.elim
  | some source =>
    simp only [Publisher.start]
    cases call with
    | attemptSourceAutoPublication =>
      cases source.publishedClaimId with
      | none => exact hcall
      | some => trivial
    | confirmSourcePublication =>
      cases source.publishedClaimId with
      | none =>
        simp only
        split
        · trivial
        · exact hcall
      | some => trivial
    | rejectSourcePublication => exact hcall.elim

theorem held_choose (hcall : call.Publishes sourceId)
    {candidates : List (ℕ × SourceExtractionCandidate)}
    (h : Publisher.choose candidates source call = some p') :
    p'.Held sourceId claimId attempt w := by
  cases call with
  | attemptSourceAutoPublication =>
    obtain rfl := Option.some.inj h
    split
    · trivial
    · trivial
    · exact hcall
  | confirmSourcePublication =>
    obtain rfl := Option.some.inj h
    split
    · exact hcall
    · trivial
  | rejectSourcePublication => exact hcall.elim

/-- **Going on with an attempt**: an automatic call does not publish, and one by hand does so for
an attempt by hand. -/
theorem held_reserve (hsource : draft.sourceId = sourceId)
    (hclaim : attempt.claimId = some claimId) :
    (Publisher.reserve (some attempt) draft false).Held sourceId claimId attempt w := by
  simp only [Publisher.reserve, Bool.false_eq_true, if_false]
  split
  next => exact held_refuse
  next hsame =>
    have hmode : attempt.publicationMode = draft.publicationMode := by
      by_contra hne
      exact hsame (.inr hne)
    split
    next claimId' _ hclaim' =>
      obtain rfl := Option.some.inj (hclaim.symm.trans hclaim')
      split
      next => trivial
      next hmanual => exact ⟨hsource, rfl, hmode.trans hmanual⟩
    next => exact held_refuse

/-- A claim that is a draft is sent to be published, and one that is public is looked for. -/
theorem heldBack_publish (hsource : draft.sourceId = sourceId)
    (hmanual : attempt.publicationMode = .manual)
    (hnone : s.db.publishedClaimId sourceId = none)
    (hattempt : s.db.publicationAttempts sourceId = some attempt)
    (hclaims : s.db.claims = s₀.db.claims) (hchain : s.chain = s₀.chain)
    (hunknown : IsPublic (s.chain.world.claimRegistry.claims claimId).status →
      ¬O.Indexes s.db claimId s.chain.world) :
    HeldBack O sourceId claimId attempt s₀
      (s, Publisher.publish s.chain.world draft claimId) := by
  have hthrew : ∀ error, HeldBack O sourceId claimId attempt s₀ (s, .threw error none) :=
    fun _ => .after trivial hnone
  simp only [Publisher.publish]
  split
  · exact hthrew _
  · split
    · exact hthrew _
    · split
      next hdraft =>
        split
        · exact .before ⟨⟨hsource, rfl⟩, hmanual, hchain ▸ hdraft⟩ hnone hattempt hclaims hchain
        · exact hthrew _
      next => exact hthrew _
      next hdraft hdeprecated => exact .after ⟨rfl, hunknown ⟨hdraft, hdeprecated⟩⟩ hnone

/-- Such a call creates nothing. -/
theorem HeldBack.creates (h : HeldBack O sourceId claimId attempt s₀ (s, p)) :
    p.creates = none := by
  cases h with
  | before hheld =>
    cases p with
    | creating | sentClaim | created | attaching | sentArtifact | attached => exact hheld.elim
    | _ => rfl
  | after hvain =>
    cases p with
    | creating | sentClaim | created | attaching | sentArtifact | attached => exact hvain.elim
    | _ => rfl

/-- **The next statement** of a call that has not published the claim. -/
theorem heldBack_next (hclaim : attempt.claimId = some claimId)
    (hstuck : ¬Continuable O attempt claimId s₀.db s₀.chain.world)
    (hheld : p.Held sourceId claimId attempt s₀.chain.world)
    (hnone : s.db.publishedClaimId sourceId = none)
    (hattempt : s.db.publicationAttempts sourceId = some attempt)
    (hclaims : s.db.claims = s₀.db.claims) (hchain : s.chain = s₀.chain)
    (hnext : p.next O now s.db s.chain.world = some (db', p')) :
    HeldBack O sourceId claimId attempt s₀ (⟨db', s.chain⟩, p') := by
  have hquiet : db' = s.db → p'.Held sourceId claimId attempt s₀.chain.world →
      HeldBack O sourceId claimId attempt s₀ (⟨db', s.chain⟩, p') := by
    rintro rfl hheld'
    exact .before hheld' hnone hattempt hclaims hchain
  cases p with
  | starting call =>
    obtain ⟨rfl, rfl⟩ := Prod.mk.inj (Option.some.inj hnext)
    exact hquiet rfl (held_start hheld)
  | choosing call source =>
    obtain ⟨p'', hchoose, heq⟩ := Option.map_eq_some_iff.mp hnext
    obtain ⟨rfl, rfl⟩ := Prod.mk.inj heq
    exact hquiet rfl (held_choose hheld hchoose)
  | reserving draft =>
    obtain rfl : draft.sourceId = sourceId := hheld
    obtain ⟨rfl, rfl⟩ := Prod.mk.inj (Option.some.inj hnext)
    simp only [reserveSourcePublicationAttempt, hattempt]
    exact .before rfl hnone hattempt hclaims hchain
  | reserved draft isNew =>
    obtain ⟨rfl, rfl⟩ := Prod.mk.inj (Option.some.inj hnext)
    cases isNew with
    | true => exact hheld.elim
    | false =>
      obtain rfl : draft.sourceId = sourceId := hheld
      refine hquiet rfl ?_
      rw [hattempt]
      exact held_reserve rfl hclaim
  | publishing draft claimId' =>
    obtain ⟨hsource, rfl, hmanual⟩ := hheld
    obtain ⟨rfl, rfl⟩ := Prod.mk.inj (Option.some.inj hnext)
    refine heldBack_publish hsource hmanual hnone hattempt hclaims hchain fun hpublic hindexes => ?_
    unfold Operator.Indexes at hindexes
    rw [hclaims, hchain] at hindexes
    rw [hchain] at hpublic
    exact hstuck ⟨hmanual, .inl ⟨hpublic, hindexes⟩⟩
  | drafting sourceId' reason =>
    obtain ⟨rfl, rfl⟩ := Prod.mk.inj (Option.some.inj hnext)
    exact .after trivial (publishedClaimId_updateStatus.trans hnone)
  | idle | sentPublish | returned | threw | crashed => cases hnext
  | _ => exact hheld.elim

/-- **The next statement** of a call that will not find its claim: it finds that out. -/
theorem Publisher.Vain.next (h : p.Vain O claimId s)
    (hnext : p.next O now s.db s.chain.world = some (db', p')) :
    p'.Vain O claimId ⟨db', s.chain⟩ ∧ db'.sources = s.db.sources := by
  cases p with
  | syncing sourceId' claimId' =>
    obtain ⟨rfl, hunknown⟩ := h
    have heq := Option.some.inj hnext
    split at heq
    next claims hsync =>
      obtain ⟨rfl, rfl⟩ := Prod.mk.inj heq
      exact ⟨⟨rfl, fun hindexed => hunknown ⟨claims, hsync, hindexed⟩⟩, rfl⟩
    next =>
      obtain ⟨rfl, rfl⟩ := Prod.mk.inj heq
      exact ⟨trivial, rfl⟩
  | marking sourceId' claimId' =>
    obtain ⟨rfl, hunknown⟩ := h
    have heq := Option.some.inj hnext
    rw [markSourcePublished, if_neg hunknown] at heq
    obtain ⟨rfl, rfl⟩ := Prod.mk.inj heq
    exact ⟨trivial, rfl⟩
  | returned | threw | crashed => cases hnext
  | _ => exact h.elim

/-- **What a call has sent is mined**: the claim is public then, but is not known. -/
theorem HeldBack.mine {tx : PublicationTx} {s' : PublicationState}
    (h : HeldBack O sourceId claimId attempt s₀ (s, p))
    (hbond : s₀.chain.world.bondEscrow.isAuthorBondSatisfied s₀.chain.world.claimRegistry
      claimId = .ok true)
    (hstuck : ¬Continuable O attempt claimId s₀.db s₀.chain.world)
    (htx : p.inFlight = some tx) (hmine : p.mine O s tx = some (s', p')) :
    HeldBack O sourceId claimId attempt s₀ (s', p') := by
  have hnone : s.db.publishedClaimId sourceId = none := h.unpublished
  have hover : p.isOver = true → HeldBack O sourceId claimId attempt s₀ (s', p') := by
    intro hover
    unfold Publisher.mine at hmine
    cases p with
    | threw | crashed =>
      split at hmine
      next =>
        obtain ⟨rfl, rfl⟩ := Prod.mk.inj (Option.some.inj hmine)
        exact .after trivial hnone
      next => exact absurd hmine nofun
      next =>
        obtain ⟨rfl, rfl⟩ := Prod.mk.inj (Option.some.inj hmine)
        exact .after trivial hnone
    | idle | returned => exact absurd htx nofun
    | _ => exact absurd hover Bool.false_ne_true
  cases p with
  | sentPublish sourceId' claimId' =>
    obtain rfl := Option.some.inj htx
    cases h with
    | after hvain => exact hvain.elim
    | before hheld _ hattempt hclaims hchain =>
      obtain ⟨⟨rfl, rfl⟩, hmanual, hdraft⟩ := hheld
      unfold Publisher.mine at hmine
      rw [hchain] at hmine
      split at hmine
      next w' hexec =>
        obtain ⟨hpublishable, hw'⟩ := (exec_publishClaim hdraft hbond).mp hexec
        obtain rfl := Outcome.done.inj hw'
        obtain ⟨rfl, rfl⟩ := Prod.mk.inj (Option.some.inj hmine)
        refine .after ⟨rfl, fun hindexes => ?_⟩ hnone
        unfold Operator.Indexes at hindexes
        rw [hclaims] at hindexes
        exact hstuck ⟨hmanual, .inr ⟨hpublishable, hindexes⟩⟩
      next => exact absurd hmine nofun
      next =>
        obtain ⟨rfl, rfl⟩ := Prod.mk.inj (Option.some.inj hmine)
        exact .after trivial hnone
  | sentClaim | sentArtifact | reconciling =>
    cases h with
    | before hheld => exact hheld.elim
    | after hvain => exact hvain.elim
  | threw | crashed => exact hover rfl
  | _ => exact absurd htx nofun

/-- **Nothing comes of such a call**, whatever it does next. -/
theorem HeldBack.step {x y : PublicationState × Publisher}
    (h : HeldBack O sourceId claimId attempt s₀ x) (hclaim : attempt.claimId = some claimId)
    (hbond : s₀.chain.world.bondEscrow.isAuthorBondSatisfied s₀.chain.world.claimRegistry
      claimId = .ok true)
    (hstuck : ¬Continuable O attempt claimId s₀.db s₀.chain.world)
    (hstep : CallStep O x y) : HeldBack O sourceId claimId attempt s₀ y := by
  obtain ⟨s, p⟩ := x
  obtain ⟨s', p'⟩ := y
  obtain ⟨a, hact⟩ := hstep
  simp only at hact
  have hnone : s.db.publishedClaimId sourceId = none := h.unpublished
  have hidle : p ≠ .idle := by
    rintro rfl
    cases h with
    | before hheld => exact hheld
    | after hvain => exact hvain
  unfold Publisher.act at hact
  split at hact
  next =>
    rw [if_neg hidle] at hact
    exact absurd hact nofun
  next now hframes =>
    obtain ⟨⟨db', p''⟩, hnext, heq⟩ := Option.map_eq_some_iff.mp hact
    obtain ⟨rfl, rfl⟩ := Prod.mk.inj heq
    cases h with
    | before hheld _ hattempt hclaims hchain =>
      exact heldBack_next hclaim hstuck hheld hnone hattempt hclaims hchain hnext
    | after hvain =>
      obtain ⟨hvain', hsources⟩ := hvain.next hnext
      refine .after hvain' ?_
      simp only [SourceDb.publishedClaimId, hsources]
      exact hnone
  next hframes =>
    obtain ⟨tx, htx, hmine⟩ := Option.bind_eq_some_iff.mp hact
    exact h.mine hbond hstuck htx hmine
  next =>
    split at hact
    next hdrop =>
      obtain ⟨rfl, rfl⟩ := Prod.mk.inj (Option.some.inj hact)
      have hover := (Bool.and_eq_true_iff.mp hdrop).1
      refine .after ?_ hnone
      cases p with
      | idle => exact absurd rfl hidle
      | returned | threw | crashed => trivial
      | _ => exact absurd hover Bool.false_ne_true
    next => exact absurd hact nofun
  next =>
    split at hact
    next => exact absurd hact nofun
    next =>
      obtain ⟨rfl, rfl⟩ := Prod.mk.inj (Option.some.inj hact)
      refine .after ?_ hnone
      simp only [Publisher.fail, h.creates]
      trivial
  next =>
    split at hact
    next => exact absurd hact nofun
    next =>
      obtain ⟨rfl, rfl⟩ := Prod.mk.inj (Option.some.inj hact)
      exact .after trivial hnone
  next => exact absurd hact nofun

/-- **No call publishes** a source whose attempt cannot be gone on with. -/
theorem not_leads (hnone : s.db.publishedClaimId sourceId = none)
    (hattempt : s.db.publicationAttempts sourceId = some attempt)
    (hclaim : attempt.claimId = some claimId)
    (hbond : s.chain.world.bondEscrow.isAuthorBondSatisfied s.chain.world.claimRegistry claimId =
      .ok true)
    (hstuck : ¬Continuable O attempt claimId s.db s.chain.world) :
    ¬Leads O sourceId claimId s := by
  rintro ⟨call, hcall, s', p', hsteps, hpublished⟩
  have hback : HeldBack O sourceId claimId attempt s (s', p') := by
    generalize (s', p') = x at hsteps
    induction hsteps with
    | refl => exact .before hcall hnone hattempt rfl rfl
    | tail _ hstep ih => exact ih.step hclaim hbond hstuck hstep
  exact absurd (hback.unpublished.symm.trans hpublished.claim) nofun

/-- A call that has only just begun, or is over with nothing in flight. -/
def Publisher.Inert (call : PublicationCall) (p : Publisher) : Prop :=
  p = .starting call ∨ p.isOver = true ∧ p ≠ .idle ∧ p.inFlight = none

theorem inert_start {call : PublicationCall} {source : SourceRecord}
    (hcall : call.Publishes sourceId) (hclaim : source.publishedClaimId = some claimId) :
    (Publisher.start (some source) call).Inert call := by
  cases call with
  | attemptSourceAutoPublication | confirmSourcePublication =>
    simp only [Publisher.start, hclaim]
    refine .inr ⟨rfl, ?_, rfl⟩
    intro hidle
    cases hidle
  | rejectSourcePublication => exact hcall.elim

/-- **A call leaves a source alone that has its claim.** -/
theorem inert_step (hframes : s.chain.frames = []) {call : PublicationCall}
    (hcall : call.Publishes sourceId) (hclaim : s.db.publishedClaimId sourceId = some claimId)
    (h : p.Inert call) {s' : PublicationState} (hstep : CallStep O (s, p) (s', p')) :
    s' = s ∧ p'.Inert call := by
  have hinFlight : p.inFlight = none := by
    rcases h with rfl | ⟨-, -, hnone⟩
    · rfl
    · exact hnone
  obtain ⟨a, hact⟩ := hstep
  cases a with
  | next now =>
    obtain ⟨hnext, hchain⟩ := Publisher.next_of_act hact
    rcases h with rfl | ⟨hover, hidle, -⟩
    · obtain ⟨hdb, rfl⟩ := Prod.mk.inj (Option.some.inj hnext)
      have hsource : call.sourceId = sourceId := by
        cases call with
        | attemptSourceAutoPublication | confirmSourcePublication => exact hcall
        | rejectSourcePublication => exact hcall.elim
      obtain ⟨source, hrow, hid⟩ := Option.bind_eq_some_iff.mp hclaim
      refine ⟨?_, ?_⟩
      · obtain ⟨db, chain⟩ := s'
        obtain rfl := hdb
        obtain rfl := hchain
        rfl
      · simp only [hsource]
        rw [show s.db.sources sourceId = some source from hrow]
        exact inert_start hcall hid
    · cases p with
      | idle => exact absurd rfl hidle
      | returned | threw | crashed => exact absurd hnext nofun
      | _ => exact absurd hover Bool.false_ne_true
  | call call' =>
    simp only [Publisher.act, hframes] at hact
    split at hact
    next hidle =>
      rcases h with rfl | ⟨-, hne, -⟩
      · exact absurd hidle nofun
      · exact absurd hidle hne
    next => exact absurd hact nofun
  | mine =>
    simp only [Publisher.act, hframes, hinFlight, Option.bind_none] at hact
    exact absurd hact nofun
  | drop =>
    simp only [Publisher.act, hframes, hinFlight, Option.isSome_none, Bool.and_false,
      Bool.false_eq_true, if_false] at hact
    exact absurd hact nofun
  | fail error =>
    simp only [Publisher.act, hframes] at hact
    split at hact
    next => exact absurd hact nofun
    next hover =>
      obtain ⟨rfl, rfl⟩ := Prod.mk.inj (Option.some.inj hact)
      rcases h with rfl | ⟨hover', -, -⟩
      · exact ⟨rfl, .inr ⟨rfl, nofun, rfl⟩⟩
      · exact absurd hover' hover
  | crash =>
    simp only [Publisher.act, hframes] at hact
    split at hact
    next => exact absurd hact nofun
    next =>
      obtain ⟨rfl, rfl⟩ := Prod.mk.inj (Option.some.inj hact)
      exact ⟨rfl, .inr ⟨rfl, nofun, hinFlight⟩⟩

theorem eq_of_published (hframes : s.chain.frames = []) {call : PublicationCall}
    (hcall : call.Publishes sourceId) (hclaim : s.db.publishedClaimId sourceId = some claimId)
    {x : PublicationState × Publisher}
    (h : Relation.ReflTransGen (CallStep O) (s, .starting call) x) :
    x.1 = s ∧ x.2.Inert call := by
  induction h with
  | refl => exact ⟨rfl, .inl rfl⟩
  | @tail y z _ hstep ih =>
    obtain ⟨s₁, p₁⟩ := y
    obtain ⟨hs, hinert⟩ := ih
    obtain rfl : s₁ = s := hs
    exact inert_step hframes hcall hclaim hinert hstep

end

end

/-! ### Sources that are never rejected -/

section

variable {ι : Type} [DecidableEq ι] {O : Operator} {sourceId claimId : ℕ}
  {tr : List (PublicationEvent ι)} {c : Config ι PublicationState Publisher}
  {attempt : SourcePublicationAttempt}

/-- A source nobody rejects is not rejected. -/
theorem not_rejected_of_run (h : (publication O).Run tr c)
    (hnever : ∀ e ∈ tr, ¬Rejects sourceId e) :
    ∀ source, c.shared.db.sources sourceId = some source → source.status ≠ .rejected := by
  induction h with
  | genesis hgen => exact fun source hrow => (hgen.2.sources hrow).2.2
  | @snoc tr c c' l hrun hstep ih =>
    have hbefore := ih fun e he => hnever e (List.mem_append_left _ he)
    have hlast := hnever _ (List.mem_append_right tr (List.mem_singleton_self _))
    have hupdate : ∀ {sourceId' : ℕ} {f : SourceRecord → SourceRecord},
        (sourceId = sourceId' → ∀ source, (f source).status ≠ .rejected) → ∀ source,
          c.shared.db.sources.update sourceId' f sourceId = some source →
            source.status ≠ .rejected := by
      intro sourceId' f hf source hrow
      obtain ⟨source₀, hrow₀, rfl⟩ := Sql.Serial.update_eq_some.mp hrow
      split
      next hsource => exact hf hsource source₀
      next => exact hbefore source₀ hrow₀
    cases hstep with
    | env henv =>
      intro source hrow
      rcases (outlying_of_outside henv).fresh hrow with hold | ⟨-, -, hstatus⟩
      · exact hbefore source hold
      · rw [hstatus]
        exact nofun
    | @act i a s p hact =>
      have heffect := (Publisher.act_effect hact).1
      change ∀ source, s.db.sources sourceId = some source → _
      generalize s.db = db' at heffect
      cases heffect with
      | quiet | invoke | ready | reconcile | sync | complete => exact hbefore
      | reserve =>
        unfold reserveSourcePublicationAttempt
        split <;> exact hbefore
      | display => exact hupdate fun _ _ => nofun
      | mark => exact hupdate fun _ _ => nofun
      | @reject now sourceId' reason hp =>
        refine hupdate fun hsource => ?_
        subst hsource
        exact absurd ⟨i, now, reason, rfl, hp⟩ hlast

/-- **Which claims that wait for their bond can be published**: at any moment of any history in
which nobody rejects the source, when its attempt is ready and the bond is there, some call leads
to the publication exactly if the source is published already, or if the attempt can be gone on
with. -/
theorem leads_iff (h : (publication O).Run tr c) (hnever : ∀ e ∈ tr, ¬Rejects sourceId e)
    (hframes : c.shared.chain.frames = [])
    (hattempt : c.shared.db.publicationAttempts sourceId = some attempt)
    (hready : attempt.status = .claimReady) (hclaim : attempt.claimId = some claimId)
    (hbond : c.shared.chain.world.bondEscrow.isAuthorBondSatisfied
      c.shared.chain.world.claimRegistry claimId = .ok true) :
    Leads O sourceId claimId c.shared ↔ PublishedWith sourceId claimId c.shared ∨
      c.shared.db.publishedClaimId sourceId = none ∧
        Continuable O attempt claimId c.shared.db c.shared.chain.world := by
  constructor
  · intro hleads
    cases hpublished : c.shared.db.publishedClaimId sourceId with
    | none =>
      refine .inr ⟨rfl, ?_⟩
      by_contra hstuck
      exact not_leads hpublished hattempt hclaim hbond hstuck hleads
    | some claimId' =>
      obtain ⟨call, hcall, s', p', hsteps, hdone⟩ := hleads
      obtain rfl : s' = c.shared := (eq_of_published hframes hcall hpublished hsteps).1
      exact .inl hdone
  · rintro (hdone | ⟨hnone, hcontinuable⟩)
    · exact ⟨.attemptSourceAutoPublication sourceId, rfl, _, _, .refl, hdone⟩
    · obtain ⟨hsource, candidate, hcandidate, hat⟩ :=
        (grounded_of_run h).1 sourceId attempt hattempt
      obtain ⟨source, hrow⟩ := Option.isSome_iff_exists.mp hsource
      exact leads_of_continuable hframes hrow ((publishedClaimId_eq hrow).symm.trans hnone)
        (not_rejected_of_run h hnever source hrow) hattempt hready hclaim hcandidate hat hbond
        hcontinuable

end

/-! ### Two drafts of a page -/

/-- The page is made a claim of, which waits for a bond of nothing. -/
def draftOfPage (call : PublicationCall) : List (ℕ × PublisherAction) :=
  claimPage 0 call ++ [(0, .next 0)]

/-- A call that does not reject is not about to. -/
theorem draftOfPage_never {call : PublicationCall} (h : (playPublication (draftOfPage call)).isSome)
    (hrejecting : ∀ e ∈ ((playPublication (draftOfPage call)).get h).1,
      (match e.before.process 0 with | .rejecting .. => false | _ => true) = true) :
    ∀ e ∈ ((playPublication (draftOfPage call)).get h).1, ¬Rejects 1 e := by
  rintro e he ⟨i, now, reason, hlabel, hp⟩
  obtain ⟨⟨j, a⟩, hmove, hlabel'⟩ := Processes.label_mem_of_play (Option.some_get h).symm e he
  have hj : ∀ move ∈ draftOfPage call, move.1 = 0 := by
    intro move hmove
    rcases List.mem_append.mp hmove with hmove | hmove
    · obtain ⟨a, -, rfl⟩ := List.mem_map.mp hmove
      rfl
    · rw [List.mem_singleton.mp hmove]
  obtain rfl : i = 0 := (Label.act.inj (hlabel.symm.trans hlabel')).1.trans (hj _ hmove)
  exact absurd (hrejecting e he) (by rw [hp]; exact Bool.false_ne_true)

theorem draftByHand_possible :
    (playPublication (draftOfPage (.confirmSourcePublication 1 0xAA 2))).isSome := by
  decide

theorem draftByHand_attempt : ((playPublication (draftOfPage (.confirmSourcePublication 1 0xAA
    2))).get draftByHand_possible).2.shared.db.publicationAttempts 1 =
      some ⟨2, .manual, .claimReady, some 1, none, 0⟩ := by decide

theorem draftByMachine_possible :
    (playPublication (draftOfPage (.attemptSourceAutoPublication 1))).isSome := by
  decide +kernel

/-- The draft that was made by hand can be published. -/
theorem leads_iff_draftByHand :
    Leads devnetOperator 1 1 ((playPublication (draftOfPage (.confirmSourcePublication 1 0xAA
      2))).get draftByHand_possible).2.shared :=
  (leads_iff (run_playPublication draftByHand_possible)
    (draftOfPage_never draftByHand_possible (by decide))
    (List.isEmpty_iff.mp (by decide)) draftByHand_attempt rfl rfl
    (isAuthorBondSatisfied_eq_ok_true.mpr (by decide))).mpr
      (.inr ⟨by decide, rfl, .inr ⟨⟨by decide, by decide, by decide⟩, [1], by decide, by decide⟩⟩)

/-- **A claim that was created automatically is stranded**: its bond is there, and no call of the
source publishes it. -/
theorem stranded :
    ∃ (tr : List (PublicationEvent ℕ)) (c : Config ℕ PublicationState Publisher)
      (attempt : SourcePublicationAttempt), (publication devnetOperator).Run tr c ∧
        (∀ e ∈ tr, ¬Rejects 1 e) ∧ c.shared.chain.frames = [] ∧
        c.shared.db.publicationAttempts 1 = some attempt ∧ attempt.status = .claimReady ∧
        attempt.claimId = some 1 ∧
        c.shared.chain.world.bondEscrow.isAuthorBondSatisfied c.shared.chain.world.claimRegistry 1 =
          .ok true ∧ ¬Leads devnetOperator 1 1 c.shared := by
  have hattempt : ((playPublication (draftOfPage (.attemptSourceAutoPublication 1))).get
      draftByMachine_possible).2.shared.db.publicationAttempts 1 =
        some ⟨2, .auto, .claimReady, some 1, none, 0⟩ := by decide +kernel
  have hframes : ((playPublication (draftOfPage (.attemptSourceAutoPublication 1))).get
      draftByMachine_possible).2.shared.chain.frames = [] :=
    List.isEmpty_iff.mp (by decide +kernel)
  have hbond : ((playPublication (draftOfPage (.attemptSourceAutoPublication 1))).get
      draftByMachine_possible).2.shared.chain.world.bondEscrow.isAuthorBondSatisfied
        ((playPublication (draftOfPage (.attemptSourceAutoPublication 1))).get
          draftByMachine_possible).2.shared.chain.world.claimRegistry 1 = .ok true :=
    isAuthorBondSatisfied_eq_ok_true.mpr (by decide +kernel)
  refine ⟨_, _, _, run_playPublication draftByMachine_possible,
    draftOfPage_never draftByMachine_possible (by decide +kernel), hframes, hattempt, rfl, rfl,
    hbond, ?_⟩
  exact not_leads (by decide +kernel) hattempt rfl hbond fun h => nomatch h.byHand

end ScientificProtocol.Sources
