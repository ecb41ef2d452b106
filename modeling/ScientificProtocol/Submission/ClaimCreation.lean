import ScientificProtocol.Claims.Lineage
import ScientificProtocol.Concurrency.Processes
import ScientificProtocol.Js.Text
import ScientificProtocol.Submission.Artifacts

/-!
# The claim creation saga

`createProductionClaim` of `src/submission/actions.ts` looks for the claim of a request and
creates it if there is none, then looks for the artifact of the request on that claim and
attaches it if there is none. Both looks and both writes are separate dealings with the
chain, and any number of attempts may be under way for one request, each crashing wherever
it likes: a transaction it has sent is executed all the same, or is never executed.

The contract itself serves a request once, so the claim is made once however the attempts
overlap. Nothing does that for the artifact: two attempts that have both looked for it in
vain both attach it (`ScientificProtocol.Submission.artifact_attached_twice`). If no attempt
looks in vain while another that has may still attach it, and nobody else attaches it
(`ScientificProtocol.Submission.Separate`), it is attached once
(`ScientificProtocol.Submission.createdOnce_of_run`).
-/

namespace ScientificProtocol.Submission

open Evm Concurrency

/-! ### Requests -/

/-- A verified claim request, with its defaults filled in. -/
structure ClaimRequest where
  /-- The address of the signer that submits for authors. -/
  submittedBy : Address
  authorAddress : Address
  statement : String
  methodology : String
  scope : String
  metadata : String
  predictionHooks : String
  domainId : UInt64
  artifactType : ArtifactType
  authorBond : ℕ
  artifactUri : String
  contentDigest : Bytes32
  requestHash : Bytes32

/-- `keccakText`. -/
def keccakText (D : Deployment) (text : String) : Bytes32 := D.keccak256 (Js.toUtf8Bytes text)

/-- A transaction of the saga. -/
inductive SagaTx where
  | createClaim
  | addArtifact (claimId : ℕ)
  deriving DecidableEq

namespace ClaimRequest

variable (D : Deployment) (request : ClaimRequest)

def summary : ClaimSummary where
  statementHash := keccakText D request.statement
  methodologyHash := keccakText D request.methodology
  scopeHash := keccakText D request.scope
  metadataHash := request.requestHash
  predictionHooksHash := keccakText D request.predictionHooks
  domainId := request.domainId
  author := request.authorAddress

def target : SagaTx → Target
  | .createClaim => .claimRegistry (.createClaimOnBehalfWithRequestHash (request.summary D)
      request.authorBond 0 request.requestHash)
  | .addArtifact claimId => .artifactRegistry (.addArtifact claimId request.artifactType
      request.contentDigest (Js.trim request.artifactUri) (keccakText D request.metadata))

def message (tx : SagaTx) : Message where
  sender := request.submittedBy
  value := 0
  reply := default
  target := request.target D tx

/-- What `findArtifact` compares. -/
def isArtifact (artifact : ArtifactCommitment) : Bool :=
  decide (artifact.contentDigest = request.contentDigest ∧
    artifact.uri = Js.trim request.artifactUri)

/-- The claim that is bound to the request, or `0`. -/
def claimOf (w : World) : ℕ := w.claimRegistry.delegatedClaimRequestIds request.requestHash

/-- The artifacts of the request on a claim. -/
def artifactsOn (w : World) (claimId : ℕ) : List ℕ :=
  (w.artifactRegistry.getClaimArtifactIds claimId).filter fun id =>
    request.isArtifact (w.artifactRegistry.artifacts id)

end ClaimRequest

/-! ### Attempts -/

/-- Where an attempt is. -/
inductive ClaimAttempt where
  | idle
  /-- There is no claim for the request. -/
  | creating
  | sent (tx : SagaTx)
  /-- The creation is mined, with the claim its receipt names. -/
  | created (emittedClaimId : Option ℕ)
  | checkpointing (claimId : ℕ)
  | checkpointed (claimId : ℕ)
  /-- The artifacts that are still to be compared. -/
  | finding (claimId : ℕ) (artifactIds : List ℕ)
  /-- The claim has no such artifact. -/
  | attaching (claimId : ℕ)
  | ready (claimId artifactId : ℕ)
  | returned (claimId artifactId : ℕ)
  /-- It has thrown, or its process is gone, with what may still be mined. -/
  | crashed (inFlight : Option SagaTx)
  deriving DecidableEq

/-- What an attempt does next. -/
inductive SagaAction where
  /-- The next statement that is not a wait. -/
  | next
  /-- The chain executes the transaction the attempt has sent. -/
  | mine
  /-- The transaction is dropped. -/
  | drop
  /-- Something throws, such as `assertExecutionLease`, or the process ends. -/
  | crash
  deriving DecidableEq, Repr

/-- `extractContractEventId` for `ClaimCreated`, from the logs of one transaction. -/
def emittedClaimId (w w' : World) : Option ℕ :=
  (w'.claimRegistry.logs.drop w.claimRegistry.logs.length).findSome? fun
    | .claimCreated claimId .. => some claimId
    | _ => none

/-- `extractContractEventId` for `ArtifactAdded`. -/
def emittedArtifactId (w w' : World) : Option ℕ :=
  (w'.artifactRegistry.logs.drop w.artifactRegistry.logs.length).findSome? fun
    | .artifactAdded artifactId .. => some artifactId

namespace ClaimAttempt

/-- What may still be mined of an attempt. -/
def inFlight : ClaimAttempt → Option SagaTx
  | .sent tx => some tx
  | .crashed tx => tx
  | _ => none

section

variable (D : Deployment) (request : ClaimRequest)

/-- The next statement of `createProductionClaimLocked` and `runClaimCreationSaga`. -/
def next (w : World) : ClaimAttempt → Option ClaimAttempt
  -- `getDelegatedClaimIdByRequestHash`, and `findClaim`.
  | .idle =>
    let existingRequestClaimId :=
      w.claimRegistry.getDelegatedClaimIdByRequestHash request.requestHash
    some (if existingRequestClaimId ≠ 0 then .checkpointing existingRequestClaimId else .creating)
  | .creating => some (.sent .createClaim)
  | .created emittedClaimId =>
    let claimId := emittedClaimId.getD
      (w.claimRegistry.getDelegatedClaimIdByRequestHash request.requestHash)
    some (if claimId = 0 then .crashed none else .checkpointing claimId)
  | .checkpointing claimId => some (.checkpointed claimId)
  | .checkpointed claimId =>
    some (.finding claimId (w.artifactRegistry.getClaimArtifactIds claimId))
  | .finding claimId [] => some (.attaching claimId)
  | .finding claimId (id :: ids) => match w.artifactRegistry.getArtifact id with
    | .ok artifact =>
      some (if request.isArtifact artifact then .ready claimId id else .finding claimId ids)
    | .error _ => some (.crashed none)
  | .attaching claimId => some (.sent (.addArtifact claimId))
  | .ready claimId artifactId => some (.returned claimId artifactId)
  | .sent _ | .returned _ _ | .crashed _ => none

/-- What the receipt of a transaction tells the attempt that waits for it. -/
def received (w w' : World) : SagaTx → ClaimAttempt
  | .createClaim => .created (emittedClaimId w w')
  | .addArtifact claimId => match emittedArtifactId w w' with
    | some artifactId => .ready claimId artifactId
    | none => .crashed none

/-- A transaction is mined. If it is reverted, the wait for it throws. -/
def mine (w : World) (tx : SagaTx) (p : ClaimAttempt) : Option (World × ClaimAttempt) :=
  match World.exec D (request.message D tx) w with
  | .ok (.done w') => some (w', if p = .sent tx then received w w' tx else .crashed none)
  | .ok (.transfer ..) => none
  | .error _ => some (w, .crashed none)

/-- An attempt acts, between two transactions of the chain. -/
def act (a : SagaAction) (chain : Evm.Config World Suspended) (p : ClaimAttempt) :
    Option (Evm.Config World Suspended × ClaimAttempt) :=
  match chain.frames, a with
  | [], .next => (p.next request chain.world).map fun p => (chain, p)
  | [], .mine => p.inFlight.bind fun tx =>
    (p.mine D request chain.world tx).map fun r => (⟨r.1, []⟩, r.2)
  | [], .drop => p.inFlight.map fun _ => (chain, .crashed none)
  | [], .crash => match p with
    | .returned _ _ => none
    | p => some (chain, .crashed p.inFlight)
  | _ :: _, _ => none

end

end ClaimAttempt

/-- **The attempts to create the claim of a request**, on a chain that has not seen the
request before and that goes on in any way. -/
def claimCreation (D : Deployment) (request : ClaimRequest) :
    Processes (Evm.Config World Suspended) ClaimAttempt SagaAction
      (Action Message Suspended) where
  genesis chain := (protocol D).Reachable chain ∧ request.claimOf chain.world = 0
  idle := .idle
  act := ClaimAttempt.act D request
  env a chain chain' := (protocol D).Forward chain a chain'

/-- One step of a history of attempts. -/
abbrev SagaEvent (ι : Type) : Type :=
  Event ι (Evm.Config World Suspended) ClaimAttempt SagaAction (Action Message Suspended)

/-! ### What an attempt does to the chain -/

section

variable {D : Deployment} {request : ClaimRequest} {w w' : World}

/-- **What an action does**: it reads the chain at most, or it is the execution of what the
attempt has in flight. -/
inductive SagaEffect (D : Deployment) (request : ClaimRequest) (chain : Evm.Config World Suspended)
    (p : ClaimAttempt) : SagaAction → Evm.Config World Suspended → ClaimAttempt → Prop
  | next {p' : ClaimAttempt} : p.next request chain.world = some p' →
      SagaEffect D request chain p .next chain p'
  | mined {tx : SagaTx} {w' : World} {p' : ClaimAttempt} :
      chain.frames = [] → p.inFlight = some tx →
      World.exec D (request.message D tx) chain.world = .ok (.done w') →
      (p' = .crashed none ∨ p' = ClaimAttempt.received chain.world w' tx) →
      SagaEffect D request chain p .mine ⟨w', []⟩ p'
  | over {a : SagaAction} {inFlight : Option SagaTx} :
      (inFlight = none ∨ inFlight = p.inFlight) →
      SagaEffect D request chain p a chain (.crashed inFlight)

theorem ClaimAttempt.act_effect {a : SagaAction} {chain chain' : Evm.Config World Suspended}
    {p p' : ClaimAttempt} (h : ClaimAttempt.act D request a chain p = some (chain', p')) :
    SagaEffect D request chain p a chain' p' := by
  obtain ⟨w, fs⟩ := chain
  rcases fs with _ | ⟨f, fs⟩
  · cases a with
    | next =>
      obtain ⟨p₁, hnext, heq⟩ := Option.map_eq_some_iff.mp h
      obtain ⟨rfl, rfl⟩ := Prod.mk.inj heq
      exact .next hnext
    | mine =>
      obtain ⟨tx, htx, hmap⟩ := Option.bind_eq_some_iff.mp h
      obtain ⟨⟨w', p₁⟩, hmine, heq⟩ := Option.map_eq_some_iff.mp hmap
      obtain ⟨rfl, rfl⟩ := Prod.mk.inj heq
      unfold ClaimAttempt.mine at hmine
      split at hmine
      next hexec =>
        obtain ⟨rfl, rfl⟩ := Prod.mk.inj (Option.some.inj hmine)
        refine .mined rfl htx hexec ?_
        split
        · exact .inr rfl
        · exact .inl rfl
      next => exact absurd hmine nofun
      next =>
        obtain ⟨rfl, rfl⟩ := Prod.mk.inj (Option.some.inj hmine)
        exact .over (.inl rfl)
    | drop =>
      obtain ⟨tx, -, heq⟩ := Option.map_eq_some_iff.mp h
      obtain ⟨rfl, rfl⟩ := Prod.mk.inj heq
      exact .over (.inl rfl)
    | crash =>
      cases p with
      | returned _ _ => exact absurd h nofun
      | _ =>
        obtain ⟨rfl, rfl⟩ := Prod.mk.inj (Option.some.inj h)
        exact .over (.inr rfl)
  · cases a <;> exact absurd h nofun

/-- The chain stands still, or runs one transaction of the saga. -/
theorem SagaEffect.forward {a : SagaAction} {chain chain' : Evm.Config World Suspended}
    {p p' : ClaimAttempt} (h : SagaEffect D request chain p a chain' p') :
    chain' = chain ∨
      ∃ tx, (protocol D).Forward chain (.exec (request.message D tx)) chain' := by
  cases h with
  | next _ | «over» _ => exact .inl rfl
  | @mined tx w' _ hframes _ hexec _ =>
    obtain ⟨w, fs⟩ := chain
    obtain rfl : fs = [] := hframes
    exact .inr ⟨tx, .call hexec⟩

/-- What the execution of a creation does, and what its logs say. -/
theorem claimOf_of_createClaim {chain : Evm.Config World Suspended} {w' : World}
    (hchain : (protocol D).Reachable chain)
    (h : World.exec D (request.message D .createClaim) chain.world = .ok (.done w')) :
    request.claimOf w' ≠ 0 ∧
      ∀ claimId ∈ emittedClaimId chain.world w', claimId = request.claimOf w' := by
  have hpos := (registries_indexed hchain).1.claims.next_pos
  simp only [World.exec, ClaimRequest.message, ClaimRequest.target, ClaimRegistry.Call.linked,
    ClaimRegistry.exec, ClaimRegistry.createClaimOnBehalfWithRequestHash, bind_eq_ok, map_eq_ok,
    revertIf_eq_ok] at h
  obtain ⟨s, ⟨-, -, ⟨id, s'⟩, ⟨-, -, -, -, -, -, hrun⟩, rfl⟩, heq⟩ := h
  obtain rfl := Outcome.done.inj heq
  split at hrun
  next hbound =>
    obtain ⟨rfl, rfl⟩ := Prod.mk.inj (Except.ok.inj hrun)
    exact ⟨hbound, fun claimId hid => by simp [emittedClaimId] at hid⟩
  next hfree =>
    simp only [ClaimRegistry.createClaimRecord, bind_eq_ok, revertIf_eq_ok, checkedAdd_eq_ok,
      pure_eq_ok, Except.ok.injEq] at hrun
    obtain ⟨_, ⟨-, -, next, ⟨-, rfl⟩, -, -, -, -, rfl⟩, heq⟩ := hrun
    obtain ⟨rfl, rfl⟩ := Prod.mk.inj heq
    refine ⟨?_, fun claimId hid => ?_⟩
    · simp only [ClaimRequest.claimOf, Mapping.set_self]
      exact hpos.ne'
    · simp only [emittedClaimId, List.append_assoc, List.drop_left, List.singleton_append,
        List.findSome?_cons, Option.mem_def, Option.some.injEq] at hid
      simp only [ClaimRequest.claimOf, Mapping.set_self]
      exact hid.symm

/-! ### What the chain knows of a request -/

/-- The artifacts of a request on its claim. -/
def ClaimRequest.found (request : ClaimRequest) (w : World) : List ℕ :=
  request.artifactsOn w (request.claimOf w)

/-- A message that attaches the artifact of a request to a claim. -/
def ClaimRequest.Attaches (request : ClaimRequest) (claimId : ℕ) (m : Message) : Prop :=
  ∃ artifactType metadataHash, m.target = .artifactRegistry (.addArtifact claimId artifactType
    request.contentDigest (Js.trim request.artifactUri) metadataHash)

/-- **How a step changes what the chain knows of a request**: not at all, or the request gets
its claim, which has no artifacts, or its claim gets the artifact. -/
inductive RequestChange (request : ClaimRequest) (a : Action Message Suspended) (w w' : World) :
    Prop
  | unchanged : request.claimOf w' = request.claimOf w → request.found w' = request.found w →
      RequestChange request a w w'
  | bound : request.claimOf w = 0 → request.claimOf w' = w.claimRegistry.nextClaimId →
      request.found w' = [] → RequestChange request a w w'
  | attached {m : Message} {id : ℕ} : request.claimOf w ≠ 0 →
      request.claimOf w' = request.claimOf w → request.found w' = request.found w ++ [id] →
      a = .exec m → request.Attaches (request.claimOf w) m → RequestChange request a w w'

/-- An artifact on a list counts as before. -/
theorem ClaimRequest.artifactsOn_of_adds (claimId : ℕ) {claimId' : ℕ}
    {artifact : ArtifactCommitment}
    (hindexed : ArtifactsIndexed w) (h : AddsArtifact w w' claimId' artifact) :
    request.artifactsOn w' claimId = request.artifactsOn w claimId ++
      if claimId = claimId' ∧ request.isArtifact artifact = true then
        [w.artifactRegistry.nextArtifactId] else [] := by
  have hold : (w.artifactRegistry.claimArtifacts claimId).filter
      (fun id => request.isArtifact (w'.artifactRegistry.artifacts id)) =
        request.artifactsOn w claimId :=
    List.filter_congr fun id hid => by
      rw [h.artifacts_of_lt (hindexed.listed_lt claimId id hid)]
  have hnew : w'.artifactRegistry.artifacts w.artifactRegistry.nextArtifactId = artifact := by
    rw [h.artifacts, Mapping.set_self]
  simp only [artifactsOn, ArtifactRegistry.getClaimArtifactIds, h.claimArtifacts,
    Mapping.set_apply] at hold ⊢
  split
  next heq =>
    subst heq
    rw [List.filter_append, hold, List.filter_singleton, hnew]
    simp only [true_and]
    cases request.isArtifact artifact <;> rfl
  next hne => rw [hold, if_neg fun hboth => hne hboth.1, List.append_nil]

theorem requestChange_of_effect {a : Action Message Suspended} {chain : Evm.Config World Suspended}
    (hchain : (protocol D).Reachable chain) (h : (protocol D).Effect a chain.world w') :
    RequestChange request a chain.world w' := by
  have hindexed := artifactsIndexed_of_reachable hchain
  have hstep := World.step_of_effect h
  rcases hstep.artifacts_cases with hartifacts |
    ⟨m, claimId, artifactType, contentDigest, uri, metadataHash, artifact, rfl, htarget, hdigest,
      huri, hadds⟩
  · have hsame : ∀ claimId,
        request.artifactsOn w' claimId = request.artifactsOn chain.world claimId :=
      fun claimId => by
      rw [ClaimRequest.artifactsOn, ClaimRequest.artifactsOn, hartifacts]
    -- Only a call of the claim registry can bind the request.
    have hids : request.claimOf w' = request.claimOf chain.world ∨
        request.claimOf chain.world = 0 ∧
          request.claimOf w' = chain.world.claimRegistry.nextClaimId := by
      rcases hstep.claimRegistry_cases with hsame | ⟨m, call, -, -, hcall⟩
      · exact .inl (by rw [ClaimRequest.claimOf, hsame, ClaimRequest.claimOf])
      · rcases hcall.requests_cases with ⟨hids, -⟩ | ⟨hash, -, hfree, hids, -⟩
        · exact .inl (by rw [ClaimRequest.claimOf, hids, ClaimRequest.claimOf])
        · rw [ClaimRequest.claimOf, hids, Mapping.set_apply]
          split
          next heq => exact .inr ⟨by rw [ClaimRequest.claimOf, heq, hfree], rfl⟩
          next => exact .inl rfl
    rcases hids with hclaim | ⟨hfree, hclaim⟩
    · exact .unchanged hclaim (by rw [ClaimRequest.found, hclaim, hsame, ClaimRequest.found])
    · refine .bound hfree hclaim ?_
      have hblank := (registries_indexed hchain).1.claims.blank_next
      have hnil : chain.world.artifactRegistry.claimArtifacts
          chain.world.claimRegistry.nextClaimId = [] :=
        hindexed.eq_nil (by rw [hblank]; rfl)
      rw [ClaimRequest.found, hclaim, hsame, ClaimRequest.artifactsOn,
        ArtifactRegistry.getClaimArtifactIds, hnil, List.filter_nil]
  · have hclaim : request.claimOf w' = request.claimOf chain.world := by
      rw [ClaimRequest.claimOf, hadds.claimRegistry, ClaimRequest.claimOf]
    have hfound :=
      request.artifactsOn_of_adds (request.claimOf chain.world) hindexed hadds
    by_cases hours : request.claimOf chain.world = claimId ∧ request.isArtifact artifact = true
    · rw [if_pos hours] at hfound
      obtain ⟨rfl, hartifact⟩ := hours
      obtain ⟨hd, hu⟩ := of_decide_eq_true hartifact
      refine .attached (fun hzero => ?_) hclaim (by rw [ClaimRequest.found, hclaim, hfound]; rfl)
        rfl ⟨artifactType, metadataHash, ?_⟩
      · have hblank := (registries_indexed hchain).1.claims.blank 0 (.inl rfl)
        exact hadds.claim_exists (by rw [hzero, hblank]; rfl)
      · rw [htarget, ← hd, ← hu, hdigest, huri]
    · rw [if_neg hours, List.append_nil] at hfound
      exact .unchanged hclaim (by rw [ClaimRequest.found, hclaim, hfound]; rfl)

/-! ### What an attempt knows -/

/-- The claim of a request. -/
def ClaimRequest.IsClaim (request : ClaimRequest) (w : World) (claimId : ℕ) : Prop :=
  claimId ≠ 0 ∧ request.claimOf w = claimId

namespace ClaimAttempt

/-- **What an attempt has been told is so.** -/
def Accurate (request : ClaimRequest) (w : World) : ClaimAttempt → Prop
  | .idle | .creating | .sent .createClaim | .crashed none | .crashed (some .createClaim) => True
  | .created emittedClaimId =>
    request.claimOf w ≠ 0 ∧ ∀ claimId ∈ emittedClaimId, claimId = request.claimOf w
  | .checkpointing claimId | .checkpointed claimId | .attaching claimId
  | .sent (.addArtifact claimId) | .crashed (some (.addArtifact claimId)) =>
    request.IsClaim w claimId
  | .finding claimId artifactIds => request.IsClaim w claimId ∧
      ∀ id ∈ artifactIds, id ∈ w.artifactRegistry.claimArtifacts claimId
  | .ready claimId artifactId | .returned claimId artifactId =>
    request.IsClaim w claimId ∧ artifactId ∈ request.artifactsOn w claimId

/-- **The attempt may still attach the artifact**: it has looked for it in vain. -/
def mayAttach (request : ClaimRequest) (w : World) : ClaimAttempt → Bool
  | .finding _ artifactIds =>
    artifactIds.all fun id => !request.isArtifact (w.artifactRegistry.artifacts id)
  | .attaching _ | .sent (.addArtifact _) | .crashed (some (.addArtifact _)) => true
  | _ => false

end ClaimAttempt

theorem ClaimRequest.mem_artifactsOn {claimId id : ℕ} :
    id ∈ request.artifactsOn w claimId ↔ id ∈ w.artifactRegistry.claimArtifacts claimId ∧
      request.isArtifact (w.artifactRegistry.artifacts id) = true :=
  List.mem_filter

/-- **What an attempt has been told stays so.** -/
theorem ClaimAttempt.Accurate.kept {p : ClaimAttempt} (h : p.Accurate request w)
    (hclaim : request.claimOf w ≠ 0 → request.claimOf w' = request.claimOf w)
    (hkept : ArtifactsKept w w') : p.Accurate request w' := by
  have hIs : ∀ {claimId}, request.IsClaim w claimId → request.IsClaim w' claimId := by
    rintro claimId ⟨hne, rfl⟩
    exact ⟨hne, hclaim hne⟩
  have hOn : ∀ {claimId id}, id ∈ request.artifactsOn w claimId →
      id ∈ request.artifactsOn w' claimId := by
    intro claimId id hid
    obtain ⟨hlisted, hartifact⟩ := ClaimRequest.mem_artifactsOn.mp hid
    obtain ⟨hlisted', hsame⟩ := hkept claimId id hlisted
    exact ClaimRequest.mem_artifactsOn.mpr ⟨hlisted', by rw [hsame]; exact hartifact⟩
  cases p with
  | idle | creating => trivial
  | created emittedClaimId =>
    obtain ⟨hne, hemitted⟩ := h
    exact ⟨by rw [hclaim hne]; exact hne, by rw [hclaim hne]; exact hemitted⟩
  | checkpointing claimId | checkpointed claimId | attaching claimId => exact hIs h
  | finding claimId artifactIds =>
    exact ⟨hIs h.1, fun id hid => (hkept claimId id (h.2 id hid)).1⟩
  | ready claimId artifactId | returned claimId artifactId => exact ⟨hIs h.1, hOn h.2⟩
  | sent tx =>
    cases tx with
    | createClaim => trivial
    | addArtifact claimId => exact hIs h
  | crashed inFlight =>
    rcases inFlight with _ | _ | claimId
    · trivial
    · trivial
    · exact hIs h

/-- Whoever may attach the artifact knows the claim of the request. -/
theorem ClaimAttempt.Accurate.claimOf_ne_zero {p : ClaimAttempt} (h : p.Accurate request w)
    (hattach : p.mayAttach request w = true) : request.claimOf w ≠ 0 := by
  have hIs : ∀ {claimId}, request.IsClaim w claimId → request.claimOf w ≠ 0 := by
    rintro claimId ⟨hne, heq⟩
    rwa [heq]
  cases p with
  | idle | creating | created _ | checkpointing _ | checkpointed _ | ready _ _ | returned _ _ =>
    exact absurd hattach nofun
  | finding claimId _ => exact hIs h.1
  | attaching claimId => exact hIs h
  | sent tx =>
    cases tx with
    | createClaim => exact absurd hattach nofun
    | addArtifact claimId => exact hIs h
  | crashed inFlight =>
    rcases inFlight with _ | _ | claimId
    · exact absurd hattach nofun
    · exact absurd hattach nofun
    · exact hIs h

/-- Whoever may attach the artifact after a step of others could before. -/
theorem ClaimAttempt.Accurate.mayAttach_of_kept {p : ClaimAttempt} (h : p.Accurate request w)
    (hkept : ArtifactsKept w w') (hattach : p.mayAttach request w' = true) :
    p.mayAttach request w = true := by
  cases p with
  | finding claimId artifactIds =>
    simp only [mayAttach, List.all_eq_true] at hattach ⊢
    intro id hid
    rw [← (hkept claimId id (h.2 id hid)).2]
    exact hattach id hid
  | sent tx => cases tx <;> exact hattach
  | crashed inFlight => rcases inFlight with _ | _ | _ <;> exact hattach
  | _ => exact hattach

/-- **The next statement of an attempt tells it what is so.** -/
theorem ClaimAttempt.Accurate.next {p p' : ClaimAttempt} (h : p.Accurate request w)
    (hnext : p.next request w = some p') : p'.Accurate request w := by
  cases p with
  | idle =>
    obtain rfl := Option.some.inj hnext
    split
    next hne => exact ⟨hne, rfl⟩
    next => trivial
  | creating =>
    obtain rfl := Option.some.inj hnext
    trivial
  | created emittedClaimId =>
    obtain rfl := Option.some.inj hnext
    obtain ⟨hne, hemitted⟩ := h
    have heq : emittedClaimId.getD
        (w.claimRegistry.getDelegatedClaimIdByRequestHash request.requestHash) =
          request.claimOf w := by
      cases emittedClaimId with
      | none => rfl
      | some claimId => exact hemitted claimId rfl
    rw [heq, if_neg hne]
    exact ⟨hne, rfl⟩
  | checkpointing claimId | attaching claimId =>
    obtain rfl := Option.some.inj hnext
    exact h
  | checkpointed claimId =>
    obtain rfl := Option.some.inj hnext
    exact ⟨h, fun id hid => hid⟩
  | finding claimId artifactIds =>
    cases artifactIds with
    | nil =>
      obtain rfl := Option.some.inj hnext
      exact h.1
    | cons id ids =>
      simp only [ClaimAttempt.next] at hnext
      split at hnext
      next artifact hget =>
        obtain rfl := Option.some.inj hnext
        simp only [ArtifactRegistry.getArtifact, bind_eq_ok, revertIf_eq_ok, pure_eq_ok,
          Except.ok.injEq] at hget
        obtain ⟨-, -, rfl⟩ := hget
        split
        next hartifact =>
          exact ⟨h.1, ClaimRequest.mem_artifactsOn.mpr ⟨h.2 id List.mem_cons_self, hartifact⟩⟩
        next => exact ⟨h.1, fun id' hid' => h.2 id' (List.mem_cons_of_mem _ hid')⟩
      next =>
        obtain rfl := Option.some.inj hnext
        trivial
  | ready claimId artifactId =>
    obtain rfl := Option.some.inj hnext
    exact h
  | sent _ | returned _ _ | crashed _ => exact absurd hnext nofun

/-- **Looking in vain is how an attempt comes to attach.** -/
theorem ClaimAttempt.mayAttach_next {p p' : ClaimAttempt} (hnext : p.next request w = some p')
    (hattach : p'.mayAttach request w = true) : p.mayAttach request w = true ∨
      ∃ claimId, p = .checkpointed claimId ∧ request.artifactsOn w claimId = [] := by
  cases p with
  | idle =>
    obtain rfl := Option.some.inj hnext
    split at hattach <;> exact absurd hattach nofun
  | created emittedClaimId =>
    obtain rfl := Option.some.inj hnext
    split at hattach <;> exact absurd hattach nofun
  | creating | checkpointing claimId | ready claimId artifactId =>
    obtain rfl := Option.some.inj hnext
    exact absurd hattach nofun
  | checkpointed claimId =>
    obtain rfl := Option.some.inj hnext
    refine .inr ⟨claimId, rfl, List.filter_eq_nil_iff.mpr fun id hid => ?_⟩
    have hnone := List.all_eq_true.mp hattach id hid
    simpa using hnone
  | finding claimId artifactIds =>
    cases artifactIds with
    | nil => exact .inl rfl
    | cons id ids =>
      simp only [ClaimAttempt.next] at hnext
      split at hnext
      next artifact hget =>
        obtain rfl := Option.some.inj hnext
        simp only [ArtifactRegistry.getArtifact, bind_eq_ok, revertIf_eq_ok, pure_eq_ok,
          Except.ok.injEq] at hget
        obtain ⟨-, -, rfl⟩ := hget
        split at hattach
        next => exact absurd hattach nofun
        next hother =>
          refine .inl (List.all_eq_true.mpr fun id' hid' => ?_)
          rcases List.mem_cons.mp hid' with rfl | hid'
          · simpa using hother
          · exact List.all_eq_true.mp hattach id' hid'
      next =>
        obtain rfl := Option.some.inj hnext
        exact absurd hattach nofun
  | attaching claimId => exact .inl rfl
  | sent _ | returned _ _ | crashed _ => exact absurd hnext nofun

/-- An attempt that is over has been told nothing new. -/
theorem ClaimAttempt.Accurate.over {p : ClaimAttempt} (h : p.Accurate request w)
    {inFlight : Option SagaTx} (hinFlight : inFlight = none ∨ inFlight = p.inFlight) :
    (ClaimAttempt.crashed inFlight).Accurate request w := by
  rcases hinFlight with rfl | rfl
  · trivial
  · cases p with
    | sent tx => cases tx <;> exact h
    | crashed inFlight => exact h
    | _ => trivial

/-- **What the receipt tells an attempt is so.** -/
theorem ClaimAttempt.Accurate.received {chain : Evm.Config World Suspended} {w' : World}
    {p : ClaimAttempt} {tx : SagaTx} (hchain : (protocol D).Reachable chain)
    (h : p.Accurate request chain.world) (hinFlight : p.inFlight = some tx)
    (hexec : World.exec D (request.message D tx) chain.world = .ok (.done w')) :
    (ClaimAttempt.received chain.world w' tx).Accurate request w' := by
  cases tx with
  | createClaim => exact claimOf_of_createClaim hchain hexec
  | addArtifact claimId =>
    obtain ⟨hadds, hlogs⟩ := addsArtifact_of_exec rfl hexec
    have hclaim : request.IsClaim chain.world claimId := by
      cases p with
      | sent tx =>
        obtain rfl := Option.some.inj hinFlight
        exact h
      | crashed inFlight =>
        obtain rfl : inFlight = some (.addArtifact claimId) := hinFlight
        exact h
      | _ => exact absurd hinFlight nofun
    have hemitted : emittedArtifactId chain.world w' =
        some chain.world.artifactRegistry.nextArtifactId := by
      rw [Outcome.state_done] at hlogs
      simp [emittedArtifactId, hlogs]
    simp only [ClaimAttempt.received, hemitted]
    refine ⟨⟨hclaim.1, ?_⟩, ?_⟩
    · rw [← hclaim.2, ClaimRequest.claimOf, ClaimRequest.claimOf, ← hadds.claimRegistry]
      rfl
    · have hon := request.artifactsOn_of_adds claimId
        (artifactsIndexed_of_reachable hchain) hadds
      rw [if_pos ⟨rfl, by simp [ClaimRequest.isArtifact]⟩] at hon
      rw [Outcome.state_done] at hon
      rw [hon]
      exact List.mem_append_right _ List.mem_cons_self

/-- An attempt that is over may do no more than before. -/
theorem ClaimAttempt.mayAttach_over {p : ClaimAttempt} {inFlight : Option SagaTx}
    (hinFlight : inFlight = none ∨ inFlight = p.inFlight)
    (hattach : (ClaimAttempt.crashed inFlight).mayAttach request w = true) :
    p.mayAttach request w = true := by
  rcases hinFlight with rfl | rfl
  · exact absurd hattach nofun
  · cases p with
    | sent tx => cases tx <;> exact hattach
    | crashed inFlight => exact hattach
    | _ => exact absurd hattach nofun

/-- An attempt that has its receipt attaches nothing more. -/
theorem ClaimAttempt.mayAttach_received {w₀ : World} {tx : SagaTx} :
    (ClaimAttempt.received w₀ w tx).mayAttach request w = false := by
  cases tx with
  | createClaim => rfl
  | addArtifact claimId =>
    rw [ClaimAttempt.received]
    split <;> rfl

/-- Whoever has an attachment in flight may attach. -/
theorem ClaimAttempt.mayAttach_of_attaches {p : ClaimAttempt} {tx : SagaTx} {claimId : ℕ}
    (hinFlight : p.inFlight = some tx) (h : request.Attaches claimId (request.message D tx)) :
    p.mayAttach request w = true := by
  obtain ⟨artifactType, metadataHash, htarget⟩ := h
  cases tx with
  | createClaim => exact absurd htarget nofun
  | addArtifact claimId =>
    cases p with
    | sent tx =>
      obtain rfl := Option.some.inj hinFlight
      rfl
    | crashed inFlight =>
      obtain rfl : inFlight = some (.addArtifact claimId) := hinFlight
      rfl
    | _ => exact absurd hinFlight nofun

end

end ScientificProtocol.Submission
