import ScientificProtocol.Evm.CallStack
import ScientificProtocol.Contracts.AppealsRegistry
import ScientificProtocol.Contracts.ClaimRewardVault
import ScientificProtocol.Contracts.BondEscrow
import ScientificProtocol.Contracts.RecordRegistries

/-!
# The linked protocol

The eleven contracts at their deployed addresses, as one machine. A world is the
state of all of them with the clock and the role table; a message is one call
from outside; each contract sees the others as the source links them. The
machine inherits from `Evm.Machine` the environment: recipients that call back
in, calls that fail and are rolled back, time that passes.

Three things are left open on purpose, because the repository does not decide
them. The role table may change at any time and in any way
(`ScientificProtocol.Target.accessController`). A module whose code is not in the
repository answers as the message says. Time moves forward by any amount.

`ScientificProtocol.World.Step` then says, contract by contract, what a step of
the machine does to a world. Every invariant of the protocol is proved from it,
or from its five projections at the end of this file, and never from the
dispatch itself.
-/

namespace ScientificProtocol

open Evm

/-- The state of the linked protocol. -/
structure World where
  /-- `block.timestamp`. -/
  now : ℕ
  /-- What the access controller answers. -/
  hasRole : Role → Address → Bool
  protocolParameters : ProtocolParameters
  resolutionModuleRegistry : ResolutionModuleRegistry
  claimRegistry : ClaimRegistry
  replicationRegistry : ReplicationRegistry
  agentRegistry : AgentRegistry
  bondEscrow : BondEscrow
  epistemicMarket : EpistemicMarket
  claimRewardVault : ClaimRewardVault
  appealsRegistry : AppealsRegistry
  artifactRegistry : ArtifactRegistry
  reputationCheckpointRegistry : ReputationCheckpointRegistry

/-- The contract a message is sent to, with the call. -/
inductive Target where
  /-- A change of the role table, to any other table. -/
  | accessController (hasRole : Role → Address → Bool)
  | protocolParameters (call : ProtocolParameters.Call)
  | resolutionModuleRegistry (call : ResolutionModuleRegistry.Call)
  | claimRegistry (call : ClaimRegistry.Call)
  | replicationRegistry (call : ReplicationRegistry.Call)
  | agentRegistry (call : AgentRegistry.Call)
  | bondEscrow (call : BondEscrow.Call)
  | epistemicMarket (call : EpistemicMarket.Call)
  | claimRewardVault (call : ClaimRewardVault.Call)
  | appealsRegistry (call : AppealsRegistry.Call)
  | artifactRegistry (call : ArtifactRegistry.Call)
  | reputationCheckpointRegistry (call : ReputationCheckpointRegistry.Call)

/-- One call from outside. -/
structure Message where
  sender : Address
  value : ℕ
  /-- How a module outside the repository answers during this call. -/
  reply : ModuleReply
  target : Target

/-- A suspended call of one of the contracts. -/
inductive Suspended where
  | agentRegistry (pending : AgentRegistry.Pending)
  | bondEscrow (pending : BondEscrow.Pending)
  | epistemicMarket (pending : EpistemicMarket.Pending)
  | claimRewardVault (pending : ClaimRewardVault.Pending)
  | appealsRegistry (pending : AppealsRegistry.Pending)
  deriving DecidableEq

/-- The one call that names other contracts, at the contracts of the deployment:
the protocol is deployed linked. -/
def ClaimRegistry.Call.linked (D : Deployment) : ClaimRegistry.Call → ClaimRegistry.Call
  | .configureProtocolDependencies _ _ =>
    .configureProtocolDependencies D.bondEscrow D.replicationRegistry
  | call => call

namespace World

variable (D : Deployment)

/-- The protocol as it is deployed, at some moment and with some roles. -/
def deployed (now : ℕ) (hasRole : Role → Address → Bool) : World where
  now := now
  hasRole := hasRole
  protocolParameters := default
  resolutionModuleRegistry := default
  claimRegistry := ClaimRegistry.deployed
  replicationRegistry := ReplicationRegistry.deployed
  agentRegistry := AgentRegistry.deployed
  bondEscrow := BondEscrow.deployed
  epistemicMarket := EpistemicMarket.deployed
  claimRewardVault := ClaimRewardVault.deployed
  appealsRegistry := AppealsRegistry.deployed
  artifactRegistry := ArtifactRegistry.deployed
  reputationCheckpointRegistry := ReputationCheckpointRegistry.deployed

/-- The context a message gives the contract it is sent to. -/
def context (w : World) (message : Message) : Ctx where
  sender := message.sender
  value := message.value
  timestamp := w.now
  hasRole := w.hasRole
  reply := message.reply
  deployment := D

/-- Running a message. -/
def exec (message : Message) (w : World) : Tx Revert (Outcome World Suspended) :=
  let ctx := w.context D message
  match message.target with
  | .accessController hasRole => .ok (.done { w with hasRole })
  | .protocolParameters call =>
    (fun s => .done { w with protocolParameters := s }) <$> w.protocolParameters.exec ctx call
  | .resolutionModuleRegistry call =>
    (fun s => .done { w with resolutionModuleRegistry := s }) <$>
      w.resolutionModuleRegistry.exec ctx call
  -- The escrow the registry asks about bonds asks the registry back.
  | .claimRegistry call =>
    (fun s => .done { w with claimRegistry := s }) <$>
      w.claimRegistry.exec ctx w.protocolParameters w.resolutionModuleRegistry
        w.replicationRegistry (w.bondEscrow.toIBondEscrow w.claimRegistry) (call.linked D)
  | .replicationRegistry call =>
    (fun s => .done { w with replicationRegistry := s }) <$>
      w.replicationRegistry.exec ctx w.claimRegistry.toIClaimRegistry w.agentRegistry call
  | .agentRegistry call =>
    Outcome.map (fun s => { w with agentRegistry := s }) .agentRegistry <$>
      w.agentRegistry.exec ctx call
  | .bondEscrow call =>
    Outcome.map (fun s => { w with bondEscrow := s }) .bondEscrow <$>
      w.bondEscrow.exec ctx w.claimRegistry w.replicationRegistry call
  | .epistemicMarket call =>
    Outcome.map (fun s => { w with epistemicMarket := s }) .epistemicMarket <$>
      w.epistemicMarket.exec ctx w.claimRegistry w.agentRegistry w.replicationRegistry call
  -- The vault's accruals also change the agent registry.
  | .claimRewardVault call =>
    Outcome.map (fun s => { w with claimRewardVault := s.1, agentRegistry := s.2 })
      .claimRewardVault <$> w.claimRewardVault.exec ctx w.claimRegistry w.agentRegistry call
  | .appealsRegistry call =>
    Outcome.map (fun s => { w with appealsRegistry := s }) .appealsRegistry <$>
      w.appealsRegistry.exec ctx w.claimRegistry w.replicationRegistry w.epistemicMarket call
  | .artifactRegistry call =>
    (fun s => .done { w with artifactRegistry := s }) <$>
      w.artifactRegistry.exec ctx w.claimRegistry call
  | .reputationCheckpointRegistry call =>
    (fun s => .done { w with reputationCheckpointRegistry := s }) <$>
      w.reputationCheckpointRegistry.exec ctx w.claimRegistry w.agentRegistry
        w.resolutionModuleRegistry call

/-- Finishing a suspended call. -/
def resume (pending : Suspended) (w : World) : World :=
  match pending with
  | .agentRegistry p => { w with agentRegistry := w.agentRegistry.resume p }
  | .bondEscrow p => { w with bondEscrow := w.bondEscrow.resume p }
  | .epistemicMarket p => { w with epistemicMarket := w.epistemicMarket.resume p }
  | .claimRewardVault p => { w with claimRewardVault := w.claimRewardVault.resume p }
  | .appealsRegistry p => { w with appealsRegistry := w.appealsRegistry.resume p }

/-- Time passes: the clock does not run backwards, and stays a word. -/
def tick (now : ℕ) (w : World) : Option World :=
  if w.now ≤ now ∧ now < uint256Size then some { w with now } else none

end World

/-- **The protocol as a machine**, deployed at some moment after the beginning of
time. -/
def protocol (D : Deployment) : Machine Revert World Message Suspended where
  genesis w := ∃ now hasRole, 0 < now ∧ now < uint256Size ∧ w = World.deployed now hasRole
  exec := World.exec D
  resume := World.resume
  tick := World.tick

/-- One step of a history of the protocol. -/
abbrev ProtocolEvent : Type := Event World Message Suspended

namespace World

/-! ### What a step does, contract by contract -/

variable {D : Deployment}

/-- **What a step of the protocol does to a world.** The claim registry is the
only contract whose calls depend on how the protocol is linked; the vault is the
only one whose calls change a second contract. -/
inductive Step (D : Deployment) : Action Message Suspended → World → World → Prop
  /-- Nothing of the protocol runs. -/
  | foreign (w : World) : Step D .foreign w w
  | tick {w : World} {now : ℕ} :
      w.now ≤ now → now < uint256Size → Step D (.tick now) w { w with now }
  | accessController {w : World} {m : Message} {hasRole : Role → Address → Bool} :
      m.target = .accessController hasRole → Step D (.exec m) w { w with hasRole }
  | protocolParameters {w : World} {m : Message} {call : ProtocolParameters.Call}
      {s : ProtocolParameters} : m.target = .protocolParameters call →
      w.protocolParameters.exec (w.context D m) call = .ok s →
      Step D (.exec m) w { w with protocolParameters := s }
  | resolutionModuleRegistry {w : World} {m : Message} {call : ResolutionModuleRegistry.Call}
      {s : ResolutionModuleRegistry} : m.target = .resolutionModuleRegistry call →
      w.resolutionModuleRegistry.exec (w.context D m) call = .ok s →
      Step D (.exec m) w { w with resolutionModuleRegistry := s }
  | claimRegistry {w : World} {m : Message} {call : ClaimRegistry.Call} {s : ClaimRegistry} :
      m.target = .claimRegistry call →
      w.claimRegistry.exec (w.context D m) w.protocolParameters w.resolutionModuleRegistry
        w.replicationRegistry (w.bondEscrow.toIBondEscrow w.claimRegistry) (call.linked D) =
          .ok s →
      Step D (.exec m) w { w with claimRegistry := s }
  | replicationRegistry {w : World} {m : Message} {call : ReplicationRegistry.Call}
      {s : ReplicationRegistry} : m.target = .replicationRegistry call →
      w.replicationRegistry.exec (w.context D m) w.claimRegistry.toIClaimRegistry
        w.agentRegistry call = .ok s →
      Step D (.exec m) w { w with replicationRegistry := s }
  | agentRegistry {w : World} {m : Message} {call : AgentRegistry.Call}
      {o : Outcome AgentRegistry AgentRegistry.Pending} : m.target = .agentRegistry call →
      w.agentRegistry.exec (w.context D m) call = .ok o →
      Step D (.exec m) w { w with agentRegistry := o.state }
  | bondEscrow {w : World} {m : Message} {call : BondEscrow.Call}
      {o : Outcome BondEscrow BondEscrow.Pending} : m.target = .bondEscrow call →
      w.bondEscrow.exec (w.context D m) w.claimRegistry w.replicationRegistry call = .ok o →
      Step D (.exec m) w { w with bondEscrow := o.state }
  | epistemicMarket {w : World} {m : Message} {call : EpistemicMarket.Call}
      {o : Outcome EpistemicMarket EpistemicMarket.Pending} : m.target = .epistemicMarket call →
      w.epistemicMarket.exec (w.context D m) w.claimRegistry w.agentRegistry
        w.replicationRegistry call = .ok o →
      Step D (.exec m) w { w with epistemicMarket := o.state }
  | claimRewardVault {w : World} {m : Message} {call : ClaimRewardVault.Call}
      {o : Outcome (ClaimRewardVault × AgentRegistry) ClaimRewardVault.Pending} :
      m.target = .claimRewardVault call →
      w.claimRewardVault.exec (w.context D m) w.claimRegistry w.agentRegistry call = .ok o →
      Step D (.exec m) w { w with claimRewardVault := o.state.1, agentRegistry := o.state.2 }
  | appealsRegistry {w : World} {m : Message} {call : AppealsRegistry.Call}
      {o : Outcome AppealsRegistry AppealsRegistry.Pending} : m.target = .appealsRegistry call →
      w.appealsRegistry.exec (w.context D m) w.claimRegistry w.replicationRegistry
        w.epistemicMarket call = .ok o →
      Step D (.exec m) w { w with appealsRegistry := o.state }
  | artifactRegistry {w : World} {m : Message} {call : ArtifactRegistry.Call}
      {s : ArtifactRegistry} : m.target = .artifactRegistry call →
      w.artifactRegistry.exec (w.context D m) w.claimRegistry call = .ok s →
      Step D (.exec m) w { w with artifactRegistry := s }
  | reputationCheckpointRegistry {w : World} {m : Message}
      {call : ReputationCheckpointRegistry.Call} {s : ReputationCheckpointRegistry} :
      m.target = .reputationCheckpointRegistry call →
      w.reputationCheckpointRegistry.exec (w.context D m) w.claimRegistry w.agentRegistry
        w.resolutionModuleRegistry call = .ok s →
      Step D (.exec m) w { w with reputationCheckpointRegistry := s }
  | resume (p : Suspended) (w : World) : Step D (.resume p) w (w.resume p)

/-- The ether a step sends out of the protocol: to whom, and how much. -/
def sent (D : Deployment) (a : Action Message Suspended) (w : World) : Option (Address × ℕ) :=
  match a with
  | .exec m => match exec D m w with
    | .ok o => o.sent
    | .error _ => none
  | _ => none

theorem sent_of_exec {m : Message} {w : World} {o : Outcome World Suspended}
    (h : exec D m w = .ok o) : sent D (.exec m) w = o.sent := by
  simp only [sent, h]

/-- Every successful message is a step. -/
theorem step_of_exec {m : Message} {w : World} {o : Outcome World Suspended}
    (h : exec D m w = .ok o) : Step D (.exec m) w o.state := by
  unfold exec at h
  split at h
  next htarget =>
    obtain rfl := Except.ok.inj h
    exact .accessController htarget
  all_goals
    next htarget =>
      obtain ⟨s, hexec, rfl⟩ := map_eq_ok.mp h
      first
        | rw [Outcome.state_map]
        | rw [Outcome.state_done]
      first
        | exact .protocolParameters htarget hexec
        | exact .resolutionModuleRegistry htarget hexec
        | exact .claimRegistry htarget hexec
        | exact .replicationRegistry htarget hexec
        | exact .agentRegistry htarget hexec
        | exact .bondEscrow htarget hexec
        | exact .epistemicMarket htarget hexec
        | exact .claimRewardVault htarget hexec
        | exact .appealsRegistry htarget hexec
        | exact .artifactRegistry htarget hexec
        | exact .reputationCheckpointRegistry htarget hexec

/-- **Every step of the machine is one of the steps above.** -/
theorem step_of_effect {a : Action Message Suspended} {w w' : World}
    (h : (protocol D).Effect a w w') : Step D a w w' := by
  cases h with
  | exec h => exact step_of_exec h
  | resume p w => exact .resume p w
  | foreign w => exact .foreign w
  | tick h =>
    obtain ⟨⟨hle, hlt⟩, hw⟩ := Option.ite_none_right_eq_some.mp h
    obtain rfl := Option.some.inj hw
    exact .tick hle hlt

/-- The clock does not run backwards. -/
theorem Step.now_le {a : Action Message Suspended} {w w' : World} (h : Step D a w w') :
    w.now ≤ w'.now := by
  cases h with
  | tick hle _ => exact hle
  | resume p w => cases p <;> exact le_rfl
  | _ => exact le_rfl

end World

/-- Time has begun at every observable moment. -/
theorem now_pos {D : Deployment} {c : Config World Suspended} (h : (protocol D).Reachable c) :
    0 < c.world.now := by
  refine h.invariant (I := fun w => 0 < w.now) ?_ fun _ hpos heffect => ?_
  · rintro _ ⟨now, hasRole, hpos, -, rfl⟩
    exact hpos
  · exact hpos.trans_le (World.step_of_effect heffect).now_le

/-- The clock is a word at every observable moment. -/
theorem now_lt {D : Deployment} {c : Config World Suspended} (h : (protocol D).Reachable c) :
    c.world.now < uint256Size := by
  refine h.invariant (I := fun w => w.now < uint256Size) ?_ fun {c a w'} _ hlt heffect => ?_
  · rintro _ ⟨now, hasRole, -, hlt, rfl⟩
    exact hlt
  · have hstep := World.step_of_effect heffect
    generalize c.world = w at hstep hlt
    cases hstep with
    | tick _ htick => exact htick
    | resume p w => cases p <;> exact hlt
    | _ => exact hlt

/-- The sender can make this call of the protocol, without value, when a module outside the
repository answers with `reply`. -/
def World.Allows (D : Deployment) (w : World) (sender : Address) (reply : ModuleReply)
    (target : Target) : Prop :=
  ∃ o, World.exec D { sender, value := 0, reply, target } w = .ok o

/-! ### A deployment to play histories on -/

/-- The true value of the hash function at the few inputs the histories below ask
for: the parameter key, and the commitment to `(Supports, 7000, 1)`. -/
def devnetHash (bytes : List UInt8) : Bytes32 :=
  if bytes = "osp.claim.minAuthorBond".toUTF8.data.toList then
    0x4d550da678d2e8c9ab52d783f9f54d45f3d894024f9c31314fa9e6095b10e591
  else if bytes = abiEncode [0, 7000, 1] then
    0x470a3d52539f2460d48f07329f3d4f704cc54d801e5367b98185fcd305c38765
  else 0

/-- A development network, with the computational module at `0xC0`. -/
def devnet : Deployment where
  keccak256 := devnetHash
  moduleCode module := if module = 0xC0 then .computational else .other
  bondEscrow := 0xE0
  replicationRegistry := 0xE1
  claimRewardVault := 0xE2
  contracts := [0xE0, 0xE1, 0xE2, 0xE3, 0xE4, 0xE5, 0xE6, 0xE7, 0xE8, 0xE9, 0xEA]
  slashRecipient := 0xF0
  forfeitRecipient := 0xF0
  bondEscrow_ne_zero := by decide
  replicationRegistry_ne_zero := by decide
  slashRecipient_ne_zero := by decide
  forfeitRecipient_ne_zero := by decide

/-- The network as it is deployed: `0x0A` holds every role. -/
def devnetGenesis : World := World.deployed 1 fun _ account => decide (account = 0x0A)

theorem devnetGenesis_genesis : (protocol devnet).genesis devnetGenesis :=
  ⟨1, _, Nat.one_pos, by decide, rfl⟩

/-- A message of a played history. -/
def send (sender : Address) (value : ℕ) (target : Target) : Move Message :=
  .call { sender, value, reply := default, target }

/-- What `0x0A` does first: it links the protocol, registers the module, and takes
claim 1 of the author `0xAA` to the point where it can be replicated. -/
def opening : List (Move Message) :=
  [send 0x0A 0 (.resolutionModuleRegistry (.registerModule 0xC0 "")),
    send 0x0A 0 (.claimRegistry (.configureProtocolDependencies 0xE0 0xE1)),
    send 0xAA 0 (.claimRegistry
      (.createClaim { (default : ClaimSummary) with author := 0xAA } 0 0xC0)),
    send 0x0A 0 (.claimRegistry (.setClaimStatus 1 .published)),
    send 0x0A 0 (.claimRegistry (.setClaimStatus 1 .underReplication))]

/-- A result the computational module accepts. -/
def devnetResult (status : ResolutionStatus) : ResolutionResult :=
  { status, confidenceBps := 9000, resolutionHash := 7, resolverType := .computationOracle,
    evidenceHash := 8, evidenceURI := "" }

/-- The configuration a list of moves reaches on the network, and the history. -/
def playDevnet (moves : List (Move Message)) :
    Option (List ProtocolEvent × Config World Suspended) :=
  (protocol devnet).play moves ⟨devnetGenesis, []⟩

/-- **Played histories are histories of the protocol.** -/
theorem run_playDevnet {moves : List (Move Message)} (h : (playDevnet moves).isSome) :
    (protocol devnet).Run ((playDevnet moves).get h).1 ((playDevnet moves).get h).2 :=
  Machine.run_play devnetGenesis_genesis h

end ScientificProtocol
