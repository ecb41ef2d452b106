import ScientificProtocol.Claims.History
import ScientificProtocol.Concurrency.Processes
import ScientificProtocol.Js.Text
import ScientificProtocol.Sql.Table

/-!
# The reference resolver

`resolveReplicationJob` of `src/resolver/engine.ts`, with the table of its runs
(`src/resolver/store.ts`). A run reads a completed job, looks whether the replication has a
run, reads the claim and proposes a resolution. It inserts a row, and then sends up to three
transactions, each once the one before it has been executed: the claim is moved into
replication if it was only published, the replication is resolved, and the claim is resolved
by it. In the end the row is marked as submitted, or as failed if anything has thrown.

Any number of runs may be under way, for the same replication or not, and a run may be
stopped at any point; a transaction it has sent may be executed all the same, or never.
Others act on the chain in between, and may resolve the replication otherwise.
-/

namespace ScientificProtocol.Resolver

open Evm Concurrency Sql

/-! ### What is proposed -/

structure ProposedResolution where
  claimStatus : Option ClaimStatus
  confidenceBps : UInt16
  resolutionStatus : ResolutionStatus
  resolverType : ResolverType
  deriving DecidableEq

/-- `undefined` is the outer `none`, and `null` the inner one. -/
structure ResolveJobOptions where
  claimStatus : Option (Option ClaimStatus)
  confidenceBps : Option UInt16
  resolutionStatus : Option ResolutionStatus

def defaultResolutionForDomain (domainId : UInt64) : ProposedResolution :=
  if domainId = 2 then
    { claimStatus := some .underReplication
      confidenceBps := 6000
      resolutionStatus := .inconclusive
      resolverType := .wetLabCouncil }
  else if domainId = 3 then
    { claimStatus := some .qualified
      confidenceBps := 8800
      resolutionStatus := .qualified
      resolverType := .benchmarkOracle }
  else
    { claimStatus := some .qualified
      confidenceBps := 9200
      resolutionStatus := .supported
      resolverType := .computationOracle }

def defaultClaimStatusForResolution : ResolutionStatus → Option ClaimStatus
  | .supported | .qualified => some .qualified
  | .refuted => some .refuted
  | .fraudSignal => some .fraudulent
  | .inconclusive | .escalated => some .underReplication
  | .pending => none

def proposedResolution (options : ResolveJobOptions) (domainId : UInt64) : ProposedResolution :=
  let defaults := defaultResolutionForDomain domainId
  let resolutionStatus := options.resolutionStatus.getD defaults.resolutionStatus
  { claimStatus := options.claimStatus.getD (defaultClaimStatusForResolution resolutionStatus)
    confidenceBps := options.confidenceBps.getD defaults.confidenceBps
    resolutionStatus
    resolverType := defaults.resolverType }

/-! ### The table of runs -/

inductive ResolutionRunStatus where
  | failed
  | prepared
  | submitted
  deriving DecidableEq, Repr

/-- A row of `resolution_runs`, whose replications are unique. -/
structure ResolutionRun where
  jobId : ℕ
  claimId : String
  replicationId : String
  resolver : Address
  status : ResolutionRunStatus
  resolutionStatus : ResolutionStatus
  claimStatus : Option ClaimStatus
  resolverType : ResolverType
  confidenceBps : UInt16
  resolutionHash : Bytes32
  evidenceHash : Bytes32
  evidenceURI : String
  rationaleArtifactKey : String
  failureReason : Option String
  deriving DecidableEq

/-- `readResolutionRunsPage` of a replication, as far as it counts. -/
def countRuns (runs : Serial ResolutionRun) (replicationId : String) : ℕ :=
  runs.count fun _ run => decide (run.replicationId = replicationId)

/-- A replication that has a run does not get another one. -/
def insertResolutionRun (runs : Serial ResolutionRun) (input : ResolutionRun) :
    Option (ℕ × Serial ResolutionRun) :=
  if countRuns runs input.replicationId = 0 then some (runs.next, runs.insert input) else none

def markResolutionRunSubmitted (runs : Serial ResolutionRun) (runId : ℕ) : Serial ResolutionRun :=
  runs.update runId fun run => { run with status := .submitted }

def markResolutionRunFailed (runs : Serial ResolutionRun) (runId : ℕ) (failureReason : String) :
    Serial ResolutionRun :=
  runs.update runId fun run =>
    { run with status := .failed, failureReason := some failureReason }

/-! ### A run -/

/-- What is read of a job and of the artifact it has produced. -/
structure ReplicationJob where
  jobId : ℕ
  isCompleted : Bool
  onchainReplicationId : Option String
  claimId : String
  evidenceHash : Option Bytes32
  evidenceURI : Option String
  artifactSha256 : Bytes32
  storagePath : String

/-- The hash of the text of a resolution. -/
abbrev ResolutionHash := ℕ → String → ProposedResolution → String → Bytes32

/-- What a run is about to do. -/
structure ResolutionTask where
  claimId : ℕ
  replicationId : ℕ
  /-- The status of the claim when it was read. -/
  currentStatus : ClaimStatus
  /-- The row it inserts. -/
  input : ResolutionRun

/-- The transaction a run has come to. -/
inductive ResolutionPhase where
  | move
  | resolve
  | finalize
  | done
  deriving DecidableEq, Repr

def ResolutionPhase.next : ResolutionPhase → ResolutionPhase
  | .move => .resolve
  | .resolve => .finalize
  | .finalize | .done => .done

inductive ResolutionStage where
  | trying
  /-- Something has thrown, and it is going to mark its row. -/
  | failing
  /-- It has marked its row, or has been stopped. -/
  | over
  deriving DecidableEq, Repr

/-- A run that waits for something that does not come throws. -/
def ResolutionStage.threw : ResolutionStage → ResolutionStage
  | .trying => .failing
  | stage => stage

/-- Where a run is. -/
inductive Resolution where
  | idle
  /-- It has read a job that it can resolve. -/
  | admitted (job : ReplicationJob) (replicationId : String)
  /-- It has found no run of the replication. -/
  | checked (job : ReplicationJob) (replicationId : String)
  | proposed (task : ResolutionTask)
  /-- It has thrown before there was a row. -/
  | stopped
  | underWay (runId : ℕ) (task : ResolutionTask) (stage : ResolutionStage)
      (phase : ResolutionPhase) (inFlight : Bool)

/-- What the runs share. -/
structure ResolverSite where
  runs : Serial ResolutionRun
  chain : Evm.Config World Suspended

inductive ResolutionAction where
  | readJob (job : ReplicationJob)
  | readRuns
  /-- The account `resolver` signs what the run sends. -/
  | readClaim (resolver : Address) (options : ResolveJobOptions) (rationaleArtifactKey : String)
  | insertRun
  | send
  /-- The chain executes the transaction; a module outside answers with `reply`. -/
  | mine (reply : ModuleReply)
  /-- The transaction is dropped. -/
  | drop
  | throw
  /-- The row is read again once it is marked, and may not be found. -/
  | markSubmitted (found : Bool)
  | markFailed (failureReason : String)
  | crash

section

variable (resolutionHash : ResolutionHash)

/-- The row a run inserts. -/
def ReplicationJob.resolutionRun (job : ReplicationJob) (resolver : Address)
    (replicationId : String) (proposal : ProposedResolution) (rationaleArtifactKey : String) :
    ResolutionRun where
  jobId := job.jobId
  claimId := job.claimId
  replicationId := replicationId
  resolver := resolver
  status := .prepared
  resolutionStatus := proposal.resolutionStatus
  claimStatus := proposal.claimStatus
  resolverType := proposal.resolverType
  confidenceBps := proposal.confidenceBps
  resolutionHash := resolutionHash job.jobId replicationId proposal rationaleArtifactKey
  evidenceHash := job.evidenceHash.getD job.artifactSha256
  evidenceURI := job.evidenceURI.getD job.storagePath
  rationaleArtifactKey := rationaleArtifactKey
  failureReason := none

/-- The result a run submits. -/
def ResolutionRun.result (run : ResolutionRun) : ResolutionResult where
  status := run.resolutionStatus
  confidenceBps := run.confidenceBps
  resolutionHash := run.resolutionHash
  resolverType := run.resolverType
  evidenceHash := run.evidenceHash
  evidenceURI := run.evidenceURI

/-- The transaction of a phase. -/
def ResolutionTask.target (task : ResolutionTask) : ResolutionPhase → Option Target
  | .move => some (.claimRegistry (.setClaimStatus task.claimId .underReplication))
  | .resolve =>
    some (.replicationRegistry
      (.resolveReplicationOutcome task.replicationId task.input.result))
  | .finalize =>
    some (.claimRegistry (.finalizeClaimResolution task.claimId task.replicationId))
  | .done => none

/-- The message a resolver sends. -/
def message (resolver : Address) (reply : ModuleReply) (target : Target) : Message where
  sender := resolver
  value := 0
  reply := reply
  target := target

variable (D : Deployment)

/-- The chain executes a transaction, between two others. -/
def mineTx (runId : ℕ) (task : ResolutionTask) (stage : ResolutionStage)
    (phase : ResolutionPhase) (reply : ModuleReply) (target : Target) (s : ResolverSite) :
    Option (ResolverSite × Resolution) :=
  match s.chain.frames,
    World.exec D (message task.input.resolver reply target) s.chain.world with
  | [], .ok (.done w) =>
    some ({ s with chain := ⟨w, []⟩ }, .underWay runId task stage phase.next false)
  | [], .error _ => some (s, .underWay runId task stage.threw phase false)
  | _, _ => none

/-- One action of a run that has its row. -/
def underWayAct (runId : ℕ) (task : ResolutionTask) (s : ResolverSite) :
    ResolutionAction → ResolutionStage → ResolutionPhase → Bool →
      Option (ResolverSite × Resolution)
  | .send, .trying, phase, false =>
    if phase = .move ∧ task.currentStatus ≠ .published then
      some (s, .underWay runId task .trying .resolve false)
    else if phase = .done then none
    else some (s, .underWay runId task .trying phase true)
  -- The transaction of a run that is over is executed all the same.
  | .mine reply, stage, phase, true =>
    (task.target phase).bind fun target =>
      mineTx D runId task stage phase reply target s
  | .drop, stage, phase, true => some (s, .underWay runId task stage.threw phase false)
  | .throw, .trying, phase, inFlight => some (s, .underWay runId task .failing phase inFlight)
  | .markSubmitted found, .trying, .done, false =>
    some ({ s with runs := markResolutionRunSubmitted s.runs runId },
      .underWay runId task (if found then .over else .failing) .done false)
  | .markFailed failureReason, .failing, phase, inFlight =>
    some ({ s with runs := markResolutionRunFailed s.runs runId failureReason },
      .underWay runId task .over phase inFlight)
  | .crash, _, phase, inFlight => some (s, .underWay runId task .over phase inFlight)
  | _, _, _, _ => none

/-- **One action of a run.** -/
def resolutionAct (a : ResolutionAction) (s : ResolverSite) :
    Resolution → Option (ResolverSite × Resolution)
  | .idle => match a with
    | .readJob job => match job.isCompleted, job.onchainReplicationId.filter (· ≠ "") with
      | true, some replicationId => some (s, .admitted job replicationId)
      | _, _ => some (s, .stopped)
    | _ => none
  | .admitted job replicationId => match a with
    | .readRuns =>
      if 0 < countRuns s.runs replicationId then some (s, .stopped)
      else some (s, .checked job replicationId)
    | .throw | .crash => some (s, .stopped)
    | _ => none
  | .checked job replicationId => match a with
    | .readClaim resolver options rationaleArtifactKey =>
      match Js.bigInt job.claimId, Js.bigInt replicationId with
      | some claimId, some replicationNumber =>
        match s.chain.world.claimRegistry.getClaim claimId with
        | .ok claimRecord =>
          let proposal := proposedResolution options claimRecord.summary.domainId
          some (s, .proposed
            { claimId, replicationId := replicationNumber, currentStatus := claimRecord.status
              input :=
                job.resolutionRun resolutionHash resolver replicationId proposal
                  rationaleArtifactKey })
        | .error _ => some (s, .stopped)
      | _, _ => some (s, .stopped)
    | .throw | .crash => some (s, .stopped)
    | _ => none
  | .proposed task => match a with
    | .insertRun => match insertResolutionRun s.runs task.input with
      | some (runId, runs) => some ({ s with runs }, .underWay runId task .trying .move false)
      | none => some (s, .stopped)
    | .throw | .crash => some (s, .stopped)
    | _ => none
  | .stopped => none
  | .underWay runId task stage phase inFlight =>
    underWayAct D runId task s a stage phase inFlight

/-- What others do on the chain. -/
inductive ResolverEnvStep : Evm.Action Message Suspended → ResolverSite → ResolverSite → Prop
  | chain {s : ResolverSite} {a : Evm.Action Message Suspended}
      {c : Evm.Config World Suspended} : (protocol D).Forward s.chain a c →
      ResolverEnvStep a s { s with chain := c }

/-- **The runs of the resolver**, on any chain that can be observed. -/
def resolutions :
    Processes ResolverSite Resolution ResolutionAction (Evm.Action Message Suspended) where
  genesis s := (protocol D).Reachable s.chain ∧ s.runs = .empty
  idle := .idle
  act := resolutionAct resolutionHash D
  env := ResolverEnvStep D

end

end ScientificProtocol.Resolver
