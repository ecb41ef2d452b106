import ScientificProtocol.Evm.Mapping
import ScientificProtocol.Evm.Numbered
import ScientificProtocol.Evm.CallStack
import ScientificProtocol.Order.KeepHigher
import ScientificProtocol.Contracts.ResolutionModules
import ScientificProtocol.Contracts.AgentRegistry
import ScientificProtocol.Contracts.ClaimRegistry
import ScientificProtocol.Contracts.BondEscrow
import ScientificProtocol.Contracts.EpistemicMarket
import ScientificProtocol.Contracts.ClaimRewardVault
import ScientificProtocol.Contracts.AppealsRegistry
import ScientificProtocol.Contracts.RecordRegistries
import ScientificProtocol.System.World
import ScientificProtocol.Market.Step
import ScientificProtocol.Market.Solvency
import ScientificProtocol.Market.Exit
import ScientificProtocol.Market.Settlement
import ScientificProtocol.Market.Provenance
import ScientificProtocol.Market.KnownOutcome
import ScientificProtocol.Claims.Step
import ScientificProtocol.Claims.Decisions
import ScientificProtocol.Claims.History
import ScientificProtocol.Claims.Publication
import ScientificProtocol.Claims.Lineage
import ScientificProtocol.Claims.OrderIndependence
import ScientificProtocol.Escrow.Step
import ScientificProtocol.Escrow.Conservation
import ScientificProtocol.Escrow.Payouts
import ScientificProtocol.Rewards.Step
import ScientificProtocol.Rewards.Conservation
import ScientificProtocol.Pause.Step
import ScientificProtocol.Pause.Noninterference
import ScientificProtocol.Agents.Step
import ScientificProtocol.Agents.Conservation
import ScientificProtocol.Appeals.Step
import ScientificProtocol.Appeals.Conservation
import ScientificProtocol.Js.Text
import ScientificProtocol.RewardPolicy.ReadModel
import ScientificProtocol.Js.Map
import ScientificProtocol.RewardPolicy.Settlement
import ScientificProtocol.RewardPolicy.Candidates
import ScientificProtocol.RewardPolicy.Resolution
import ScientificProtocol.RewardPolicy.Agreement
import ScientificProtocol.RewardPolicy.Keys
import ScientificProtocol.Concurrency.Processes
import ScientificProtocol.Concurrency.StepLedger
import ScientificProtocol.RewardPolicy.Policy
import ScientificProtocol.RewardPolicy.Payments
import ScientificProtocol.RewardPolicy.Fence
import ScientificProtocol.RewardPolicy.Recovery
import ScientificProtocol.RewardPolicy.Budget
import ScientificProtocol.RewardPolicy.Throttle
import ScientificProtocol.RewardPolicy.RankDiscounts
import ScientificProtocol.Sql.Table
import ScientificProtocol.Sql.Batch
import ScientificProtocol.Concurrency.Leases
import ScientificProtocol.Coordinator.WorkQueue
import ScientificProtocol.Coordinator.Exclusivity
import ScientificProtocol.Coordinator.Store
import ScientificProtocol.Coordinator.Fencing
import ScientificProtocol.Coordinator.Execution
import ScientificProtocol.Coordinator.Submissions
import ScientificProtocol.Coordinator.TaskCreation
import ScientificProtocol.PublicWrite.Requests
import ScientificProtocol.PublicWrite.Authentication
import ScientificProtocol.PublicWrite.ExecutionLease
import ScientificProtocol.Submission.Artifacts
import ScientificProtocol.Submission.ClaimCreation
import ScientificProtocol.Submission.CreatedOnce
import ScientificProtocol.Evm.Emits
import ScientificProtocol.Indexer.Events
import ScientificProtocol.Indexer.Store
import ScientificProtocol.Indexer.Chunk
import ScientificProtocol.Indexer.Merging
import ScientificProtocol.Indexer.Getters
import ScientificProtocol.Indexer.Emitted
import ScientificProtocol.Indexer.ClaimLogs
import ScientificProtocol.Indexer.MarketLogs
import ScientificProtocol.Indexer.AppealLogs
import ScientificProtocol.Indexer.AgentLogs
import ScientificProtocol.Review.Store
import ScientificProtocol.Review.Step
import ScientificProtocol.Review.Capacity
import ScientificProtocol.Review.Terminal
import ScientificProtocol.Work.Graph
import ScientificProtocol.Work.Advertised
import ScientificProtocol.Work.ClaimGraph
import ScientificProtocol.Work.Scheduling
import ScientificProtocol.Work.Closed
import ScientificProtocol.Review.Leases
import ScientificProtocol.Review.Aggregation
import ScientificProtocol.Review.AdverseEvidence
import ScientificProtocol.Review.Fairness
import ScientificProtocol.Sources.Store
import ScientificProtocol.Sources.Ingestion
import ScientificProtocol.Sources.OneRecord
import ScientificProtocol.Sources.Recovery
import ScientificProtocol.Sources.Decision
import ScientificProtocol.Sources.Clusters
import ScientificProtocol.Sources.Publication
import ScientificProtocol.Sources.OneClaim
import ScientificProtocol.Sources.SourceStatus
import ScientificProtocol.Sources.Rejection
import ScientificProtocol.Sources.Grounding
import ScientificProtocol.Sources.Stranded
import ScientificProtocol.Operator.Nonces
import ScientificProtocol.Js.Utf16
import ScientificProtocol.Indexer.Migrations
import ScientificProtocol.Webhooks.Dispatch
import ScientificProtocol.Reputation.Checkpoints
import ScientificProtocol.Reputation.Leaderboard
import ScientificProtocol.Api.RateLimit
import ScientificProtocol.Api.Limiters
import ScientificProtocol.Order.StableSort
import ScientificProtocol.Js.JsonText
import ScientificProtocol.Js.Decimal
import ScientificProtocol.Js.Quote
import ScientificProtocol.Js.Canonical
import ScientificProtocol.AgentRequests.Serialization
import ScientificProtocol.AgentRequests.Envelope
import ScientificProtocol.Webhooks.Sync
import ScientificProtocol.Concurrency.Paging
import ScientificProtocol.Artifacts.Filesystem
import ScientificProtocol.Artifacts.Persistence
import ScientificProtocol.Artifacts.Locators
import ScientificProtocol.Artifacts.Repair
import ScientificProtocol.Js.ReadBack
import ScientificProtocol.AgentRequests.CanonicalForm
import ScientificProtocol.Order.BigEndian
import ScientificProtocol.Js.Number
import ScientificProtocol.Outbound.Address
import ScientificProtocol.Outbound.Classify
import ScientificProtocol.Outbound.Fetch
import ScientificProtocol.Artifacts.Transport
import ScientificProtocol.Artifacts.Bundles
import ScientificProtocol.ReadModel.Pagination
import ScientificProtocol.Sql.Replay
import ScientificProtocol.Sql.Constraints
import ScientificProtocol.Indexer.Chain
import ScientificProtocol.Indexer.Sync
import ScientificProtocol.Indexer.Records
import ScientificProtocol.Indexer.Progress
import ScientificProtocol.Indexer.Mirror
import ScientificProtocol.Resolver.Engine
import ScientificProtocol.Resolver.Agreement
import ScientificProtocol.Evm.Listener
import ScientificProtocol.Subgraph.Handlers
import ScientificProtocol.Subgraph.Follows
import ScientificProtocol.Subgraph.Agreement
import ScientificProtocol.Coordinator.Reaping
import ScientificProtocol.Evm.Abi
import ScientificProtocol.Market.Commitments
import ScientificProtocol.Evm.Reports
import ScientificProtocol.Indexer.MarketReports
import ScientificProtocol.Indexer.AppealReports
import ScientificProtocol.Indexer.Outcomes
import ScientificProtocol.Indexer.References
import ScientificProtocol.Indexer.Constraints
import ScientificProtocol.Indexer.Advance
