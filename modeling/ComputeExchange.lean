import ComputeExchange.Lab.Scenario.Program
import ComputeExchange.Lab.Scenario.Session
import ComputeExchange.Main
import ComputeExchange.Proofs.Program
import ComputeExchange.Proofs.Interpretation
import ComputeExchange.Proofs.Sync.Calls
import ComputeExchange.Proofs.Sync.Pass
import ComputeExchange.Proofs.Sync.Run
import ComputeExchange.Proofs.Sync.Delivery
import ComputeExchange.Proofs.Sync.Replay
import ComputeExchange.Proofs.Sync.Resolving
import ComputeExchange.Proofs.Sync.Restart
import ComputeExchange.Proofs.Sync.Interpreted
import ComputeExchange.Proofs.Job.Life
import ComputeExchange.Proofs.Protocol
import ComputeExchange.Proofs.Interleaving
import ComputeExchange.Proofs.Chronicle
import ComputeExchange.Proofs.Dispatch.Calls
import ComputeExchange.Proofs.Store.Jobs
import ComputeExchange.Proofs.Dispatch.Lifecycle
import ComputeExchange.Proofs.Dispatch.JobHistory
import ComputeExchange.Proofs.Dispatch.Delivered
import ComputeExchange.Proofs.Dispatch.Acknowledged
import ComputeExchange.Proofs.Settlement.Calls
import ComputeExchange.Proofs.Settlement.Serial
import ComputeExchange.Proofs.Settlement.Service
import ComputeExchange.Proofs.Sync.Following
import ComputeExchange.Proofs.Dispatch.Ingestion
import ComputeExchange.Proofs.Provider.Record
import ComputeExchange.Proofs.Store.Providers
import ComputeExchange.Proofs.Registry.Calls
import ComputeExchange.Proofs.Registry.Rows
import ComputeExchange.Proofs.Sync.Replayed
import ComputeExchange.Proofs.Provider.Heard
import ComputeExchange.Proofs.Registry.Outcome
import ComputeExchange.Proofs.Health.Position
import ComputeExchange.Proofs.Sync.Lag
import ComputeExchange.Proofs.Bus.Calls
import ComputeExchange.Proofs.Bus.Delivery
import ComputeExchange.Proofs.Bus.Subjects
import ComputeExchange.Proofs.Bus.Requests
import ComputeExchange.Proofs.Json.Digits
import ComputeExchange.Proofs.Json.Text
import ComputeExchange.Proofs.Json.Fields
import ComputeExchange.Proofs.Time.Calendar
import ComputeExchange.Proofs.Time.Rfc3339
import ComputeExchange.Proofs.Listing.Wire
import ComputeExchange.Proofs.Bus.Wire
import ComputeExchange.Proofs.Query.Desk
import ComputeExchange.Proofs.Query.Listed
import ComputeExchange.Proofs.Text.Utf8
import ComputeExchange.Proofs.Chain.Abi
import ComputeExchange.Proofs.Chain.Address
import ComputeExchange.Proofs.Chain.Emitted
import ComputeExchange.Proofs.Registry.Sweep
import ComputeExchange.Proofs.Dispatch.Assigned
import ComputeExchange.Proofs.Bus.Matching
import ComputeExchange.Proofs.Store.Keys
import ComputeExchange.Proofs.Listing.Pages
import ComputeExchange.Proofs.Sync.Extent
import ComputeExchange.Proofs.Sync.Account
import ComputeExchange.Proofs.Overlooking
import ComputeExchange.Proofs.Settlement.Indifferent
import ComputeExchange.Proofs.Settlement.OnChain
import ComputeExchange.Proofs.Settlement.Mirror
import ComputeExchange.Proofs.Settlement.Overtaken
import ComputeExchange.Proofs.Sync.Tries
import ComputeExchange.Proofs.Sync.Unsaved
import ComputeExchange.Proofs.Dispatch.Addressed
import ComputeExchange.Proofs.Health.Monotone
import ComputeExchange.Proofs.Store.Confined
import ComputeExchange.Proofs.Service.Supervised
import ComputeExchange.Proofs.Dispatch.Redelivery
import ComputeExchange.Proofs.Query.Answered
import ComputeExchange.Proofs.Health.History
import ComputeExchange.Proofs.Sync.Starting
