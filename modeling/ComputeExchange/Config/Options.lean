import ComputeExchange.Config.CommandLine
import ComputeExchange.Sync.Synchronizer

/-!
# The options of the services

The options that all services share, and those of each.
-/

namespace ComputeExchange

open CommandLine (OptionSpec ValueKind)

/-- An option that has to be given. -/
def OptionSpec.required (long variable_ : String) : OptionSpec :=
  ⟨long, variable_, .text, none, true⟩

/-- An option with a default. -/
def OptionSpec.withDefault (long variable_ : String) (kind : ValueKind) (value : String) :
    OptionSpec :=
  ⟨long, variable_, kind, some value, false⟩

/-- The options that all services share. -/
def sharedOptions : List OptionSpec :=
  [OptionSpec.required "database-url" "DATABASE_URL",
   OptionSpec.withDefault "nats-url" "NATS_URL" .text "nats://localhost:4222",
   OptionSpec.withDefault "poll-interval-secs" "POLL_INTERVAL_SECS" .word "10",
   OptionSpec.withDefault "range-size" "RANGE_SIZE" .word "500",
   ⟨"start-block", "START_BLOCK", .word, none, false⟩,
   OptionSpec.withDefault "health-port" "HEALTH_PORT" .port "8080"]

/-- What is configured for every service. -/
structure SharedConfig where
  databaseUrl : String
  natsUrl : String
  healthPort : Nat
  pollIntervalSecs : UInt64
  rangeSize : UInt64
  startBlock : Option UInt64

namespace SharedConfig

/-- The configuration among the values of a command line. -/
def ofValues (values : List (String × String)) : SharedConfig where
  databaseUrl := CommandLine.textOf values "database-url"
  natsUrl := CommandLine.textOf values "nats-url"
  healthPort := (CommandLine.natOf? values "health-port").getD 0
  pollIntervalSecs := UInt64.ofNat ((CommandLine.natOf? values "poll-interval-secs").getD 0)
  rangeSize := UInt64.ofNat ((CommandLine.natOf? values "range-size").getD 0)
  startBlock := (CommandLine.natOf? values "start-block").map UInt64.ofNat

/-- How a service follows its chain. -/
def sync (c : SharedConfig) (service : String) : Sync.Config where
  service := service
  pollInterval := c.pollIntervalSecs.toNat * nanosPerSecond
  rangeSize := c.rangeSize
  startBlock := c.startBlock

end SharedConfig

/-- The services. -/
inductive ServiceKind where
  | jobDispatcher
  | nodeRegistry
  | reputationSettler
  deriving DecidableEq, Repr

namespace ServiceKind

/-- The name of a service, under which its cursor is saved too. -/
def name : ServiceKind → String
  | jobDispatcher => "job-dispatcher"
  | nodeRegistry => "node-registry"
  | reputationSettler => "reputation-settler"

/-- The service with a name. -/
def ofName? (s : String) : Option ServiceKind :=
  [jobDispatcher, nodeRegistry, reputationSettler].find? fun k => k.name == s

/-- What a service can be asked for on its command line. -/
def grammar (k : ServiceKind) : CommandLine.Grammar :=
  let payment := OptionSpec.required "payment-rpc-url" "BSC_RPC_URL"
  let reputation := OptionSpec.required "reputation-rpc-url" "OPBNB_RPC_URL"
  let jobManager := OptionSpec.required "job-manager" "JOB_MANAGER_CONTRACT_ADDRESS"
  let nodeReputation := OptionSpec.required "node-reputation" "NODE_REPUTATION_CONTRACT_ADDRESS"
  let own :=
    match k with
    | jobDispatcher => [payment, jobManager]
    | nodeRegistry =>
      [reputation, nodeReputation,
       OptionSpec.withDefault "sweep-interval-secs" "SWEEP_INTERVAL_SECS" .word "60",
       OptionSpec.withDefault "liveness-threshold-secs" "LIVENESS_THRESHOLD_SECS" .word "300"]
    | reputationSettler =>
      [payment, reputation, jobManager, nodeReputation,
       OptionSpec.required "admin-private-key" "ADMIN_WALLET_PRIVATE_KEY"]
  ⟨own ++ sharedOptions, true⟩

end ServiceKind

end ComputeExchange
