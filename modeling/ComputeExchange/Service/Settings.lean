import ComputeExchange.Chain.Address
import ComputeExchange.Config.LogFilter
import ComputeExchange.Config.Options
import ComputeExchange.Config.SigningKey
import ComputeExchange.Config.Url

/-!
# The settings of a service

Everything that can be said of a service before it touches the outside: what the command line and
the environment ask for, checked in a fixed order.  The log comes first, then the command line, the
contracts, and the nodes of the chains; the signing key comes before the node that it is used with.
-/

namespace ComputeExchange

/-- Why a service ends before its loops run. -/
inductive StartFault where
  /-- The command line is not taken, or asks for a text only. -/
  | usage (fault : CommandLine.Fault)
  | failure (cause : Cause)

namespace StartFault

/-- The code with which the program ends. -/
def exitCode : StartFault → Nat
  | usage .help => 0
  | usage .version => 0
  | usage _ => 2
  | failure _ => 1

/-- The text of the failure; a fault of the command line has its own. -/
def message? : StartFault → Option String
  | usage _ => none
  | failure cause => some cause.message

end StartFault

/-- A contract, and the node through which it is reached. -/
structure ContractAccess where
  contract : Address
  nodeUrl : Url

/-- What is set for one service alone. -/
inductive Role where
  | jobDispatcher (payment : ContractAccess)
  | nodeRegistry (reputation : ContractAccess) (sweepIntervalSecs thresholdSecs : UInt64)
  | reputationSettler (payment reputation : ContractAccess)

/-- The settings of a service. -/
structure Settings where
  role : Role
  shared : SharedConfig

namespace Settings

/-- The service. -/
def kind (s : Settings) : ServiceKind :=
  match s.role with
  | .jobDispatcher _ => .jobDispatcher
  | .nodeRegistry .. => .nodeRegistry
  | .reputationSettler .. => .reputationSettler

/-- How the service follows its chain. -/
def sync (s : Settings) : Sync.Config := s.shared.sync s.kind.name

/-- Reads the URL of a node. -/
def readNode (url : String) : Except Cause Url :=
  match Url.parse? url with
  | some u => .ok u
  | none => .error (badNodeUrl url)

/-- The role that the values of a command line describe. -/
def readRole (kind : ServiceKind) (values : List (String × String)) : Except Cause Role := do
  let textOf := CommandLine.textOf values
  let wordOf (long : String) : UInt64 := UInt64.ofNat ((CommandLine.natOf? values long).getD 0)
  match kind with
  | .jobDispatcher =>
    let contract ← Address.parse (textOf "job-manager") "JobManager contract"
    let node ← readNode (textOf "payment-rpc-url")
    return .jobDispatcher ⟨contract, node⟩
  | .nodeRegistry =>
    let contract ← Address.parse (textOf "node-reputation") "NodeReputation contract"
    let node ← readNode (textOf "reputation-rpc-url")
    return .nodeRegistry ⟨contract, node⟩ (wordOf "sweep-interval-secs")
      (wordOf "liveness-threshold-secs")
  | .reputationSettler =>
    let jobManager ← Address.parse (textOf "job-manager") "JobManager contract"
    let nodeReputation ← Address.parse (textOf "node-reputation") "NodeReputation contract"
    let payment ← readNode (textOf "payment-rpc-url")
    if !SigningKey.isKey (textOf "admin-private-key") then throw SigningKey.badKey
    let reputation ← readNode (textOf "reputation-rpc-url")
    return .reputationSettler ⟨jobManager, payment⟩ ⟨nodeReputation, reputation⟩

/-- The variable of the environment that sets up the log. -/
def logVariable : String := "RUST_LOG"

/-- The variables of the environment that a service looks at. -/
def settingNames (kind : ServiceKind) : List String :=
  logVariable :: kind.grammar.options.map (·.variable_)

/-- Reads the settings of a service. -/
def read (kind : ServiceKind) (args : List String) (env : List (String × String)) :
    Except StartFault Settings := do
  if !(env.lookup logVariable).all LogFilter.isDirective then throw (.failure LogFilter.badFilter)
  let values ← (kind.grammar.read args env).mapError .usage
  let role ← (readRole kind values).mapError .failure
  return ⟨role, .ofValues values⟩

end Settings

end ComputeExchange
