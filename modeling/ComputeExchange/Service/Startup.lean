import ComputeExchange.Bus.Message
import ComputeExchange.Service.Settings
import ComputeExchange.Sql.Migration
import ComputeExchange.Sql.Repository

/-!
# Starting a service

A service opens its database and brings the schema up to date, joins the bus, opens its health
endpoint and resolves where it starts on its chain.  The first of these that fails ends it; only
then do its loops run.
-/

namespace ComputeExchange

/-- The loops that services are made of. -/
inductive Duty where
  | synchronizer
  | sweeper
  | jobsQuery
  | redispatch
  | statusUpdates
  | nodesQuery
  | reputationQuery
  deriving DecidableEq, Repr

/-- The name of a loop, by which the health report tells it. -/
def Duty.name : Duty → String
  | synchronizer => "synchronizer"
  | sweeper => "sweeper"
  | jobsQuery => "jobs-query"
  | redispatch => "redispatch"
  | statusUpdates => "status-updates"
  | nodesQuery => "nodes-query"
  | reputationQuery => "reputation-query"

/-- The loops of a service in the order of their start. -/
def ServiceKind.duties : ServiceKind → List Duty
  | jobDispatcher => [.synchronizer, .jobsQuery, .redispatch, .statusUpdates]
  | nodeRegistry => [.synchronizer, .sweeper, .nodesQuery]
  | reputationSettler => [.synchronizer, .reputationQuery]

/-- What a service finds around it when it starts. -/
structure Surroundings (m : Type → Type) where
  openDatabase : (url : String) → m (Except Cause Unit)
  schema : Sql.SchemaStore m
  joinBus : (url : String) → m (Except BusError Unit)
  openHealth : Settings → m Unit
  /-- Resolves the block from which the service goes on. -/
  resolveCursor : Settings → m (Except SyncError UInt64)

namespace Surroundings

variable {m : Type → Type} [Monad m]

/-- Takes what an action gives, or fails with its error below a text. -/
def required {ε α : Type} [Explained ε] (text : String) (action : m (Except ε α)) :
    ExceptT Cause m α := do
  match ← action with
  | .ok a => return a
  | .error e => throw ((Explained.cause e).within text)

/-- Starts a service: the block from which it goes on. -/
def start (o : Surroundings m) (s : Settings) : ExceptT Cause m UInt64 := do
  required "Failed to initialize the Repository from the provided DB URL"
    (o.openDatabase s.shared.databaseUrl)
  match ← (Sql.migrate o.schema Sql.Migration.all).run with
  | .ok () => pure ()
  | .error _ => throw Sql.migrateFailure
  required "Failed to connect to NATS" (o.joinBus s.shared.natsUrl)
  o.openHealth s
  required "Failed to resolve the starting block" (o.resolveCursor s)

end Surroundings

end ComputeExchange
