import ComputeExchange.Config.Endpoint
import ComputeExchange.Lab.Scheduler
import ComputeExchange.Service.Startup

/-!
# A service in the laboratory

The surroundings of a service in the laboratory's world, and its loops as tasks there.
-/

namespace ComputeExchange.Lab

/-- Who listens in the world, and how. -/
structure Listeners where
  /-- Whether the database lets nobody in. -/
  isDatabaseClosed : Bool
  /-- Whether the broker lets nobody in. -/
  isBrokerClosed : Bool

/-- The chain whose node listens where a URL leads. -/
def chainAt (u : Url) : Option ChainName :=
  match u.connectPort? with
  | some 8545 => some .payment
  | some 8546 => some .reputation
  | _ => none

/-- How a service reaches a contract. -/
def siteOf (access : ContractAccess) : ChainSite := ⟨access.contract, chainAt access.nodeUrl⟩

/-- The world as a service with these settings sees it. -/
def World.configure (w : World) (s : Settings) : World :=
  match s.role with
  | .jobDispatcher payment => { w with paymentSite := siteOf payment }
  | .nodeRegistry reputation _ threshold =>
    { w with
      reputationSite := siteOf reputation
      threshold := Registry.thresholdOfSeconds threshold }
  | .reputationSettler payment reputation =>
    { w with paymentSite := siteOf payment, reputationSite := siteOf reputation }

/-- The synchronizer of a service. -/
def syncUnitFor (s : Settings) (cursor : Option UInt64) : SyncUnit where
  config := s.sync
  source :=
    match s.kind with
    | .jobDispatcher => .jobs
    | .nodeRegistry => .nodes
    | .reputationSettler => .confirmations
  health := some s.kind.name
  cursor := cursor

/-- A loop of a service. -/
def routineOf (s : Settings) (cursor : UInt64) (timer : Nat) : Duty → Routine
  | .synchronizer => .synchronize (syncUnitFor s (some cursor))
  | .sweeper =>
    let every : Nat :=
      match s.role with
      | .nodeRegistry _ every _ => every.toNat * nanosPerSecond
      | _ => 0
    .sweep every timer s.kind.name
  | .jobsQuery => .serve .jobs .toOpen
  | .redispatch => .serve .redispatch .toOpen
  | .statusUpdates => .serve .status .toOpen
  | .nodesQuery => .serve .nodes .toOpen
  | .reputationQuery => .serve .reputation .toOpen

/-- The surroundings of a service in the world. -/
def surroundings (l : Listeners) : Surroundings Proc where
  openDatabase url :=
    return if l.isDatabaseClosed ||
        Endpoint.databasePort? url ≠ some Endpoint.usualDatabasePort then
      .error Sql.connectFailure
    else .ok ()
  schema := ScriptedDatabase.schemaStore Proc.onDatabase
  joinBus url :=
    return if l.isBrokerClosed || Endpoint.brokerPort? url ≠ some Endpoint.usualBrokerPort then
      .error (.connect (Cause.ofText "connection refused"))
    else .ok ()
  openHealth s := Process.change fun w =>
    let config := Health.Config.forRange s.shared.rangeSize
    w.putTracker s.kind.name (.start s.kind.name config w.wall)
  resolveCursor s := (syncUnitFor s none).resolve

/-- Starts a service, and its loops once it goes on. -/
def startService (l : Listeners) (s : Settings) : StateM Bench (Except Cause Unit) := do
  modify fun bench => { bench with world := bench.world.configure s }
  match ← Bench.run ((surroundings l).start s).run with
  | none => return .error (Cause.ofText "the service never starts")
  | some (.error cause) => return .error cause
  | some (.ok cursor) =>
    modify fun bench => s.kind.duties.foldl (fun bench duty =>
      bench.spawn (.start duty.name true (routineOf s cursor bench.world.timer duty))) bench
    return .ok ()

/-- Tells a tracker several things. -/
def tellAll (tracker : String) (told : List Health.Event) (w : World) : World :=
  w.updateTracker tracker fun t => told.foldl (fun t event => t.record w.wall event) t

/-- The watch over the tasks of the services, which tells their tracker of those that have ended. -/
def watchTasks (tracker : String) (watch : Supervision) (bench : Bench) : Supervision × Bench :=
  let see (seen : Supervision × World) (e : String × Option TaskEnd) : Supervision × World :=
    match e with
    | (name, some how) =>
      if seen.1.running.contains name then
        let (watch, told) := seen.1.step (.ended name how)
        (watch, tellAll tracker told seen.2)
      else seen
    | (_, none) => seen
  let (watch, world) := bench.ends.foldl see (watch, bench.world)
  (watch, { bench with world := world })

end ComputeExchange.Lab
