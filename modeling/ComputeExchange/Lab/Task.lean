import ComputeExchange.Dispatch.Service
import ComputeExchange.Lab.World
import ComputeExchange.Service.Supervision

/-!
# Tasks

The loops of the services as routines: what a loop does in one turn, after which it either goes on
as another routine or ends.
-/

namespace ComputeExchange.Lab

/-- Where a synchronizer reads events. -/
inductive SyncSource where
  | plain (kinds : List PlainKind)
  | jobs
  | nodes
  | confirmations

/-- A synchronizer with its cursor. -/
structure SyncUnit where
  config : Sync.Config
  source : SyncSource
  /-- The tracker it tells. -/
  health : Option String
  cursor : Option UInt64

namespace SyncUnit

/-- Does something with the synchronizer. -/
def withSynchronizer {α : Type} (u : SyncUnit) (w : World)
    (f : {κ ε : Type} → Synchronizer Proc κ ε → α) : α :=
  match u.source with
  | .plain kinds =>
    f ⟨Proc.plainSource, Proc.plainHandler, Proc.cursorStore, kinds, u.config, Proc.backoff,
      Proc.tell u.health⟩
  | .jobs =>
    f ⟨(Proc.logClient w.paymentSite).escrows, Proc.dispatcher.handle, Proc.cursorStore, [()],
      u.config, Proc.backoff, Proc.tell u.health⟩
  | .nodes =>
    f ⟨(Proc.logClient w.reputationSite).registry, (Proc.registry w).handle, Proc.cursorStore,
      RegistryKind.all, u.config, Proc.backoff, Proc.tell u.health⟩
  | .confirmations =>
    f ⟨(Proc.logClient w.paymentSite).confirmations, (Proc.settler w).handle,
      Proc.cursorStore, [()], u.config, Proc.backoff, Proc.tell u.health⟩

/-- Resolves the starting cursor. -/
def resolve (u : SyncUnit) : Proc (Except SyncError UInt64) :=
  Proc.using_ fun w => u.withSynchronizer w Synchronizer.resolve

/-- Resolves the starting cursor and keeps it. -/
def start (u : SyncUnit) : Proc (Except SyncError UInt64 × Option UInt64) :=
  Proc.using_ fun w => u.withSynchronizer w fun s => s.start u.cursor

/-- Makes one pass. -/
def poll (u : SyncUnit) : Proc (Except SyncError Sync.Outcome × Option UInt64) :=
  Proc.using_ fun w => u.withSynchronizer w fun s => s.poll u.cursor

/-- Makes one turn of the loop. -/
def turn (u : SyncUnit) : Proc (Except SyncError (Option UInt64)) :=
  Proc.using_ fun w => u.withSynchronizer w fun s => s.turn u.cursor

end SyncUnit

/-- What is served on the bus. -/
inductive Served where
  | jobs
  | redispatch
  | nodes
  | reputation
  | status
  /-- Doubles numbers, and fails for negative ones. -/
  | double
  /-- Answers null, but for zero what cannot be encoded. -/
  | unencodable
  /-- Answers null, and makes the bus refuse or take messages before. -/
  | saboteur

namespace Served

/-- The subject it listens to. -/
def subject : Served → String
  | jobs => Subject.jobsQuery
  | redispatch => Subject.redispatch
  | nodes => Subject.nodesQuery
  | reputation => Subject.reputationQuery
  | status => Subject.status
  | double => "math.double"
  | unencodable => "math.odd"
  | saboteur => "math.odd"

/-- Doubles a number. -/
def doubler {m : Type → Type} [Monad m] : QueryHandler m Int64 where
  decode := Json.asInt64
  answer n := return if n < 0 then .error (Cause.ofText "negative") else .ok (.ofInt64 (n * 2))

/-- Answers null for all but zero. -/
def oddity : QueryHandler Proc Int64 where
  decode := Json.asInt64
  answer n := return if n = 0 then .error (Cause.ofText "cannot encode") else .ok .null

/-- Answers null and spoils the bus for zero. -/
def sabotage : QueryHandler Proc Int64 where
  decode := Json.asInt64
  answer n := do
    Process.change fun w => { w with bus := { w.bus with isRefusing := n == 0 } }
    return .ok .null

/-- Deals with what the subscription yields. -/
def step (s : Served) (arrival : Arrival) : Proc Bool :=
  match s with
  | jobs => Proc.dispatcher.jobsQuery.step Proc.bus arrival
  | redispatch => Proc.dispatcher.redispatchQuery.step Proc.bus arrival
  | nodes => Proc.using_ fun w => (Proc.registry w).nodesQuery.step Proc.bus arrival
  | reputation => Proc.using_ fun w => (Proc.settler w).reputationQuery.step Proc.bus arrival
  | status => Proc.dispatcher.feedStep arrival
  | double => doubler.step Proc.bus arrival
  | unencodable => oddity.step Proc.bus arrival
  | saboteur => sabotage.step Proc.bus arrival

end Served

/-- A subscription as a loop sees it. -/
inductive Inbox where
  | toOpen
  | isOpen (id : Nat)
  | closed

/-- A loop between two turns. -/
inductive Routine where
  | serve (what : Served) (inbox : Inbox)
  | synchronize (unit : SyncUnit)
  /-- The interval between sweeps, and the time of the next one. -/
  | sweep (every next : Nat) (health : String)
  /-- Answers every message of a subscription after a while, with a given payload or its own. -/
  | echo (inbox : Nat) (reply : Option Payload) (delay : Nat)

namespace Routine

/-- How far behind its time a tick may be before the next one is counted from when it came. -/
def tickSlack : Nat := 5000000

/-- Waits for what a subscription yields. -/
def arrival : Inbox → Proc Arrival
  | .toOpen => return .closed
  | .closed => return .closed
  | .isOpen id => do
    Process.await none fun w => w.isStopping || Proc.hasMessage id w
    if ← Process.look World.isStopping then return .shutdown
    match ← Proc.onBus fun bus => bus.take id with
    | some message => return .message message
    | none => return .closed

/-- One turn of a loop. -/
def turn : Routine → Proc (Routine ⊕ TaskEnd)
  | .serve what .toOpen => do
    if ← Process.look (·.link.isLost) then
      let lost : BusError := .subscribe what.subject (Cause.ofText "connection lost")
      return .inr (.failed (Explained.cause lost))
    let id ← Proc.onBus fun bus => bus.subscribe what.subject
    return .inl (.serve what (.isOpen id))
  | .serve what inbox => do
    let arrived ← arrival inbox
    if ← what.step arrived then return .inl (.serve what inbox)
    else
      if let .isOpen id := inbox then Proc.onBus fun bus => ((), bus.unsubscribe id)
      return .inr .returned
  | .synchronize unit => do
    if unit.config.rangeSize = 0 then
      return .inr (.failed (Explained.cause SyncError.zeroRange))
    if ← Process.look World.isStopping then return .inr .returned
    match ← unit.turn with
    | .error e => return .inr (.panicked e.message)
    | .ok cursor =>
      let now ← Process.look World.timer
      Process.await (some (now + unit.config.pollInterval)) World.isStopping
      return .inl (.synchronize { unit with cursor := cursor })
  | .sweep every next health => do
    if every = 0 then return .inr (.failed Registry.zeroInterval)
    Process.await (some next) World.isStopping
    if ← Process.look World.isStopping then return .inr .returned
    let now ← Process.look World.timer
    Proc.using_ fun w => (Proc.registry w).sweepNow (Proc.tell (some health))
    let base := if next + tickSlack < now then now else next
    return .inl (.sweep every (base + every) health)
  | .echo inbox reply delay => do
    Process.await none (Proc.hasMessage inbox)
    match ← Proc.onBus fun bus => bus.take inbox with
    | none => return .inr .returned
    | some message =>
      if 0 < delay then Proc.pause delay
      if let some subject := message.reply then
        let _ ← Proc.publish subject (reply.getD message.payload)
      return .inl (.echo inbox reply delay)

end Routine

/-- A task: a loop under way. -/
structure Task where
  name : String
  /-- Whether it belongs to the services, and not to what is around them. -/
  isService : Bool
  state : Proc (Routine ⊕ TaskEnd)

namespace Task

/-- A task that starts with a routine. -/
def start (name : String) (isService : Bool) (routine : Routine) : Task :=
  ⟨name, isService, routine.turn⟩

/-- How a task has ended, if it has. -/
def end? (t : Task) : Option TaskEnd :=
  match t.state.result? with
  | some (.inr e) => some e
  | _ => none

/-- Runs a task until it waits or ends.  The last part of the answer tells whether it has gone on at
all; `fuel` bounds the turns. -/
def run : (fuel : Nat) → Task → World → Task × World × Bool
  | 0, t, w => (t, w, false)
  | fuel + 1, t, w =>
    match t.state.advance World.timer w with
    | (.done (.inl routine), w, _) =>
      let (t, w, _) := run fuel { t with state := routine.turn } w
      (t, w, true)
    | (state, w, moved) => ({ t with state := state }, w, moved)

end Task

end ComputeExchange.Lab
