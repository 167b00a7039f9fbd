import ComputeExchange.Bus.Memory
import ComputeExchange.Dispatch.Engine
import ComputeExchange.Lab.Chain
import ComputeExchange.Lab.Database
import ComputeExchange.Lab.FaultyStore
import ComputeExchange.Lab.Ledger
import ComputeExchange.Lab.Process
import ComputeExchange.Registry.Engine
import ComputeExchange.Settlement.Engine

/-!
# The world of the services

Everything outside the services, in memory: the clocks, the store, the bus, the chains and the
ledgers.  Here stand the collaborators that the services are given in it.
-/

namespace ComputeExchange.Lab

/-- The two chains. -/
inductive ChainName where
  | payment
  | reputation
  deriving DecidableEq

/-- How the services reach a chain. -/
structure ChainSite where
  /-- Their contract on it. -/
  contract : Address
  /-- The chain whose node they reach, if they reach one. -/
  node : Option ChainName
  deriving Inhabited

/-- What the connection to the bus allows. -/
structure Link where
  /-- The greatest payload that can be published. -/
  maxPayload : Option Nat
  isLost : Bool
  deriving Inhabited

/-- Why a connection does not let a message through, if it does not. -/
def Link.refusal (l : Link) (payload : Payload) : Option Cause :=
  if l.isLost then some (Cause.ofText "connection lost")
  else if l.maxPayload.any (· < payload.bytes.size) then some (Cause.ofText "payload too large")
  else none

/-- The outside of the services. -/
structure World where
  /-- The wall clock. -/
  wall : Timestamp
  /-- The clock of timers, in nanoseconds. -/
  timer : Nat
  store : FaultyStore
  /-- The store of cursors, if it is another one. -/
  cursors : Option FaultyStore
  /-- The server that holds the store and the cursors in its place, if there is one. -/
  database : Option ScriptedDatabase
  bus : MemoryBus
  link : Link
  /-- Whether the services have been told to stop. -/
  isStopping : Bool
  plain : PlainChain
  ledger : ScriptedLedger
  payment : ScriptedNode
  reputation : ScriptedNode
  trackers : List (String × Health.Tracker)
  /-- Whether somebody holds the lock of submissions. -/
  isLocked : Bool
  paymentSite : ChainSite
  reputationSite : ChainSite
  /-- How long a provider may be silent, in nanoseconds. -/
  threshold : Nat
  /-- Whether the provider of a job is read from the payment chain. -/
  readsChain : Bool
  /-- Whether providers are credited on the reputation chain. -/
  creditsChain : Bool
  deriving Inhabited

namespace World

/-- A world in which nothing has happened, with one contract on both chains. -/
def start (wall : Timestamp) (contract : Address) (threshold : Nat) : World where
  wall := wall
  timer := 0
  store := .empty
  cursors := none
  database := none
  bus := .empty
  link := ⟨none, false⟩
  isStopping := false
  plain := .empty
  ledger := .empty
  payment := .empty
  reputation := .empty
  trackers := []
  isLocked := false
  paymentSite := ⟨contract, some .payment⟩
  reputationSite := ⟨contract, some .reputation⟩
  threshold := threshold
  readsChain := false
  creditsChain := false

/-- How the services reach a chain. -/
def site (w : World) : ChainName → ChainSite
  | .payment => w.paymentSite
  | .reputation => w.reputationSite

/-- Changes a tracker. -/
def updateTracker (w : World) (name : String) (f : Health.Tracker → Health.Tracker) : World :=
  { w with trackers := w.trackers.map fun (n, t) => if n = name then (n, f t) else (n, t) }

/-- Sets a tracker. -/
def putTracker (w : World) (name : String) (t : Health.Tracker) : World :=
  { w with trackers := (name, t) :: w.trackers.filter (·.1 != name) }

/-- Changes the store of cursors. -/
def updateCursors (w : World) (f : FaultyStore → FaultyStore) : World :=
  match w.cursors with
  | some c => { w with cursors := some (f c) }
  | none => { w with store := f w.store }

end World

/-- What happens in the world. -/
abbrev Proc := Process World

namespace Proc

/-! ### Clocks -/

/-- Reads the wall clock. -/
def clock : Proc Timestamp := Process.look (·.wall)

/-- Waits some nanoseconds. -/
def pause (span : Nat) : Proc Unit := do
  let now ← Process.look World.timer
  Process.await (some (now + span)) fun _ => false

/-- Waits between tries, half of the longest time. -/
def backoff (most : Nat) : Proc Unit := pause (most / 2)

/-! ### Stores -/

/-- Performs an action on the server that holds the store. -/
def onDatabase {α : Type} (action : ScriptedDatabase → α × ScriptedDatabase) : Proc α :=
  Process.perform fun w =>
    let (answer, database) := action (w.database.getD (.start []))
    (answer, { w with database := some database })

/-- The server that holds the store. -/
def database : Sql.Database Proc := ⟨fun s => onDatabase fun d => d.execute s⟩

/-- The store in memory. -/
def memoryStore : Store Proc where
  perform c := Process.perform fun w =>
    let (answer, store) := w.store.perform c
    (answer, { w with store := store })

/-- The store. -/
def mainStore : Store Proc where
  perform c := do
    if ← Process.look (·.database.isSome) then database.store.perform c else memoryStore.perform c

/-- The store of cursors. -/
def cursorStore : Store Proc where
  perform c := do
    match ← Process.look World.cursors with
    | some cursors => Process.perform fun w =>
      let (answer, cursors) := cursors.perform c
      (answer, { w with cursors := some cursors })
    | none => mainStore.perform c

/-! ### The bus -/

/-- Performs an action on the bus. -/
def onBus {α : Type} (action : MemoryBus → α × MemoryBus) : Proc α :=
  Process.perform fun w =>
    let (answer, bus) := action w.bus
    (answer, { w with bus := bus })

/-- Whether a message waits in a subscription. -/
def hasMessage (id : Nat) (w : World) : Bool :=
  w.bus.subscriptions.any fun s => s.id == id && !s.waiting.isEmpty

/-- The bus as a connection that lets everything through reaches it. -/
def busAccess : BusAccess Proc where
  perform c := onBus fun bus => bus.perform c
  await id wait := do
    let now ← Process.look World.timer
    Process.await (some (now + wait)) (hasMessage id)

/-- Publishes a message. -/
def publish (subject : String) (payload : Payload) : Proc (Except BusError Unit) := do
  match ← Process.look fun w => w.link.refusal payload with
  | some cause => return .error (.publish subject cause)
  | none => busAccess.publish subject payload

/-- Sends a request and waits for the reply, which may come at the latest when the time is over.
How great the request is does not matter. -/
def request (subject : String) (payload : Payload) (wait : Nat) :
    Proc (Except BusError Payload) := do
  if ← Process.look (·.link.isLost) then
    return .error (.request subject (Cause.ofText "connection lost"))
  busAccess.request subject payload wait

/-- The bus. -/
def bus : Bus Proc := ⟨publish, request⟩

/-! ### Chains -/

/-- Performs an action on a node. -/
def onNode {α : Type} (chain : ChainName) (action : ScriptedNode → α × ScriptedNode) : Proc α :=
  Process.perform fun w =>
    match chain with
    | .payment =>
      let (answer, node) := action w.payment
      (answer, { w with payment := node })
    | .reputation =>
      let (answer, node) := action w.reputation
      (answer, { w with reputation := node })

/-- The node of a chain. -/
def nodeOf (chain : ChainName) : Node Proc where
  head := onNode chain fun n => n.askHead
  logs address topic first last := onNode chain fun n => n.askLogs address topic first last
  call to_ data := onNode chain fun n => n.askCall to_ data
  send to_ data := onNode chain fun n => n.send to_ data

/-- What is found where there is no node. -/
def noNode : Node Proc :=
  let lost : Cause := Cause.ofText "connection refused"
  ⟨return .error lost, fun _ _ _ _ => return .error lost, fun _ _ => return .error lost,
    fun _ _ => return .error lost⟩

/-- The node that the services reach for a chain. -/
def node (site : ChainSite) : Node Proc := (site.node.map nodeOf).getD noNode

/-- The log of the contract on a chain. -/
def logClient (site : ChainSite) : LogClient Proc := ⟨node site, site.contract, backoff⟩

/-- The plain chain as a source. -/
def plainSource : Source Proc PlainKind PlainEvent where
  label := PlainKind.label
  head := Process.perform fun w =>
    let (answer, plain) := w.plain.askHead
    (answer, { w with plain := plain })
  fetch kind first last := Process.perform fun w =>
    let (answer, plain) := w.plain.fetch kind first last
    (answer, { w with plain := plain })

/-- The recorder of the plain chain. -/
def plainHandler : Handler Proc PlainEvent := fun e => Process.perform fun w =>
  let (answer, plain) := w.plain.handle e
  (answer, { w with plain := plain })

/-! ### Ledgers -/

/-- Performs an action on the ledgers. -/
def onLedger {α : Type} (action : ScriptedLedger → α × ScriptedLedger) : Proc α :=
  Process.perform fun w =>
    let (answer, ledger) := action w.ledger
    (answer, { w with ledger := ledger })

/-- How long a submission takes, in nanoseconds. -/
def submissionTime : Nat := 500000000

/-- The payment side. -/
def jobLedger (w : World) : JobLedger Proc :=
  if w.readsChain then JobLedger.onChain (logClient w.paymentSite)
  else ⟨fun job => onLedger fun l => (l.provider job, l)⟩

/-- The reputation side on its chain. -/
def chainLedger (w : World) : ReputationLedger Proc :=
  ReputationLedger.onChain w.reputationSite.contract (node w.reputationSite)

/-- The reputation side by a script. -/
def scriptedReputation : ReputationLedger Proc where
  increment provider := do
    let (number, outcome) ← onLedger fun l => l.beginIncrement provider
    pause submissionTime
    onLedger fun l => l.endIncrement provider number outcome
  jobsCompleted provider := onLedger fun l => (l.readCount provider, l)

/-- The reputation side. -/
def reputationLedger (w : World) : ReputationLedger Proc :=
  if w.creditsChain then chainLedger w else scriptedReputation

/-- The lock of submissions. -/
def lock : Lock Proc where
  acquire := do
    Process.await none fun w => !w.isLocked
    Process.change fun w => { w with isLocked := true }
  release := Process.change fun w => { w with isLocked := false }

/-! ### Health -/

/-- Tells something to a tracker. -/
def tell (tracker : Option String) (event : Health.Event) : Proc Unit :=
  match tracker with
  | none => return
  | some name =>
    Process.change fun w => w.updateTracker name fun t => t.record w.wall event

/-! ### The services -/

/-- Dispatch in the world. -/
def dispatcher : Dispatcher Proc := ⟨mainStore, bus, clock⟩

/-- The registry in a world. -/
def registry (w : World) : Registry Proc := ⟨mainStore, clock, w.threshold⟩

/-- Settlement in a world. -/
def settler (w : World) : Settler Proc := ⟨jobLedger w, reputationLedger w, mainStore, clock, lock⟩

/-- Does something that depends on the world as it is set up. -/
def using_ {α : Type} (f : World → Proc α) : Proc α := do
  let w ← Process.look id
  f w

end Proc

end ComputeExchange.Lab
