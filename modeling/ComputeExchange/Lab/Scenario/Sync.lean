import ComputeExchange.Lab.Scenario.Basic

/-!
# Steps of tasks and synchronizers

Loops that are started, watched and stopped, and synchronizers that are called by hand, on the plain
chain or on the chains of the marketplace.
-/

namespace ComputeExchange.Lab.Scenario

/-- What is served under a name, with the subscription it starts with. -/
def servedAs (which : String) : Option (Served × Inbox) :=
  match which with
  | "jobs" => some (.jobs, .toOpen)
  | "redispatch" => some (.redispatch, .toOpen)
  | "nodes" => some (.nodes, .toOpen)
  | "reputation" => some (.reputation, .toOpen)
  | "status" => some (.status, .toOpen)
  | "double" => some (.double, .toOpen)
  | "unencodable" => some (.unencodable, .toOpen)
  | "saboteur" => some (.saboteur, .toOpen)
  | "closed" => some (.double, .closed)
  | "status_closed" => some (.status, .closed)
  | _ => none

/-- How a task has ended, as JSON. -/
def endJson : Option TaskEnd → Json
  | none => .text "running"
  | some e =>
    match e.cause? with
    | none => .text "ok"
    | some cause => .record [("error", .text cause.inline)]

/-- Steps of tasks. -/
def taskStep (name : String) (j : Json) : Option Step :=
  match name with
  | "serve" =>
    let which := j.textAt "which"
    match servedAs which with
    | none => none
    | some (served, inbox) =>
      some (Step.change fun bench => bench.spawn (.start which true (.serve served inbox)))
  | "trigger" => some (Step.change Bench.trigger)
  | "wait_for_signal" => some (return .value (.bool true))
  | "spawn_run" => some do
    let unit := j.textOr "name" "s"
    match (← get).syncs.lookup unit with
    | none => return .unknown
    | some u => Step.change fun bench => bench.spawn (.start unit true (.synchronize u))
  | "spawn_sweeper" => some (Step.change fun bench =>
      let every := j.natOr "every_secs" 60 * nanosPerSecond
      let health := j.textOr "health" "h"
      bench.spawn (.start (j.textOr "name" "s") true (.sweep every bench.world.timer health)))
  | "finished" => some (Step.view fun bench =>
      .array (bench.ends.map fun (task, e) => .array [.text task, .bool e.isSome]))
  | "shutdown" => some do
    modify Bench.shutdown
    let ends := (← get).ends
    modify fun bench => { bench with
      tasks := bench.tasks.filter (!·.isService)
      world := { bench.world with isStopping := false } }
    return .value (.array (ends.map fun (task, e) =>
      .record [("task", .text task), ("end", endJson e)]))
  | _ => none

/-! ### Synchronizers -/

/-- The synchronizer that a step sets up. -/
def syncUnitOf (j : Json) : SyncUnit where
  config := ⟨j.textOr "service" "svc", j.natOr "poll_secs" 10 * nanosPerSecond,
    j.wordOr "range" 100, j.word? "start_block"⟩
  source :=
    match j.textAt "source" with
    | "jobs" => .jobs
    | "nodes" => .nodes
    | "confirmations" => .confirmations
    | _ => .plain ((j.texts "kinds").filterMap PlainKind.ofLabel?)
  health := j.text? "health"
  cursor := none

/-- Whether a synchronizer follows the plain chain. -/
def isPlain (u : SyncUnit) : Bool :=
  match u.source with
  | .plain _ => true
  | _ => false

/-- What a pass has done, as JSON. -/
def outcomeJson : Sync.Outcome → Json
  | .upToDate => .text "up_to_date"
  | .advanced first last events failed =>
    .record [("from", .ofUInt64 first), ("to", .ofUInt64 last), ("events", .nat events),
      ("failed", .nat failed)]

/-- Does something with a synchronizer, and tells its cursor too. -/
def withSync {α : Type} (name : String) (write : α → Json)
    (action : SyncUnit → Proc (Except SyncError α × Option UInt64)) : Step := do
  match (← get).syncs.lookup name with
  | none => return .unknown
  | some u =>
    match ← Bench.run (action u) with
    | none => return ⟨.stuck, []⟩
    | some (result, cursor) =>
      modify fun bench => { bench with syncs := (name, { u with cursor := cursor }) :: bench.syncs }
      let reply := Reply.ofExcept write result
      let reply := if isPlain u then reply else reply.shallow
      return reply.with_ "cursor" (Json.orNull .ofUInt64 cursor)

/-- Steps of synchronizers. -/
def syncStep (name : String) (j : Json) : Option Step :=
  let unit := j.textOr "name" "s"
  match name with
  | "sync_new" =>
    some (Step.change fun bench => { bench with syncs := (unit, syncUnitOf j) :: bench.syncs })
  | "initialize" => some (withSync unit .ofUInt64 SyncUnit.start)
  | "poll" => some (withSync unit outcomeJson SyncUnit.poll)
  | "cursor" => some (Step.view fun bench =>
      Json.orNull .ofUInt64 ((bench.syncs.lookup unit).bind (·.cursor)))
  | "handler" => some (Step.view fun bench => .array (bench.world.plain.seen.map .nat))
  | _ => none

/-! ### The plain chain -/

/-- Steps that set up the plain chain. -/
def plainStep (name : String) (j : Json) : Option Step :=
  let change (f : PlainChain → PlainChain) : Option Step :=
    some (Step.changeWorld fun w => { w with plain := f w.plain })
  let withKind (f : PlainKind → PlainChain → PlainChain) : Option Step :=
    (PlainKind.ofLabel? (j.textAt "kind")).bind fun kind => change (f kind)
  match name with
  | "script_head" => change fun c => { c with head := j.wordOr "head" 0 }
  | "script_head_fails" => change fun c => { c with isHeadFailing := j.flag "value" }
  | "script_event" => withKind fun kind c =>
      { c with events := c.events ++ [⟨kind, j.wordOr "block" 0, j.natOr "id" 0⟩] }
  | "script_fail" => withKind fun kind c =>
      let place := (kind, j.wordOr "block" 0)
      { c with
        failing := if j.flag "value" then place :: c.failing else c.failing.filter (· != place) }
  | "script_reject" =>
    change fun c => { c with skipped := j.nats "skip", retried := j.nats "retry" }
  | "script_state" => some (Step.view fun bench =>
      let fetch : PlainKind × UInt64 × UInt64 → Json
        | (kind, first, last) => .array [.text kind.label, .ofUInt64 first, .ofUInt64 last]
      .record [("fetches", .array (bench.world.plain.fetches.map fetch)),
        ("seen", .array (bench.world.plain.seen.map .nat))])
  | _ => none

end ComputeExchange.Lab.Scenario
