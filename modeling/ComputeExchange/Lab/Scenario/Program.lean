import ComputeExchange.Json.Sorted
import ComputeExchange.Lab.Scenario.Broker
import ComputeExchange.Lab.Scenario.Chain
import ComputeExchange.Lab.Scenario.Health
import ComputeExchange.Lab.Service

/-!
# Scenarios of a program

A whole service from its command line to its end, with a database, a broker and nodes around it.
The steps watch it from outside and send it messages and the signal to stop.
-/

namespace ComputeExchange.Lab.Scenario

/-- A service under way. -/
structure Running where
  bench : Bench
  watch : Supervision
  /-- The settings, if the service has started. -/
  settings : Option Settings

/-- What a program has come to. -/
structure ProgramEnd where
  exitCode : Nat
  message : Option String
  steps : List Reply
  /-- The parameters of every statement, by the name of its call. -/
  statements : Json
  messages : Json
  transactions : Json

namespace Running

/-- Carries out a step of the laboratory. -/
def inLab (step : Step) : StateM Running Reply := fun r =>
  let (reply, bench) := step r.bench
  (reply, { r with bench := bench })

/-- How long something is waited for, in nanoseconds. -/
def waitingTime : Nat := 5 * nanosPerSecond

/-- Waits for something, and tells whether it has come about in time. -/
def awaited (isSo : World → Bool) : StateM Running Reply :=
  inLab (Step.run (fun b => .value (.bool b)) do
    let now ← Process.look World.timer
    Process.await (some (now + waitingTime)) isSo
    Process.look isSo)

/-- The subjects that are subscribed to, inboxes apart. -/
def subscribed (w : World) : List String :=
  (w.bus.held.map (·.pattern)).filter fun p => tellSubject p ≠ "_INBOX"

/-- Whether two lists have the same members. -/
def sameMembers (a b : List String) : Bool := a.all b.contains && b.all a.contains

/-- Whether the service is there: it has started, and not all of its tasks have ended. -/
def isThere (r : Running) : Bool := r.settings.isSome && !r.watch.isOver

/-- Takes note of the tasks that have ended. -/
def observe (r : Running) : Running :=
  match r.settings with
  | none => r
  | some s =>
    let (watch, bench) := watchTasks s.kind.name r.watch r.bench
    { r with watch := watch, bench := bench }

/-- Asks the health endpoint on a port. -/
def askHealth (port : Nat) (r : Running) : Reply :=
  match r.settings with
  | some s =>
    if r.isThere && s.shared.healthPort = port then
      let w := r.bench.world
      let answer := Health.respond (trackerNamed s.kind.name w) w.wall "GET" "/health"
      .value (.record [("status", .nat answer.status), ("service", .text s.kind.name)])
    else .refused "connect" (Cause.ofText "nobody listens")
  | none => .refused "connect" (Cause.ofText "nobody listens")

/-- Sends the signal to stop. -/
def signal (r : Running) : Running :=
  let r := r.observe
  { r with watch := (r.watch.step .signal).1, bench := r.bench.trigger.settle }.observe

/-- A step of a program. -/
def step (j : Json) : StateM Running Reply := do
  match j.textAt "do" with
  | "subscribed" =>
    let subjects := j.texts "subjects"
    awaited fun w => sameMembers (subscribed w) subjects
  | "statements" =>
    awaited fun w => j.natOr "count" 1 ≤ (w.database.getD default).count (j.textAt "name")
  | "messages" =>
    awaited fun w => j.natOr "count" 1 ≤ (w.bus.publishedTo (j.textAt "subject")).length
  | "transactions" =>
    awaited fun w =>
      j.natOr "count" 1 ≤ w.payment.accepted.length + w.reputation.accepted.length
  | "health" =>
    modify observe
    return askHealth (j.natOr "port" 8080) (← get)
  | "signal" =>
    modify signal
    return .value (.bool true)
  | _ => inLab (brokerStep j)

end Running

/-- The parameters of statements, by the name of the call. -/
def statementGroups (statements : List Sql.Statement) : Json :=
  let names := (statements.map fun s => s.kind.name).eraseDups
  .record (names.map fun name =>
    (name, .array ((statements.filter fun s => s.kind.name == name).map paramsJson)))

/-- The world around a program. -/
def programWorld (j : Json) (now : Timestamp) : World :=
  let contract := addressAt j "contract"
  let base : World := { World.start (timeAt j "now" now) contract 0 with
    database := some (.start (repliesOf (j.at_ "replies")))
    bus := brokerBus
    link := ⟨none, moodOf j = .dead⟩
    readsChain := true
    creditsChain := true }
  (j.list "chains").foldl (fun w step =>
    match nodeSetup (step.textAt "do") step contract contract with
    | some change => change w
    | none => w) base

/-- The environment of a program. -/
def environmentOf (j : Json) : List (String × String) :=
  (j.at_ "env").pairs.filterMap fun (name, value) => value.asText.map (name, ·)

/-- What is told of a program at its end. -/
def programEnd (exitCode : Nat) (message : Option String) (steps : List Reply) (r : Running) :
    ProgramEnd where
  exitCode := exitCode
  message := message
  steps := steps
  statements := statementGroups (r.bench.world.database.getD default).statements
  messages := .array (Json.sortByText (r.bench.world.bus.published.map publishedJson))
  transactions := transactionsJson r.bench.world.reputation

/-- Runs a service with its command line and its environment, in the surroundings of a scenario. -/
def runService (kind : ServiceKind) (args : List String) (env : List (String × String)) (j : Json)
    (now : Timestamp) : ProgramEnd :=
  let bench := Bench.start (programWorld j now)
  let finish (exitCode : Nat) (message : Option String) (r : Running) : ProgramEnd :=
    let (steps, r) := runSteps Running.step (j.list "steps") r
    let bench := if r.watch.isStopping then Bench.awaitEnds Bench.patience r.bench else r.bench
    programEnd exitCode message steps { r with bench := bench }
  let fail (fault : StartFault) (bench : Bench) : ProgramEnd :=
    finish fault.exitCode fault.message? ⟨bench, .start [], none⟩
  match Settings.read kind args env with
  | .error fault => fail fault bench
  | .ok settings =>
    match startService ⟨j.has "refuse", moodOf j = .closed⟩ settings bench with
    | (.error cause, bench) => fail (.failure cause) bench
    | (.ok (), bench) => finish 0 none ⟨bench, .start (kind.duties.map Duty.name), some settings⟩

/-- Runs the program that a scenario names. -/
def runProgram (j : Json) (now : Timestamp) : Option ProgramEnd :=
  (ServiceKind.ofName? (j.textAt "program")).map fun kind =>
    runService kind (j.texts "argv") (environmentOf j) j now

end ComputeExchange.Lab.Scenario
