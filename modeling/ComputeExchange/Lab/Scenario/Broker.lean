import ComputeExchange.Lab.Scenario.Bus
import ComputeExchange.Lab.Scenario.Database
import ComputeExchange.Lab.Scenario.Sync

/-!
# Scenarios of a message broker

The bus as services reach it over a connection to a broker: there is no more to see of an inbox than
that it is one, and a failure of the bus is told without its causes.
-/

namespace ComputeExchange.Lab.Scenario

/-- The subject below which the inboxes of a client are. -/
def clientInboxes : String := "_INBOX.client"

/-- A bus at a broker. -/
def brokerBus : MemoryBus := { MemoryBus.empty with inboxRoot := clientInboxes }

/-- A subject as it is told: all inboxes are one. -/
def tellSubject (subject : String) : String :=
  if subject.startsWith "_INBOX." then "_INBOX" else subject

/-- A message as its receiver tells it. -/
def receivedJson (m : Message) : Json :=
  messageJson { m with subject := tellSubject m.subject, reply := m.reply.map tellSubject }

/-- A message as the broker tells it. -/
def publishedJson (m : Message) : Json :=
  .record [("subject", .text (tellSubject m.subject)), ("reply", .bool m.reply.isSome),
    ("payload", payloadJson m.payload)]

/-- A failure without the texts beneath it. -/
def curtly (r : Reply) : Reply :=
  match r.outcome with
  | .failure family kind cause => { r with outcome := .curt family kind (some cause.message) }
  | _ => r

/-- What a connection can be to. -/
inductive Mood where
  | normal
  /-- The broker does not let anybody in. -/
  | closed
  /-- The connection is lost for good once it is there. -/
  | dead
  deriving DecidableEq

/-- The mood of a broker. -/
def moodOf (j : Json) : Mood :=
  match j.text? "mood" with
  | some "silent" => .closed
  | some "hangup" => .closed
  | some "denied" => .closed
  | some "dead" => .dead
  | _ => .normal

/-- The query that a client asks of a broker's bus. -/
def brokerClient (j : Json) : Step :=
  let client : QueryClient Proc := ⟨Proc.bus, millisAt j "timeout_ms" 10000⟩
  Step.settled (Step.attempt id (askAs client j))

/-- Steps at a broker. -/
def brokerStep (j : Json) : Step := do
  let plain (name : String) : Step := (busStep name j).getD (return .unknown)
  let isLost := (← get).world.link.isLost
  match j.textAt "do" with
  | "subscribe" =>
    if isLost then
      let lost : BusError := .subscribe (j.textAt "subject") (Cause.ofText "connection lost")
      return curtly (Reply.ofExcept writeNull (Except.error lost : Except BusError Unit))
    else plain "subscribe"
  | "publish" => return curtly (← plain "publish")
  | "request" =>
    let wait := millisAt j "timeout_ms" 5000
    let ask := Proc.request (j.textAt "subject") (payloadOf j) wait
    return curtly (← Step.settled (Step.attempt payloadJson ask))
  | "drain" =>
    match (← get).inboxes.lookup (j.textAt "name") with
    | none => return .value (.array [])
    | some id =>
      let (messages, bus) := (← get).world.bus.drain id
      modify fun bench => { bench with world := { bench.world with bus := bus } }
      return .value (.array (messages.map receivedJson))
  | "published" => Step.view fun bench => .array (bench.world.bus.published.map publishedJson)
  | "serve" => Step.change fun bench => bench.spawn (.start "double" true (.serve .double .toOpen))
  | "client" => brokerClient j
  | name => plain name

/-- The world of a broker's bus. -/
def brokerWorld (j : Json) (now : Timestamp) : World :=
  { World.start (timeAt j "now" now) (Bytes.zero 20) 0 with
    bus := brokerBus
    link := ⟨j.nat? "max_payload", moodOf j = .dead⟩ }

/-- Carries out a scenario of a broker. -/
def runBroker (j : Json) (now : Timestamp) : ServedReply :=
  let url := urlOf j "nats://127.0.0.1:PORT"
  if moodOf j = .closed || Endpoint.brokerPort? url ≠ some freePort then
    let refused : BusError := .connect (Cause.ofText "no connection")
    .refused (curtly (Reply.ofExcept writeNull (Except.error refused : Except BusError Unit)))
  else .steps (runSteps brokerStep (j.list "steps") (.start (brokerWorld j now))).1

end ComputeExchange.Lab.Scenario
