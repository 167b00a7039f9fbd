import ComputeExchange.Lab.Scenario.Basic
import ComputeExchange.Query.Client

/-!
# Steps on the bus

Subscriptions by name, messages, requests, and queries as clients ask them.
-/

namespace ComputeExchange.Lab.Scenario

/-- A message as JSON. -/
def messageJson (m : Message) : Json :=
  .record [("subject", .text m.subject), ("reply", Json.orNull .text m.reply),
    ("payload", payloadJson m.payload)]

/-- The query that a client asks. -/
def askAs {m : Type → Type} [Monad m] (c : QueryClient m) (j : Json) :
    m (Except QueryError Json) := do
  let double (query : Except String Json) : m (Except QueryError Json) := do
    let answer ← c.request Served.double.subject query Json.asInt64
    return answer.map .ofInt64
  match j.textAt "call" with
  | "jobs" =>
    let answer ← c.jobs (filterAt JobFilter.ofJson? j)
    return answer.map JobsResponse.toJson
  | "nodes" =>
    let answer ← c.nodes (filterAt NodeFilter.ofJson? j)
    return answer.map NodesResponse.toJson
  | "reputation" =>
    let query := ReputationRequest.toJson ⟨j.textAt "provider"⟩
    let answer ← c.request Subject.reputationQuery (.ok query) ReputationReply.ofJson?
    return answer.map ReputationReply.toJson
  | "unencodable" => double (.error "cannot encode")
  | _ => double (.ok (j.at_ "value"))

/-- Replaces the subscription held under a name. -/
def subscribeAs (name subject : String) (bench : Bench) : Bench :=
  let bus :=
    match bench.inboxes.lookup name with
    | some id => bench.world.bus.unsubscribe id
    | none => bench.world.bus
  let (id, bus) := bus.subscribe subject
  { bench with
    world := { bench.world with bus := bus }
    inboxes := (name, id) :: bench.inboxes.filter (·.1 != name) }

/-- Steps on the bus. -/
def busStep (name : String) (j : Json) : Option Step :=
  match name with
  | "subscribe" => some (Step.change (subscribeAs (j.textAt "name") (j.textAt "subject")))
  | "unsubscribe" => some do
    let held := j.textAt "name"
    match (← get).inboxes.lookup held with
    | none => return .value (.bool false)
    | some id =>
      modify fun bench => { bench with
        world := { bench.world with bus := bench.world.bus.unsubscribe id }
        inboxes := bench.inboxes.filter (·.1 != held) }
      return .value (.bool true)
  | "drain" => some do
    match (← get).inboxes.lookup (j.textAt "name") with
    | none => return .value (.array [])
    | some id =>
      let (messages, bus) := (← get).world.bus.drain id
      modify fun bench => { bench with world := { bench.world with bus := bus } }
      return .value (.array (messages.map messageJson))
  | "publish" =>
    some (Step.settled (Step.attempt writeNull (Proc.publish (j.textAt "subject") (payloadOf j))))
  | "publish_json" =>
    let value : Except Cause Json :=
      if j.has "update" then .ok (j.at_ "update") else .error (Cause.ofText "cannot encode")
    some (Step.settled (Step.attempt writeNull (Proc.bus.publishJson (j.textAt "subject") value)))
  | "set_publish_failure" => some (Step.changeWorld fun w =>
      { w with bus := { w.bus with isRefusing := j.flag "value" } })
  | "published" => some (Step.view fun bench =>
      let messages :=
        match j.text? "subject" with
        | some subject => bench.world.bus.publishedTo subject
        | none => bench.world.bus.published
      .array (messages.map messageJson))
  | "responder" => some (Step.change fun bench =>
      let (id, bus) := bench.world.bus.subscribe (j.textAt "subject")
      let reply := (j.text? "reply").map Payload.ofText
      ({ bench with world := { bench.world with bus := bus } } : Bench).spawn
        (.start "responder" false (.echo id reply (millisAt j "delay_ms" 0))))
  | "request" => some (Step.settled (Step.attempt payloadJson
      (Proc.request (j.textAt "subject") (payloadOf j) (millisAt j "timeout_ms" 200))))
  | "client" =>
    let client : QueryClient Proc := ⟨Proc.bus, millisAt j "timeout_ms" 10000⟩
    some (Step.settled (Step.attempt id (askAs client j)))
  | _ => none

end ComputeExchange.Lab.Scenario
