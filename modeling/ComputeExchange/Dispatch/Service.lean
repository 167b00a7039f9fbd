import ComputeExchange.Dispatch.Engine
import ComputeExchange.Query.Responder

/-!
# Dispatch on the bus

The listing of jobs, the request for another delivery, and the feed of the workers' reports.
-/

namespace ComputeExchange

/-- A request for another delivery. -/
structure RedispatchRequest where
  jobId : String
  deriving DecidableEq

namespace RedispatchRequest

/-- A request as JSON. -/
def toJson (r : RedispatchRequest) : Json := .record [("job_id", .text r.jobId)]

/-- The request a JSON value stands for. -/
def ofJson? (j : Json) : Option RedispatchRequest := do
  let fs ← j.fields? ["job_id"]
  return ⟨← fs.required "job_id" Json.asText⟩

end RedispatchRequest

/-- What has come of a request for another delivery: where the job stands now, or what went wrong.
-/
structure RedispatchReply where
  jobId : String
  status : Option JobStatus
  error : Option String
  deriving DecidableEq

namespace RedispatchReply

/-- A reply as JSON; what is not there is left out. -/
def toJson (r : RedispatchReply) : Json :=
  .record ([("job_id", .text r.jobId)] ++ Json.omittable "status" JobStatus.toJson r.status ++
    Json.omittable "error" .text r.error)

/-- The reply a JSON value stands for. -/
def ofJson? (j : Json) : Option RedispatchReply := do
  let fs ← j.fields? ["job_id", "status", "error"]
  return {
    jobId := ← fs.required "job_id" Json.asText
    status := ← fs.optional "status" JobStatus.ofJson? true
    error := ← fs.optional "error" Json.asText true }

end RedispatchReply

namespace Dispatcher

variable {m : Type → Type} [Monad m]

/-- Answers the listing of jobs. -/
def jobsQuery (d : Dispatcher m) : QueryHandler m JobFilter where
  decode := JobFilter.ofJson?
  answer filter := do
    match ← (d.listJobs filter).run with
    | .ok response => return .ok response.toJson
    | .error e => return .error (Explained.cause e)

/-- Answers a request for another delivery.  A rejection is an answer too. -/
def redispatchReply (d : Dispatcher m) (request : RedispatchRequest) : m RedispatchReply := do
  match ← (d.redispatch request.jobId).run with
  | .ok job => return ⟨job.id, some job.status, none⟩
  | .error e => return ⟨request.jobId, none, some e.message⟩

/-- Answers requests for another delivery. -/
def redispatchQuery (d : Dispatcher m) : QueryHandler m RedispatchRequest where
  decode := RedispatchRequest.ofJson?
  answer request := do
    let reply ← d.redispatchReply request
    return .ok reply.toJson

/-- Applies the report in a message.  What cannot be decoded or is rejected is dropped. -/
def consume (d : Dispatcher m) (message : Message) : m Unit := do
  match message.payload.json?.bind JobStatusUpdate.ofJson? with
  | none => return
  | some update =>
    let _ ← (d.applyUpdate update).run

/-- Deals with what the feed of reports yields, and tells whether to go on. -/
def feedStep (d : Dispatcher m) : Arrival → m Bool
  | .message message => do
    d.consume message
    return true
  | .closed => return false
  | .shutdown => return false

end Dispatcher

end ComputeExchange
