import ComputeExchange.Cause
import ComputeExchange.Health.Config
import ComputeExchange.Health.Outcomes
import ComputeExchange.Json.Record
import ComputeExchange.Time.Timestamp

/-!
# Health of a service

The loops of a service tell what happens to them, and the report says from that how the service is.
A task that has stopped is never forgiven; else a service that lags too far behind its chain is
unhealthy; else failing passes and a lack of progress count, less so shortly after the start.
-/

namespace ComputeExchange.Health

/-- How a service is. -/
inductive Status where
  | healthy
  | degraded
  | unhealthy
  deriving DecidableEq, Repr

/-- The word for a status. -/
def Status.label : Status → String
  | .healthy => "healthy"
  | .degraded => "degraded"
  | .unhealthy => "unhealthy"

/-- Why a service is not healthy. -/
inductive Reason where
  | taskStopped
  | chainLag
  | startupInstability
  | sustainedErrors
  | stalled
  | lagging
  | intermittentErrors
  deriving DecidableEq, Repr

/-- The word for a reason. -/
def Reason.label : Reason → String
  | .taskStopped => "task_stopped"
  | .chainLag => "chain_lag"
  | .startupInstability => "startup_instability"
  | .sustainedErrors => "sustained_errors"
  | .stalled => "stalled"
  | .lagging => "lagging"
  | .intermittentErrors => "intermittent_errors"

/-- What the loops of a service tell. -/
inductive Event where
  /-- A pass ended well; the block is how far the service has got, if it follows a chain. -/
  | progress (block : Option UInt64)
  | error (text : String)
  | taskFailure (task text : String)
  | head (block : UInt64)
  deriving DecidableEq

/-- A report. -/
structure Report where
  service : String
  status : Status
  reason : Option Reason
  lastProcessedBlock : Option Int64
  chainHead : Option Int64
  lastError : Option String
  failedTasks : List String
  deriving DecidableEq

/-- A report as JSON. -/
def Report.toJson (r : Report) : Json :=
  .record ([("service", .text r.service), ("status", .text r.status.label)] ++
    Json.nullable "reason" (fun reason => .text reason.label) r.reason ++
    Json.nullable "last_processed_block" .ofInt64 r.lastProcessedBlock ++
    Json.nullable "chain_head" .ofInt64 r.chainHead ++
    Json.nullable "last_error" .text r.lastError ++
    [("failed_tasks", .array (r.failedTasks.map .text))])

/-- What has been told of a service. -/
structure Tracker where
  service : String
  config : Config
  started : Timestamp
  lastProgress : Timestamp
  lastProcessedBlock : Option Int64
  chainHead : Option Int64
  outcomes : Outcomes
  lastError : Option String
  failedTasks : List String

namespace Tracker

/-- Nothing told yet. -/
def start (service : String) (config : Config) (now : Timestamp) : Tracker where
  service := service
  config := config
  started := now
  lastProgress := now
  lastProcessedBlock := none
  chainHead := none
  outcomes := .empty
  lastError := none
  failedTasks := []

/-- The tracker after being told something. -/
def record (t : Tracker) (now : Timestamp) : Event → Tracker
  | .progress block =>
    { t with
      lastProgress := now
      lastError := none
      lastProcessedBlock := (block.map Clamp.signedOfWord).or t.lastProcessedBlock
      outcomes := t.outcomes.push true }
  | .error text => { t with lastError := some text, outcomes := t.outcomes.push false }
  | .taskFailure task text =>
    { t with lastError := some s!"{task}: {text}", failedTasks := t.failedTasks ++ [task] }
  | .head block => { t with chainHead := some (Clamp.signedOfWord block) }

/-- How many blocks the service is behind the head of its chain; zero if either is not known. -/
def lag (t : Tracker) : Int64 :=
  match t.chainHead, t.lastProcessedBlock with
  | some head, some block => Clamp.signed (head.toInt - block.toInt)
  | _, _ => 0

/-- Nanoseconds since the start; none if the clock went back. -/
def uptime (t : Tracker) (now : Timestamp) : Nat :=
  (now.sinceEpoch - t.started.sinceEpoch).toNat

/-- Whether there has been no progress for more than this many nanoseconds.  If the clock went back
there has been none for ever. -/
def isIdleFor (t : Tracker) (now : Timestamp) (limit : Nat) : Bool :=
  let idle := now.sinceEpoch - t.lastProgress.sinceEpoch
  idle < 0 || (limit : Int) < idle

/-- Whether too many passes failed, in a row or among the latest. -/
def isFailing (t : Tracker) (inRow : Nat) (rate : Rate) : Bool :=
  inRow ≤ t.outcomes.trailingFailures ||
    rate.isExceeded t.outcomes.failures t.outcomes.window.length

/-- How the service is, and why. -/
def assess (t : Tracker) (now : Timestamp) : Status × Option Reason :=
  let c := t.config
  if !t.failedTasks.isEmpty then (.unhealthy, some .taskStopped)
  else if c.unhealthyLag < t.lag then (.unhealthy, some .chainLag)
  else
    let failing := t.isFailing c.unhealthyConsecutiveErrors c.unhealthyErrorRate
    if failing || t.isIdleFor now c.unhealthyStale then
      if t.uptime now < c.startupGrace then (.degraded, some .startupInstability)
      else (.unhealthy, some (if failing then .sustainedErrors else .stalled))
    else if c.degradedLag < t.lag then (.degraded, some .lagging)
    else if t.isFailing c.degradedConsecutiveErrors c.degradedErrorRate then
      (.degraded, some .intermittentErrors)
    else if t.isIdleFor now c.degradedStale then (.degraded, some .stalled)
    else (.healthy, none)

/-- The report on the service. -/
def report (t : Tracker) (now : Timestamp) : Report :=
  let (status, reason) := t.assess now
  { service := t.service
    status := status
    reason := reason
    lastProcessedBlock := t.lastProcessedBlock
    chainHead := t.chainHead
    lastError := t.lastError
    failedTasks := t.failedTasks }

end Tracker

/-! ### The endpoint -/

/-- An answer over HTTP. -/
structure Response where
  status : Nat
  body : String
  deriving DecidableEq

/-- Answers a request: the report on `/health`, with the code 503 if the service is unhealthy.  No
body comes with the answer to `HEAD`, and no other method or path is served. -/
def respond (t : Tracker) (now : Timestamp) (method path : String) : Response :=
  let target := String.ofList (path.toList.takeWhile fun c => c ≠ '?' && c ≠ '#')
  if target ≠ "/health" then ⟨404, ""⟩
  else if method ≠ "GET" && method ≠ "HEAD" then ⟨405, ""⟩
  else
    let report := t.report now
    ⟨if report.status = .unhealthy then 503 else 200,
      if method = "HEAD" then "" else report.toJson.compact⟩

/-- How long the endpoint stays away after it could not be opened, in nanoseconds. -/
def restartDelay : Nat := 5000000000

/-- The failure to open the endpoint on a port. -/
def bindFailure (port : String) : Cause :=
  Cause.ofText s!"Failed to bind health server to port {port}"

end ComputeExchange.Health
