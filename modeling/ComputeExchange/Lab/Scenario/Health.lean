import ComputeExchange.Lab.Scenario.Basic
import ComputeExchange.Lab.Supervise

/-!
# Steps of health

Trackers by name, their reports, the endpoint, and supervision by a timetable.
-/

namespace ComputeExchange.Lab.Scenario

/-- A rate, as a number in a JSON text gives it. -/
def rateOf (j : Json) (fallback : Health.Rate) : Health.Rate :=
  match j with
  | .number (.whole i) => ⟨i, 1⟩
  | .number (.decimal negative significand exponent) =>
    let numerator : Int := if negative then -significand else significand
    if 0 ≤ exponent then ⟨numerator * Nat.pow 10 exponent.toNat, 1⟩
    else ⟨numerator, Nat.pow 10 (-exponent).toNat⟩
  | _ => fallback

/-- The limits for a range of blocks, with those that are given in their place. -/
def healthConfigOf (j : Json) (range : UInt64) : Health.Config :=
  let base := Health.Config.forRange range
  let span (name : String) (fallback : Nat) : Nat :=
    if j.has name then millisAt j name 0 else fallback
  { startupGrace := span "startup_grace_ms" base.startupGrace
    unhealthyStale := span "unhealthy_stale_ms" base.unhealthyStale
    degradedStale := span "degraded_stale_ms" base.degradedStale
    unhealthyConsecutiveErrors :=
      j.natOr "unhealthy_consecutive_errors" base.unhealthyConsecutiveErrors
    degradedConsecutiveErrors :=
      j.natOr "degraded_consecutive_errors" base.degradedConsecutiveErrors
    unhealthyErrorRate := rateOf (j.at_ "unhealthy_error_rate") base.unhealthyErrorRate
    degradedErrorRate := rateOf (j.at_ "degraded_error_rate") base.degradedErrorRate
    unhealthyLag := ((j.at_ "unhealthy_lag").asInt64).getD base.unhealthyLag
    degradedLag := ((j.at_ "degraded_lag").asInt64).getD base.degradedLag }

/-- The tracker that a step sets up. -/
def trackerOf (j : Json) (now : Timestamp) : Health.Tracker :=
  .start (j.textOr "service" "svc") (healthConfigOf (j.at_ "config") (j.wordOr "range" 5)) now

/-- The tracker of a name. -/
def trackerNamed (name : String) (w : World) : Health.Tracker :=
  (w.trackers.lookup name).getD (trackerOf .null w.wall)

/-- Tells a tracker something so many times, and answers its report. -/
def tell (j : Json) (events : List Health.Event) : Step := do
  let name := j.textOr "name" "h"
  let events := (List.replicate (j.natOr "times" 1) events).flatten
  modify fun bench =>
    let wall := bench.world.wall
    { bench with world := bench.world.updateTracker name fun t =>
        events.foldl (fun t e => t.record wall e) t }
  let w := (← get).world
  return .value ((trackerNamed name w).report w.wall).toJson

/-- Asks the endpoint of a tracker. -/
def ask (j : Json) (t : Health.Tracker) (now : Timestamp) : Reply :=
  let r := Health.respond t now (j.textOr "method" "GET") (j.textOr "path" "/health")
  .value (.record [("status", .nat r.status), ("body", payloadJson (.ofText r.body))])

/-- A task of a timetable. -/
def timedTaskOf (j : Json) : TimedTask :=
  let text := j.textOr "msg" "boom"
  let how : TaskEnd :=
    match j.textAt "how" with
    | "err" =>
      match j.text? "cause" with
      | some cause => .failed ((Cause.ofText cause).within text)
      | none => .failed (.ofText text)
    | "panic_string" => .panicked (some text)
    | "panic_str" => .panicked (some "static panic text")
    | "panic_other" => .panicked none
    | _ => .returned
  ⟨j.textAt "name", how, j.nat? "at"⟩

/-- Supervises by a timetable. -/
def supervise (j : Json) : Step := do
  let w := (← get).world
  let (seen, watch) := superviseTimetable w.wall (trackerNamed "h" w)
    ((j.list "tasks").map timedTaskOf) (j.natOr "signal_at" 0) (j.nats "report_at")
  modify fun bench => { bench with world := bench.world.putTracker "h" watch.tracker }
  let sighting (s : Sighting) : Json :=
    .record [("at", .nat s.second), ("report", s.report.toJson), ("stopping", .bool s.isStopping),
      ("done", .bool s.isOver)]
  return .value (.record [("reports", .array (seen.map sighting)),
    ("final", (watch.tracker.report w.wall).toJson), ("stopping", .bool watch.state.isStopping)])

/-- Steps of health. -/
def healthStep (name : String) (j : Json) : Option Step :=
  match name with
  | "health_new" => some do
    modify fun bench => { bench with
      world := bench.world.putTracker (j.textOr "name" "h") (trackerOf j bench.world.wall) }
    tell j []
  | "progress" => some (tell j [.progress (j.word? "block")])
  | "error" => some (tell j [.error (j.textAt "msg")])
  | "task_failure" => some (tell j [.taskFailure (j.textAt "task") (j.textAt "msg")])
  | "head" => some (tell j [.head (j.wordOr "block" 0)])
  | "report" => some (tell j [])
  | "http" => some (Step.inWorld fun w =>
      return ask j (trackerNamed (j.textOr "name" "h") w) w.wall)
  | "health_port_taken" => some (return .refused "bind" (Health.bindFailure "PORT"))
  | "http_options" => some (Step.inWorld fun w =>
      let t := trackerOf j w.wall
      let t :=
        match j.word? "block" with
        | some block =>
          (t.record w.wall (.progress (some block))).record w.wall (.head (j.wordOr "head" block))
        | none => t
      return ask j t w.wall)
  | "http_restart" => some (Step.inWorld fun w =>
      if millisAt j "after_ms" 5000 < Health.restartDelay then
        return .refused "connect" (Cause.ofText "nobody listens")
      else return ask j (trackerNamed (j.textOr "name" "h") w) w.wall)
  | "supervise" => some (supervise j)
  | _ => none

end ComputeExchange.Lab.Scenario
