import ComputeExchange.Service.Supervision

/-!
# A timetable for supervision

Tasks that end at given seconds, or when they are told to stop, under the watch of `Supervision`.
-/

namespace ComputeExchange.Lab

/-- A task of the timetable. -/
structure TimedTask where
  name : String
  how : TaskEnd
  /-- The second of its end; without one it ends when it is told to stop. -/
  second : Option Nat

/-- What is seen at one second. -/
structure Sighting where
  second : Nat
  report : Health.Report
  isStopping : Bool
  isOver : Bool

/-- The watch with the tracker it tells. -/
structure Watch where
  state : Supervision
  tracker : Health.Tracker

namespace Watch

/-- Takes note of an event. -/
def see (now : Timestamp) (w : Watch) (e : SupervisionEvent) : Watch :=
  let (state, told) := w.state.step e
  ⟨state, told.foldl (fun t event => t.record now event) w.tracker⟩

/-- The events of a second: tasks that end, then the signal with the tasks that it ends. -/
def events (tasks : List TimedTask) (signal second : Nat) : List SupervisionEvent :=
  (tasks.filter (·.second == some second)).map (fun t => .ended t.name t.how) ++
    if second = signal then
      .signal :: (tasks.filter (·.second.isNone)).map fun t => .ended t.name t.how
    else []

/-- The watch from a second on, for so many seconds, with what is seen. -/
def run (now : Timestamp) (tasks : List TimedTask) (signal : Nat) (reports : List Nat) :
    (count second : Nat) → Watch → List Sighting × Watch
  | 0, _, w => ([], w)
  | count + 1, second, w =>
    let w := (events tasks signal second).foldl (see now) w
    let seen : List Sighting :=
      if reports.contains second then
        [⟨second, w.tracker.report now, w.state.isStopping, w.state.isOver⟩]
      else []
    let (rest, w) := run now tasks signal reports count (second + 1) w
    (seen ++ rest, w)

end Watch

/-- The whole timetable: what is seen, and the watch at the end. -/
def superviseTimetable (now : Timestamp) (tracker : Health.Tracker) (tasks : List TimedTask)
    (signal : Nat) (reports : List Nat) : List Sighting × Watch :=
  let last := (signal :: reports ++ tasks.filterMap (·.second)).foldl max 0
  Watch.run now tasks signal reports (last + 1) 0 ⟨.start (tasks.map (·.name)), tracker⟩

end ComputeExchange.Lab
