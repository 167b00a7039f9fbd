import ComputeExchange.Cause
import ComputeExchange.Health.Tracker

/-!
# Watching the tasks of a service

Every task of a service is to run until the service is told to stop.  One that ends before is told
to the health report, for good; the others go on.  Only a signal stops the service, and then it
waits for the tasks that are left.
-/

namespace ComputeExchange

/-- How a task has ended. -/
inductive TaskEnd where
  | returned
  | failed (cause : Cause)
  /-- It broke off in the middle; the text is missing if what it threw was none. -/
  | panicked (text : Option String)
  deriving DecidableEq

namespace TaskEnd

/-- The failure that a task has ended with, if it has. -/
def cause? : TaskEnd → Option Cause
  | returned => none
  | failed cause => some cause
  | panicked (some text) => some (Cause.ofText s!"panicked: {text}")
  | panicked none => some (Cause.ofText "panicked: unknown panic payload")

/-- Why a task that has ended too early is no longer running. -/
def reason (e : TaskEnd) : String := (e.cause?.map Cause.inline).getD "exited before shutdown"

end TaskEnd

/-- What the watch over the tasks sees. -/
inductive SupervisionEvent where
  | ended (task : String) (how : TaskEnd)
  | signal
  deriving DecidableEq

/-- The watch over the tasks of a service. -/
structure Supervision where
  /-- The tasks that have not ended. -/
  running : List String
  /-- Whether the signal has been seen, and the tasks told to stop. -/
  isStopping : Bool
  deriving DecidableEq

namespace Supervision

/-- The watch over some tasks. -/
def start (tasks : List String) : Supervision := ⟨tasks, false⟩

/-- The watch after an event, and what is to be told to the health report. -/
def step (s : Supervision) : SupervisionEvent → Supervision × List Health.Event
  | .ended task how =>
    ({ s with running := s.running.erase task },
      if s.isStopping then [] else [.taskFailure task how.reason])
  | .signal => ({ s with isStopping := true }, [])

/-- Whether the watch is over: the signal has come, and every task has ended. -/
def isOver (s : Supervision) : Bool := s.isStopping && s.running.isEmpty

end Supervision

end ComputeExchange
