import ComputeExchange.Json.Record

/-!
# The life of a job

A job is created, assigned to its provider, run, and ends completed, failed or cancelled.
`JobStatus.canMoveTo` is the graph of the moves; from an end no move leads on.
-/

namespace ComputeExchange

/-- Where a job stands. -/
inductive JobStatus where
  | created
  | assigned
  | running
  | completed
  | failed
  | cancelled
  deriving DecidableEq, Repr, Inhabited

namespace JobStatus

/-- All statuses. -/
def all : List JobStatus := [created, assigned, running, completed, failed, cancelled]

/-- The word for a status, in messages and in stored rows. -/
def label : JobStatus → String
  | created => "created"
  | assigned => "assigned"
  | running => "running"
  | completed => "completed"
  | failed => "failed"
  | cancelled => "cancelled"

/-- The status with this word. -/
def ofLabel? (s : String) : Option JobStatus := all.find? fun status => status.label == s

/-- Whether a job may go from one status to the other. -/
def canMoveTo : JobStatus → JobStatus → Bool
  | created, assigned => true
  | created, cancelled => true
  | assigned, running => true
  | assigned, cancelled => true
  | running, completed => true
  | running, failed => true
  | _, _ => false

/-- Whether no move leads on. -/
def isTerminal : JobStatus → Bool
  | completed => true
  | failed => true
  | cancelled => true
  | _ => false

/-- A status as a JSON string. -/
def toJson (s : JobStatus) : Json := .text s.label

/-- The status a JSON value stands for: its word, or an object with the word as its one name and
null beside it. -/
def ofJson? : Json → Option JobStatus
  | .string s => s.bind ofLabel?
  | .object [(name, .null)] => name.bind ofLabel?
  | _ => none

@[simp] theorem ofLabel?_label (s : JobStatus) : ofLabel? s.label = some s := by
  cases s <;> decide

@[simp] theorem ofJson?_toJson (s : JobStatus) : ofJson? s.toJson = some s := by
  simp [ofJson?, toJson, Json.text]

theorem canMoveTo_eq_false_of_isTerminal {s t : JobStatus} (h : s.isTerminal = true) :
    s.canMoveTo t = false := by
  cases s <;> first | rfl | cases h

end JobStatus

end ComputeExchange
