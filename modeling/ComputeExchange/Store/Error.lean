import ComputeExchange.Cause

/-!
# Failures of a store

Whether a failure is worth another try: a store that cannot be reached may come back, a record that
is refused stays refused.
-/

namespace ComputeExchange

/-- What a database reports. -/
inductive DatabaseError where
  | rowNotFound
  | columnMissing (name : String)
  | columnUnreadable (name : String)
  | server (code message : String)
  | poolTimedOut
  | poolClosed
  | workerCrashed
  | protocol (text : String)
  | connection (text : String)
  | encryption (text : String)
  deriving DecidableEq, Repr

namespace DatabaseError

/-- The text of a database error. -/
def message : DatabaseError → String
  | rowNotFound => "no rows returned by a query that expected to return at least one row"
  | columnMissing name => s!"no column found for name: {name}"
  | columnUnreadable name => s!"error occurred while decoding column \"{name}\""
  | server _ text => s!"error returned from database: {text}"
  | poolTimedOut => "pool timed out while waiting for an open connection"
  | poolClosed => "attempted to acquire a connection on a closed pool"
  | workerCrashed => "attempted to communicate with a crashed background worker"
  | protocol text => s!"encountered unexpected or invalid data: {text}"
  | connection text => s!"error communicating with database: {text}"
  | encryption text => s!"error occurred while attempting to establish a TLS connection: {text}"

/-- The texts beneath a database error. -/
def causes : DatabaseError → List String
  | connection text => [text]
  | encryption text => [text]
  | _ => []

/-- Whether the database could not be talked to, as opposed to refusing what was asked. -/
def isTransient : DatabaseError → Bool
  | poolTimedOut => true
  | poolClosed => true
  | workerCrashed => true
  | protocol _ => true
  | connection _ => true
  | encryption _ => true
  | _ => false

end DatabaseError

/-- Why a store did not do what it was asked. -/
inductive StoreError where
  | duplicate (key : String)
  | notFound (key : String)
  | invalid (text : String)
  | unavailable
  | database (e : DatabaseError)
  deriving DecidableEq, Repr

namespace StoreError

/-- The failure of reading a status that is none. -/
def unknownStatus (s : String) : StoreError := invalid s!"unknown job status '{s}'"

/-- The text of a store error; that of a database is its own. -/
def message : StoreError → String
  | duplicate key => s!"record {key} already exists"
  | notFound key => s!"record {key} not found"
  | invalid text => s!"invalid stored value: {text}"
  | unavailable => "store is not accepting requests"
  | database e => e.message

/-- The texts beneath a store error. -/
def causes : StoreError → List String
  | database e => e.causes
  | _ => []

/-- Whether another try may succeed. -/
def isTransient : StoreError → Bool
  | unavailable => true
  | database e => e.isTransient
  | _ => false

/-- The failures of a store that was out of reach. -/
inductive IsOutage : StoreError → Prop where
  | unavailable : IsOutage unavailable
  | poolTimedOut : IsOutage (database .poolTimedOut)
  | poolClosed : IsOutage (database .poolClosed)
  | workerCrashed : IsOutage (database .workerCrashed)
  | protocol (text : String) : IsOutage (database (.protocol text))
  | connection (text : String) : IsOutage (database (.connection text))
  | encryption (text : String) : IsOutage (database (.encryption text))

/-- Another try may succeed exactly if the store was out of reach. -/
theorem isTransient_iff {e : StoreError} : e.isTransient = true ↔ e.IsOutage := by
  constructor
  · intro h
    cases e with
    | unavailable => exact .unavailable
    | database e =>
      cases e with
      | poolTimedOut => exact .poolTimedOut
      | poolClosed => exact .poolClosed
      | workerCrashed => exact .workerCrashed
      | protocol text => exact .protocol text
      | connection text => exact .connection text
      | encryption text => exact .encryption text
      | rowNotFound | columnMissing | columnUnreadable | server => cases h
    | duplicate | notFound | invalid => cases h
  · intro h
    cases h <;> rfl

/-- The name of the kind of a failure. -/
def kind : StoreError → String
  | duplicate _ => "Duplicate"
  | notFound _ => "NotFound"
  | invalid _ => "Invalid"
  | unavailable => "Unavailable"
  | database _ => "Database"

instance : Classified StoreError where
  message := message
  causes := causes
  family := "StoreError"
  kind := kind

end StoreError

end ComputeExchange
