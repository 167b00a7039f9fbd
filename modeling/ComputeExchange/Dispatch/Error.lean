import ComputeExchange.Bus.Message
import ComputeExchange.Job.Status
import ComputeExchange.Store.Error

/-!
# Failures of dispatch
-/

namespace ComputeExchange

/-- Why an operation on a job failed. -/
inductive DispatchError where
  | duplicate (id : String)
  | notFound (id : String)
  | illegalMove (id : String) (source target : JobStatus)
  /-- Somebody else has moved the job since it was read. -/
  | conflict (id : String)
  | publish (id : String) (e : BusError)
  | store (e : StoreError)
  deriving DecidableEq

namespace DispatchError

/-- The failure of a store as a failure of dispatch. -/
def ofStore : StoreError → DispatchError
  | .duplicate key => duplicate key
  | .notFound key => notFound key
  | e => store e

/-- The text of a failure; that of a store is its own. -/
def message : DispatchError → String
  | duplicate id => s!"job {id} already exists"
  | notFound id => s!"job {id} not found"
  | illegalMove id source target => s!"job {id} cannot move from {source.label} to {target.label}"
  | conflict id => s!"job {id} changed concurrently"
  | publish id _ => s!"failed to publish assignment for job {id}"
  | store e => e.message

/-- The texts beneath a failure. -/
def causes : DispatchError → List String
  | publish _ e => e.message :: e.causes
  | store e => e.causes
  | _ => []

/-- The name of the kind of a failure. -/
def kind : DispatchError → String
  | duplicate _ => "Duplicate"
  | notFound _ => "NotFound"
  | illegalMove .. => "IllegalTransition"
  | conflict _ => "Conflict"
  | publish .. => "Publish"
  | store _ => "Store"

instance : Classified DispatchError where
  message := message
  causes := causes
  family := "DispatchError"
  kind := kind

end DispatchError

end ComputeExchange
