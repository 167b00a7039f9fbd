import ComputeExchange.Cause

/-!
# Failures of queries

What a caller learns when a query fails: that it could not be asked, or no more than that it failed.
-/

namespace ComputeExchange

/-- Why a query failed. -/
inductive QueryError where
  | invalid (text : String)
  | failed
  deriving DecidableEq

namespace QueryError

/-- The text of a failure. -/
def message : QueryError → String
  | invalid text => s!"invalid query: {text}"
  | failed => "internal error"

/-- The name of the kind of a failure. -/
def kind : QueryError → String
  | invalid _ => "Invalid"
  | failed => "Internal"

instance : Classified QueryError where
  message := message
  causes := fun _ => []
  family := "QueryError"
  kind := kind

end QueryError

end ComputeExchange
