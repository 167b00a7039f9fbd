import ComputeExchange.Chain.Address

/-!
# Failures of settlement
-/

namespace ComputeExchange

/-- Why a confirmation was not settled. -/
inductive SettlementError where
  | resolve (job : String) (cause : Cause)
  | unknownJob (job : String)
  | submit (job : String) (provider : Address) (cause : Cause)
  | reverted (job transaction : String)
  deriving DecidableEq

namespace SettlementError

/-- The text of a failure. -/
def message : SettlementError → String
  | resolve job _ => s!"failed to resolve provider of job {job}"
  | unknownJob job => s!"job {job} is unknown to the payment contract"
  | submit job provider _ => s!"failed to increment jobs of {provider.checksummed} for job {job}"
  | reverted job transaction => s!"incrementJobs for job {job} reverted in tx {transaction}"

/-- The texts beneath a failure. -/
def causes : SettlementError → List String
  | resolve _ c => c.message :: c.below
  | submit _ _ c => c.message :: c.below
  | _ => []

/-- The name of the kind of a failure. -/
def kind : SettlementError → String
  | resolve .. => "Resolve"
  | unknownJob _ => "UnknownJob"
  | submit .. => "Submit"
  | reverted .. => "Reverted"

instance : Classified SettlementError where
  message := message
  causes := causes
  family := "SettlementError"
  kind := kind

end SettlementError

end ComputeExchange
