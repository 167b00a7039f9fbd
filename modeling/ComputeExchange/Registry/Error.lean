import ComputeExchange.Store.Error

/-!
# Failures of the registry
-/

namespace ComputeExchange

/-- Why the registry did not do something; it is always the store's fault. -/
inductive LivenessError where
  | register (wallet : String) (e : StoreError)
  | heartbeat (wallet : String) (e : StoreError)
  | sweep (e : StoreError)
  | store (e : StoreError)
  deriving DecidableEq

namespace LivenessError

/-- The failure of the store beneath. -/
def storeError : LivenessError → StoreError
  | register _ e => e
  | heartbeat _ e => e
  | sweep e => e
  | store e => e

/-- The text of a failure; that of a store alone is its own. -/
def message : LivenessError → String
  | register wallet _ => s!"failed to register provider {wallet}"
  | heartbeat wallet _ => s!"failed to record heartbeat of provider {wallet}"
  | sweep _ => "offline sweep failed"
  | store e => e.message

/-- The texts beneath a failure. -/
def causes : LivenessError → List String
  | store e => e.causes
  | e => e.storeError.message :: e.storeError.causes

/-- The name of the kind of a failure. -/
def kind : LivenessError → String
  | register .. => "Register"
  | heartbeat .. => "Heartbeat"
  | sweep _ => "Sweep"
  | store _ => "Store"

instance : Classified LivenessError where
  message := message
  causes := causes
  family := "LivenessError"
  kind := kind

end LivenessError

end ComputeExchange
