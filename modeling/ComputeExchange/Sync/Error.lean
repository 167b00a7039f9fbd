import ComputeExchange.Cause
import ComputeExchange.Store.Error

/-!
# Failures of synchronization

Why a pass over a chain was broken off, and why a handler gave up on an event.
-/

namespace ComputeExchange

/-- Why a handler gave up on an event. -/
inductive HandleError where
  /-- A collaborator is out of reach: the window is to be handled again. -/
  | retry (cause : Cause)
  /-- The event can never be applied: it is to be left out. -/
  | skip (cause : Cause)
  deriving DecidableEq

namespace HandleError

/-- The failure of a store: another try if that may help, else the event is left out. -/
def ofStore (e : StoreError) : HandleError :=
  if e.isTransient then .retry (Explained.cause e) else .skip (Explained.cause e)

/-- The text of a handler's failure, with all that lies beneath it. -/
def message : HandleError → String
  | retry cause => s!"retry window: {cause.inline}"
  | skip cause => s!"skip event: {cause.inline}"

/-- The name of the kind of a failure. -/
def kind : HandleError → String
  | retry _ => "Retry"
  | skip _ => "Skip"

instance : Classified HandleError where
  message := message
  causes := fun _ => []
  family := "HandleError"
  kind := kind

end HandleError

/-- Why a pass was broken off. -/
inductive SyncError where
  | head (cause : Cause)
  | fetch (kind : String) (first last : UInt64) (cause : Cause)
  | handler (first last : UInt64) (cause : Cause)
  | cursor (cause : Cause)
  | zeroRange
  /-- The last window ended with the last block that a word can number, so no block comes after. -/
  | exhausted
  deriving DecidableEq

namespace SyncError

/-- The text of a failure. -/
def message : SyncError → String
  | head _ => "failed to read the latest block height"
  | fetch kind first last _ => s!"failed to fetch {kind} events in blocks [{first}, {last}]"
  | handler first last _ => s!"event handling in blocks [{first}, {last}] needs a retry"
  | cursor _ => "failed to resolve the starting cursor"
  | zeroRange => "range size must not be zero"
  | exhausted => "panicked: attempt to add with overflow"

/-- The texts beneath a failure. -/
def causes : SyncError → List String
  | head c => c.message :: c.below
  | fetch _ _ _ c => c.message :: c.below
  | handler _ _ c => c.message :: c.below
  | cursor c => c.message :: c.below
  | zeroRange => []
  | exhausted => []

/-- The name of the kind of a failure. -/
def kind : SyncError → String
  | head _ => "Head"
  | fetch .. => "Fetch"
  | handler .. => "Handler"
  | cursor _ => "Cursor"
  | zeroRange => "ZeroRange"
  | exhausted => "Exhausted"

instance : Classified SyncError where
  message := message
  causes := causes
  family := "SyncError"
  kind := kind

end SyncError

end ComputeExchange
