import ComputeExchange.Chain.Event
import ComputeExchange.Health.Tracker
import ComputeExchange.Listing.Filter
import ComputeExchange.Query.Responder
import ComputeExchange.Registry.Error
import ComputeExchange.Store.Call
import ComputeExchange.Sync.Synchronizer

/-!
# The registry of providers

Registrations and heartbeats mark a provider as online.  The sweep is the only way back: it marks
those offline that have not been seen for longer than a threshold.
-/

namespace ComputeExchange

/-- Everything that the registry needs. -/
structure Registry (m : Type → Type) where
  store : Store m
  /-- The wall clock. -/
  clock : m Timestamp
  /-- How long a provider may be silent, in nanoseconds. -/
  threshold : Nat

namespace Registry

/-- The greatest threshold that is told apart from any greater one, in nanoseconds: 2⁶³ − 1
milliseconds, which is longer than all representable time. -/
def greatestThreshold : Nat := 0x7FFFFFFFFFFFFFFF * 1000000

/-- A threshold of whole seconds. -/
def thresholdOfSeconds (seconds : UInt64) : Nat :=
  min (seconds.toNat * nanosPerSecond) greatestThreshold

/-- The time before which a provider must have been seen last to be marked offline, if it can be
represented. -/
def cutoff? (now : Timestamp) (threshold : Nat) : Option Timestamp := now.add? (-(threshold : Int))

variable {m : Type → Type} [Monad m]

/-- Records a registration. -/
def register (r : Registry m) (registration : Registration) :
    m (Except LivenessError Provider) := do
  let now ← r.clock
  match ← r.store.perform (.upsertProvider registration now) with
  | .ok provider => return .ok provider
  | .error e => return .error (.register registration.wallet e)

/-- Records a heartbeat, and tells whether the provider is known. -/
def heartbeat (r : Registry m) (wallet : String) : m (Except LivenessError Bool) := do
  let now ← r.clock
  match ← r.store.perform (.touchProvider wallet now) with
  | .ok known => return .ok known
  | .error e => return .error (.heartbeat wallet e)

/-- Marks offline those not seen for longer than the threshold, and tells how many they are. -/
def sweep (r : Registry m) (now : Timestamp) : m (Except LivenessError Nat) := do
  match cutoff? now r.threshold with
  | none => return .ok 0
  | some cutoff =>
    match ← r.store.perform (.markOfflineBefore cutoff) with
    | .ok count => return .ok count
    | .error e => return .error (.sweep e)

/-- Lists online providers. -/
def listActive (r : Registry m) (filter : NodeFilter) : m (Except LivenessError NodesResponse) := do
  match ← r.store.perform (.listActiveProviders filter) with
  | .ok nodes => return .ok (.ofRows nodes)
  | .error e => return .error (.store e)

/-- Records what the chain tells. -/
def record (r : Registry m) : RegistryEvent → m (Except LivenessError Unit)
  | .registered e => do
    let result ← r.register e.registration
    return result.map fun _ => ()
  | .heartbeat e => do
    let result ← r.heartbeat e.wallet
    return result.map fun _ => ()

/-- Handles what the chain tells.  Both kinds of event may be handled twice, so a store out of reach
asks for another try. -/
def handle (r : Registry m) : Handler m RegistryEvent := fun event => do
  match ← r.record event with
  | .ok () => return .ok ()
  | .error e => return .error (.ofStore e.storeError)

/-- Answers the listing of providers. -/
def nodesQuery (r : Registry m) : QueryHandler m NodeFilter where
  decode := NodeFilter.ofJson?
  answer filter := do
    match ← r.listActive filter with
    | .ok response => return .ok response.toJson
    | .error e => return .error (Explained.cause e)

/-- One turn of the sweeper: a sweep at the present time, with a failure told to the health report.
-/
def sweepNow (r : Registry m) (tell : Health.Event → m Unit) : m Unit := do
  let now ← r.clock
  match ← r.sweep now with
  | .ok _ => return
  | .error e => tell (.error e.message)

/-- The failure to start a sweeper that never waits. -/
def zeroInterval : Cause := Cause.ofText "Sweep interval must be positive"

end Registry

end ComputeExchange
