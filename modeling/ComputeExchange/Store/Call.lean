import ComputeExchange.Listing.Filter
import ComputeExchange.Store.Error

/-!
# What a store is asked

A store holds jobs, providers and, for each service, the last block it has dealt with.  `StoreCall`
is everything it can be asked, `StoreCall.Answer` what it answers to each.  Code that needs a store
takes a `Store m`, which performs calls in `m`.
-/

namespace ComputeExchange

/-- A request to a store. -/
inductive StoreCall where
  | insertJob (job : NewJob) (now : Timestamp)
  | getJob (id : String)
  | transitionJob (id : String) (source : JobStatus) (change : StatusChange)
  | listJobs (filter : JobFilter)
  | upsertProvider (registration : Registration) (now : Timestamp)
  | touchProvider (wallet : String) (now : Timestamp)
  | markOfflineBefore (cutoff : Timestamp)
  | getProvider (wallet : String)
  | listActiveProviders (filter : NodeFilter)
  | recordSettlement (wallet : String) (count : Int64) (now : Timestamp)
  | loadCursor (service : String)
  | saveCursor (service : String) (block : UInt64)

namespace StoreCall

/-- What a request is answered with. -/
abbrev Answer : StoreCall → Type
  | insertJob .. => Job
  | getJob _ => Option Job
  | transitionJob .. => Option Job
  | listJobs _ => List Job
  | upsertProvider .. => Provider
  | touchProvider .. => Bool
  | markOfflineBefore _ => Nat
  | getProvider _ => Option Provider
  | listActiveProviders _ => List Provider
  | recordSettlement .. => Bool
  | loadCursor _ => Option UInt64
  | saveCursor .. => Unit

/-- The kinds of request. -/
inductive Kind where
  | insertJob
  | getJob
  | transitionJob
  | listJobs
  | upsertProvider
  | touchProvider
  | markOfflineBefore
  | getProvider
  | listActiveProviders
  | recordSettlement
  | loadCursor
  | saveCursor
  deriving DecidableEq, Repr

/-- The kind of a request. -/
def kind : StoreCall → Kind
  | .insertJob .. => .insertJob
  | .getJob _ => .getJob
  | .transitionJob .. => .transitionJob
  | .listJobs _ => .listJobs
  | .upsertProvider .. => .upsertProvider
  | .touchProvider .. => .touchProvider
  | .markOfflineBefore _ => .markOfflineBefore
  | .getProvider _ => .getProvider
  | .listActiveProviders _ => .listActiveProviders
  | .recordSettlement .. => .recordSettlement
  | .loadCursor _ => .loadCursor
  | .saveCursor .. => .saveCursor

/-- The key of the record a request is about, empty if it is about many. -/
def key : StoreCall → String
  | .insertJob job _ => job.id
  | .getJob id => id
  | .transitionJob id .. => id
  | .upsertProvider registration _ => registration.wallet
  | .touchProvider wallet _ => wallet
  | .getProvider wallet => wallet
  | .recordSettlement wallet .. => wallet
  | .loadCursor service => service
  | .saveCursor service _ => service
  | _ => ""

/-- The answer that tells of nothing found or changed, for requests that have one. -/
def nothing? : (c : StoreCall) → Option c.Answer
  | .getJob _ => some none
  | .transitionJob .. => some none
  | .touchProvider .. => some false
  | .getProvider _ => some none
  | .recordSettlement .. => some false
  | .loadCursor _ => some none
  | _ => none

/-- The name of a kind of request. -/
def Kind.name : Kind → String
  | .insertJob => "insert_job"
  | .getJob => "get_job"
  | .transitionJob => "transition_job"
  | .listJobs => "list_jobs"
  | .upsertProvider => "upsert_provider"
  | .touchProvider => "touch_provider"
  | .markOfflineBefore => "mark_offline_before"
  | .getProvider => "get_provider"
  | .listActiveProviders => "list_active_providers"
  | .recordSettlement => "record_settlement"
  | .loadCursor => "load_cursor"
  | .saveCursor => "save_cursor"

end StoreCall

/-- A store whose calls are performed in `m`. -/
structure Store (m : Type → Type) where
  perform : (c : StoreCall) → m (Except StoreError c.Answer)

end ComputeExchange
