import ComputeExchange.Bus.Message
import ComputeExchange.Bus.Subject
import ComputeExchange.Chain.Event
import ComputeExchange.Dispatch.Error
import ComputeExchange.Job.Wire
import ComputeExchange.Store.Call
import ComputeExchange.Sync.Synchronizer

/-!
# Dispatching jobs

A job that has been put into escrow is recorded, and its assignment is published to its provider;
only then it counts as assigned.  Every later move is asked for by a worker and goes along the graph
of `JobStatus.canMoveTo`.
-/

namespace ComputeExchange

/-- Everything that dispatch needs. -/
structure Dispatcher (m : Type → Type) where
  store : Store m
  bus : Bus m
  /-- The wall clock. -/
  clock : m Timestamp

namespace Dispatcher

variable {m : Type → Type} [Monad m]

/-- Records a job in escrow. -/
def recordJob (d : Dispatcher m) (new : NewJob) : ExceptT DispatchError m Job := do
  let now ← d.clock
  match ← d.store.perform (.insertJob new now) with
  | .ok job => return job
  | .error e => throw (.ofStore e)

/-- Moves a job, unless it has left the status it was read in. -/
def move (d : Dispatcher m) (job : Job) (change : StatusChange) : ExceptT DispatchError m Job := do
  match ← d.store.perform (.transitionJob job.id job.status change) with
  | .ok (some moved) => return moved
  | .ok none => throw (.conflict job.id)
  | .error e => throw (.ofStore e)

/-- Publishes the assignment of a fresh job to its provider, then moves the job to assigned.  If it
cannot be published the job stays as it is. -/
def deliver (d : Dispatcher m) (job : Job) : ExceptT DispatchError m Job := do
  if job.status ≠ .created then throw (.illegalMove job.id job.status .assigned)
  match ← d.bus.publishJson (Subject.dispatch job.provider) (.ok job.assignment.toJson) with
  | .error e => throw (.publish job.id e)
  | .ok () =>
    let now ← d.clock
    d.move job (.assigned now)

/-- Reads a job. -/
def getJob (d : Dispatcher m) (id : String) : ExceptT DispatchError m Job := do
  match ← d.store.perform (.getJob id) with
  | .ok (some job) => return job
  | .ok none => throw (.notFound id)
  | .error e => throw (.ofStore e)

/-- Records a job in escrow and delivers it. -/
def jobEscrowed (d : Dispatcher m) (new : NewJob) : ExceptT DispatchError m Job := do
  d.deliver (← d.recordJob new)

/-- Delivers a job that still waits for it. -/
def redispatch (d : Dispatcher m) (id : String) : ExceptT DispatchError m Job := do
  d.deliver (← d.getJob id)

/-- Applies the report of a worker. -/
def applyUpdate (d : Dispatcher m) (update : JobStatusUpdate) : ExceptT DispatchError m Job := do
  let job ← d.getJob update.jobId
  if !job.status.canMoveTo update.status then
    throw (.illegalMove job.id job.status update.status)
  let now ← d.clock
  d.move job (update.change now)

/-- Lists jobs. -/
def listJobs (d : Dispatcher m) (filter : JobFilter) : ExceptT DispatchError m JobsResponse := do
  match ← d.store.perform (.listJobs filter) with
  | .ok jobs => return .ofRows jobs
  | .error e => throw (.ofStore e)

/-- Handles an escrow on the chain.  Only a store out of reach before the job is recorded asks for
another try: once it is recorded, a second try would find a duplicate, and a job that could not be
delivered waits for `redispatch`. -/
def handle (d : Dispatcher m) : Handler m JobEscrowed := fun event => do
  match ← (d.recordJob event.job).run with
  | .error (.store e) => return .error (.ofStore e)
  | .error e => return .error (.skip (Explained.cause e))
  | .ok job =>
    match ← (d.deliver job).run with
    | .ok _ => return .ok ()
    | .error e => return .error (.skip (Explained.cause e))

end Dispatcher

end ComputeExchange
