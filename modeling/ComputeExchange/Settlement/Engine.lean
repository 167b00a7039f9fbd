import ComputeExchange.Query.Responder
import ComputeExchange.Settlement.Error
import ComputeExchange.Settlement.Ledger
import ComputeExchange.Store.Call

/-!
# Settling confirmed jobs

For each confirmation on the payment chain the provider of the job is credited on the reputation
chain.  The submissions share a signing key, so one at a time goes out, under a lock; a confirmation
is never submitted twice, whatever comes of it.  The count on the chain is then copied into the row
of the provider, and failures of that change nothing else.
-/

namespace ComputeExchange

/-- A lock that one may hold at a time. -/
structure Lock (m : Type → Type) where
  /-- Waits until nobody holds the lock, and takes it. -/
  acquire : m Unit
  release : m Unit

/-- A confirmation that has been credited. -/
structure Settlement where
  job : String
  provider : Address
  receipt : SettlementReceipt
  deriving DecidableEq

/-- Everything that settlement needs. -/
structure Settler (m : Type → Type) where
  jobs : JobLedger m
  reputation : ReputationLedger m
  store : Store m
  /-- The wall clock. -/
  clock : m Timestamp
  lock : Lock m

namespace Settler

variable {m : Type → Type} [Monad m]

/-- Writes a count of the chain into the row of a provider. -/
def copy (s : Settler m) (provider : Address) (count : UInt64) : m Unit := do
  let now ← s.clock
  let _ ← s.store.perform
    (.recordSettlement provider.checksummed (Clamp.signedOfWord count) now)

/-- Copies the count of the chain into the row of a provider: the one that was reported, or else the
one that can be read. -/
def reflect (s : Settler m) (provider : Address) (reported : Option UInt64) : m Unit := do
  match reported with
  | some count => s.copy provider count
  | none =>
    match ← s.reputation.jobsCompleted provider with
    | .ok count => s.copy provider count
    | .error _ => return

/-- Credits the provider of a job, alone. -/
def submit (s : Settler m) (provider : Address) : m (Except Cause SettlementReceipt) := do
  s.lock.acquire
  let receipt ← s.reputation.increment provider
  s.lock.release
  return receipt

/-- Settles the confirmation of a job. -/
def settle (s : Settler m) (job : Word) : m (Except SettlementError Settlement) := do
  match ← s.jobs.provider job with
  | .error cause => return .error (.resolve job.hex cause)
  | .ok provider =>
    if provider = Bytes.zero 20 then return .error (.unknownJob job.hex)
    else
      match ← s.submit provider with
      | .error cause => return .error (.submit job.hex provider cause)
      | .ok receipt =>
        if receipt.isSuccess then
          s.reflect provider receipt.newCount
          return .ok ⟨job.hex, provider, receipt⟩
        else return .error (.reverted job.hex receipt.transaction)

/-- Handles a confirmation on the chain.  It never asks for another try, which would credit once
more the confirmations before this one. -/
def handle (s : Settler m) : Handler m JobConfirmation := fun event => do
  match ← s.settle event.jobId with
  | .ok _ => return .ok ()
  | .error e => return .error (.skip (Explained.cause e))

end Settler

/-! ### On the bus -/

/-- A question for the standing of a provider. -/
structure ReputationRequest where
  provider : String
  deriving DecidableEq

namespace ReputationRequest

/-- A question as JSON. -/
def toJson (r : ReputationRequest) : Json := .record [("provider_address", .text r.provider)]

/-- The question a JSON value stands for. -/
def ofJson? (j : Json) : Option ReputationRequest := do
  let fs ← j.fields? ["provider_address"]
  return ⟨← fs.required "provider_address" Json.asText⟩

end ReputationRequest

/-- The standing of a provider. -/
structure ReputationReply where
  provider : String
  score : UInt64
  jobsCompleted : UInt64
  deriving DecidableEq

namespace ReputationReply

/-- A standing as JSON. -/
def toJson (r : ReputationReply) : Json :=
  .record [("provider_address", .text r.provider), ("reputation_score", .ofUInt64 r.score),
    ("jobs_completed", .ofUInt64 r.jobsCompleted)]

/-- The standing a JSON value stands for. -/
def ofJson? (j : Json) : Option ReputationReply := do
  let fs ← j.fields? ["provider_address", "reputation_score", "jobs_completed"]
  return {
    provider := ← fs.required "provider_address" Json.asText
    score := ← fs.required "reputation_score" Json.asUInt64
    jobsCompleted := ← fs.required "jobs_completed" Json.asUInt64 }

end ReputationReply

/-- Answers questions for the standing of a provider from the reputation chain. -/
def Settler.reputationQuery {m : Type → Type} [Monad m] (s : Settler m) :
    QueryHandler m ReputationRequest where
  decode := ReputationRequest.ofJson?
  answer request := do
    match Address.parse request.provider "provider address" with
    | .error cause => return .error cause
    | .ok provider =>
      match ← s.reputation.jobsCompleted provider with
      | .error cause => return .error cause
      | .ok count => return .ok (ReputationReply.toJson ⟨provider.checksummed, count, count⟩)

end ComputeExchange
