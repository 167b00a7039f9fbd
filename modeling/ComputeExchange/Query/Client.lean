import ComputeExchange.Bus.Message
import ComputeExchange.Bus.Subject
import ComputeExchange.Listing.Filter
import ComputeExchange.Query.Error

/-!
# Asking over the bus

A query is sent as JSON, and its answer is decoded.  Whatever goes wrong on the way is the same to
the caller, who never gets a part of an answer.
-/

namespace ComputeExchange

/-- Asks queries over a bus. -/
structure QueryClient (m : Type → Type) where
  bus : Bus m
  /-- How long an answer may take, in nanoseconds. -/
  timeout : Nat

namespace QueryClient

variable {m : Type → Type} [Monad m]

/-- How long an answer may take if nothing else is said. -/
def defaultTimeout : Nat := 10000000000

/-- Asks a query and decodes the answer. -/
def request {α : Type} (c : QueryClient m) (subject : String) (query : Except String Json)
    (decode : Json → Option α) : m (Except QueryError α) := do
  match query with
  | .error text => return .error (.invalid text)
  | .ok query =>
    match ← c.bus.request subject (.ofJson query) c.timeout with
    | .error _ => return .error .failed
    | .ok reply =>
      match reply.json?.bind decode with
      | some answer => return .ok answer
      | none => return .error .failed

/-- Asks for jobs. -/
def jobs (c : QueryClient m) (filter : JobFilter) : m (Except QueryError JobsResponse) :=
  c.request Subject.jobsQuery (.ok filter.toJson) JobsResponse.ofJson?

/-- Asks for providers. -/
def nodes (c : QueryClient m) (filter : NodeFilter) : m (Except QueryError NodesResponse) :=
  c.request Subject.nodesQuery (.ok filter.toJson) NodesResponse.ofJson?

end QueryClient

end ComputeExchange
