import ComputeExchange.Job.Wire
import ComputeExchange.Provider.Basic

/-!
# Listings

What a caller may ask of a listing: criteria, all of which must hold, and a page.  The page is cut
from a list in a fixed total order: jobs with the newest first, providers with the best reputation
first, and the key deciding between equals.
-/

namespace ComputeExchange

/-- A stretch of a list. -/
structure Page where
  limit : Int64
  offset : Int64
  deriving DecidableEq, Repr

namespace Page

/-- How many rows a page has if nothing else is asked for. -/
def defaultLimit : Int64 := 100

/-- How many rows a page has at most. -/
def greatestLimit : Int64 := 1000

/-- The page that is asked for: a limit that is not positive counts as none, one that is too large
is cut, and a negative offset is zero. -/
def resolve (limit offset : Option Int64) : Page where
  limit :=
    match limit with
    | some n => if 0 < n then min n greatestLimit else defaultLimit
    | none => defaultLimit
  offset := max (offset.getD 0) 0

/-- The rows of a list that are on a page. -/
def cut {α : Type} (page : Page) (rows : List α) : List α :=
  (rows.drop page.offset.toInt.toNat).take page.limit.toInt.toNat

end Page

/-- A text criterion, where the empty text asks for nothing. -/
def criterion (s : Option String) : Option String := s.filter fun s => !s.isEmpty

/-! ### Jobs -/

/-- What a caller asks of a listing of jobs. -/
structure JobFilter where
  renter : Option String
  provider : Option String
  status : Option JobStatus
  limit : Option Int64
  offset : Option Int64
  deriving DecidableEq, Inhabited

namespace JobFilter

/-- A filter whose empty texts ask for nothing. -/
def normalized (f : JobFilter) : JobFilter :=
  { f with renter := criterion f.renter, provider := criterion f.provider }

/-- The page a filter asks for. -/
def page (f : JobFilter) : Page := Page.resolve f.limit f.offset

/-- Whether a job meets every criterion. -/
def admits (f : JobFilter) (job : Job) : Bool :=
  (criterion f.renter).all (· == job.renter) && (criterion f.provider).all (· == job.provider) &&
    f.status.all (· == job.status)

/-- A filter as JSON; what it does not ask for is left out. -/
def toJson (f : JobFilter) : Json :=
  .record (Json.omittable "renter_address" .text f.renter ++
    Json.omittable "provider_address" .text f.provider ++
    Json.omittable "status" JobStatus.toJson f.status ++
    Json.omittable "limit" .ofInt64 f.limit ++ Json.omittable "offset" .ofInt64 f.offset)

/-- The filter a JSON value stands for. -/
def ofJson? (j : Json) : Option JobFilter := do
  let fs ← j.fields? ["renter_address", "provider_address", "status", "limit", "offset"]
  return {
    renter := ← fs.optional "renter_address" Json.asText true
    provider := ← fs.optional "provider_address" Json.asText true
    status := ← fs.optional "status" JobStatus.ofJson? true
    limit := ← fs.optional "limit" Json.asInt64 true
    offset := ← fs.optional "offset" Json.asInt64 true }

end JobFilter

/-- The order of jobs in a listing: the newest first, then by id. -/
def Job.listsBefore (a b : Job) : Bool :=
  b.createdAt.before a.createdAt || (a.createdAt == b.createdAt && a.id ≤ b.id)

/-! ### Providers -/

/-- What a caller asks of a listing of providers. -/
structure NodeFilter where
  minVram : Option Int64
  gpuModel : Option String
  minReputation : Option Int64
  limit : Option Int64
  offset : Option Int64
  deriving DecidableEq, Inhabited

namespace NodeFilter

/-- A filter whose empty text asks for nothing. -/
def normalized (f : NodeFilter) : NodeFilter := { f with gpuModel := criterion f.gpuModel }

/-- The page a filter asks for. -/
def page (f : NodeFilter) : Page := Page.resolve f.limit f.offset

/-- Whether a provider meets every criterion. -/
def admits (f : NodeFilter) (p : Provider) : Bool :=
  f.minVram.all (· ≤ p.vram) && (criterion f.gpuModel).all (· == p.gpuModel) &&
    f.minReputation.all (· ≤ p.reputation)

/-- A filter as JSON; what it does not ask for is left out. -/
def toJson (f : NodeFilter) : Json :=
  .record (Json.omittable "min_vram" .ofInt64 f.minVram ++
    Json.omittable "gpu_model" .text f.gpuModel ++
    Json.omittable "min_reputation_score" .ofInt64 f.minReputation ++
    Json.omittable "limit" .ofInt64 f.limit ++ Json.omittable "offset" .ofInt64 f.offset)

/-- The filter a JSON value stands for. -/
def ofJson? (j : Json) : Option NodeFilter := do
  let fs ← j.fields? ["min_vram", "gpu_model", "min_reputation_score", "limit", "offset"]
  return {
    minVram := ← fs.optional "min_vram" Json.asInt64 true
    gpuModel := ← fs.optional "gpu_model" Json.asText true
    minReputation := ← fs.optional "min_reputation_score" Json.asInt64 true
    limit := ← fs.optional "limit" Json.asInt64 true
    offset := ← fs.optional "offset" Json.asInt64 true }

end NodeFilter

/-- The order of providers in a listing: the best reputation first, then by wallet. -/
def Provider.listsBefore (a b : Provider) : Bool :=
  b.reputation < a.reputation || (a.reputation == b.reputation && a.wallet ≤ b.wallet)

/-! ### Answers -/

/-- The answer to a query of jobs: some rows and how many they are. -/
structure JobsResponse where
  jobs : List Job
  count : UInt64
  deriving DecidableEq

namespace JobsResponse

/-- The answer with these rows. -/
def ofRows (jobs : List Job) : JobsResponse := ⟨jobs, UInt64.ofNat jobs.length⟩

/-- An answer as JSON. -/
def toJson (r : JobsResponse) : Json :=
  .record [("jobs", .array (r.jobs.map Job.toJson)), ("count", .ofUInt64 r.count)]

/-- The answer a JSON value stands for. -/
def ofJson? (j : Json) : Option JobsResponse := do
  let fs ← j.fields? ["jobs", "count"]
  return {
    jobs := ← fs.required "jobs" (Json.asList Job.ofJson?)
    count := ← fs.required "count" Json.asUInt64 }

end JobsResponse

/-- The answer to a query of providers: some rows and how many they are. -/
structure NodesResponse where
  nodes : List Provider
  count : UInt64
  deriving DecidableEq

namespace NodesResponse

/-- The answer with these rows. -/
def ofRows (nodes : List Provider) : NodesResponse := ⟨nodes, UInt64.ofNat nodes.length⟩

/-- An answer as JSON. -/
def toJson (r : NodesResponse) : Json :=
  .record [("nodes", .array (r.nodes.map Provider.toJson)), ("count", .ofUInt64 r.count)]

/-- The answer a JSON value stands for. -/
def ofJson? (j : Json) : Option NodesResponse := do
  let fs ← j.fields? ["nodes", "count"]
  return {
    nodes := ← fs.required "nodes" (Json.asList Provider.ofJson?)
    count := ← fs.required "count" Json.asUInt64 }

end NodesResponse

end ComputeExchange
