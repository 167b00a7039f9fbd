import ComputeExchange.Time.Rfc3339

/-!
# Providers

A provider offers a graphics card under its wallet.  It is online from its registration or last
heartbeat until it has not been seen for too long.
-/

namespace ComputeExchange

/-- What a provider registers with. -/
structure Registration where
  wallet : String
  gpuModel : String
  vram : Int64
  deriving DecidableEq, Inhabited

/-- A provider as the marketplace knows it. -/
structure Provider where
  wallet : String
  gpuModel : String
  vram : Int64
  lastSeen : Timestamp
  isOnline : Bool
  jobsCompleted : Int64
  reputation : Int64
  createdAt : Timestamp
  updatedAt : Timestamp
  deriving DecidableEq, Inhabited

namespace Provider

/-- A provider at its first registration. -/
def ofRegistration (r : Registration) (now : Timestamp) : Provider where
  wallet := r.wallet
  gpuModel := r.gpuModel
  vram := r.vram
  lastSeen := now
  isOnline := true
  jobsCompleted := 0
  reputation := 0
  createdAt := now
  updatedAt := now

/-- A known provider after it has registered again: its record stays, its card may differ. -/
def register (p : Provider) (r : Registration) (now : Timestamp) : Provider :=
  { p with
    gpuModel := r.gpuModel
    vram := r.vram
    lastSeen := now
    isOnline := true
    updatedAt := now }

/-- A provider that has shown that it is alive. -/
def touch (p : Provider) (now : Timestamp) : Provider :=
  { p with lastSeen := now, isOnline := true, updatedAt := now }

/-- Whether a provider counts as online though it was last seen before a time. -/
def isStale (p : Provider) (cutoff : Timestamp) : Bool := p.isOnline && p.lastSeen.before cutoff

/-- A provider that has been credited with one more job, and with the count the chain tells. -/
def settle (p : Provider) (count : Int64) (now : Timestamp) : Provider :=
  { p with reputation := count, jobsCompleted := p.jobsCompleted + 1, updatedAt := now }

/-- The names of the fields of a provider, in order. -/
def fieldNames : List String :=
  ["wallet_address", "gpu_model", "vram", "last_seen", "is_online", "total_jobs_completed",
   "reputation_score", "created_at", "updated_at"]

/-- A provider as JSON. -/
def toJson (p : Provider) : Json :=
  .record [("wallet_address", .text p.wallet), ("gpu_model", .text p.gpuModel),
    ("vram", .ofInt64 p.vram), ("last_seen", p.lastSeen.toJson), ("is_online", .bool p.isOnline),
    ("total_jobs_completed", .ofInt64 p.jobsCompleted), ("reputation_score", .ofInt64 p.reputation),
    ("created_at", p.createdAt.toJson), ("updated_at", p.updatedAt.toJson)]

/-- The provider a JSON value stands for. -/
def ofJson? (j : Json) : Option Provider := do
  let fs ← j.fields? fieldNames
  return {
    wallet := ← fs.required "wallet_address" Json.asText
    gpuModel := ← fs.required "gpu_model" Json.asText
    vram := ← fs.required "vram" Json.asInt64
    lastSeen := ← fs.required "last_seen" Timestamp.ofJson?
    isOnline := ← fs.required "is_online" Json.asBool
    jobsCompleted := ← fs.required "total_jobs_completed" Json.asInt64
    reputation := ← fs.required "reputation_score" Json.asInt64
    createdAt := ← fs.required "created_at" Timestamp.ofJson?
    updatedAt := ← fs.required "updated_at" Timestamp.ofJson? }

end Provider

end ComputeExchange
