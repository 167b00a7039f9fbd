import ComputeExchange.Clamp
import ComputeExchange.Listing.Filter
import ComputeExchange.Store.Error

/-!
# Rows

How the rows of a result become jobs, providers and cursors.  A column that is missing, or null
where there must be a value, is a failure of the database; a job with a status that is none is an
invalid record.
-/

namespace ComputeExchange.Sql

/-- A value in a row.  Instants come as microseconds since 1970. -/
inductive Cell where
  | null
  | text (s : String)
  | int (i : Int64)
  | bool (b : Bool)

/-- A row: its columns by name. -/
abbrev Row := List (String × Cell)

namespace Row

/-- The value of a column that may be null, as `read` understands it. -/
def nullable {α : Type} (row : Row) (name : String) (read : Cell → Option α) :
    Except DatabaseError (Option α) :=
  match row.lookup name with
  | none => .error (.columnMissing name)
  | some .null => .ok none
  | some cell =>
    match read cell with
    | some a => .ok (some a)
    | none => .error (.columnUnreadable name)

/-- The value of a column that is never null. -/
def required {α : Type} (row : Row) (name : String) (read : Cell → Option α) :
    Except DatabaseError α := do
  match ← row.nullable name read with
  | some a => return a
  | none => throw (.columnUnreadable name)

end Row

namespace Cell

/-- A text. -/
def asText : Cell → Option String
  | text s => some s
  | _ => none

/-- A number. -/
def asInt : Cell → Option Int64
  | int i => some i
  | _ => none

/-- A truth value. -/
def asBool : Cell → Option Bool
  | bool b => some b
  | _ => none

/-- An instant. -/
def asTime : Cell → Option Timestamp
  | int us => Timestamp.ofMicroseconds? us.toInt
  | _ => none

end Cell

/-- A job as it is stored: its status is any text. -/
structure JobRow where
  status : String
  /-- The job, if its status were this one. -/
  job : JobStatus → Job

/-- Reads a stored job. -/
def JobRow.ofRow (row : Row) : Except DatabaseError JobRow := do
  let id ← row.required "id" Cell.asText
  let renter ← row.required "renter_address" Cell.asText
  let provider ← row.required "provider_address" Cell.asText
  let dockerImage ← row.required "docker_image" Cell.asText
  let inputCid ← row.required "input_file_cid" Cell.asText
  let outputCid ← row.nullable "output_file_cid" Cell.asText
  let payment ← row.required "payment_amount" Cell.asText
  let status ← row.required "status" Cell.asText
  let errorMessage ← row.nullable "error_message" Cell.asText
  let createdAt ← row.required "created_at" Cell.asTime
  let updatedAt ← row.required "updated_at" Cell.asTime
  let assignedAt ← row.nullable "assigned_at" Cell.asTime
  let completedAt ← row.nullable "completed_at" Cell.asTime
  let failedAt ← row.nullable "failed_at" Cell.asTime
  return {
    status := status
    job := fun status =>
      { id, renter, provider, dockerImage, inputCid, outputCid, payment, status, errorMessage,
        createdAt, updatedAt, assignedAt, completedAt, failedAt } }

/-- The job of a stored row, if its status is one. -/
def JobRow.toJob (row : JobRow) : Except StoreError Job :=
  match JobStatus.ofLabel? row.status with
  | some status => .ok (row.job status)
  | none => .error (.unknownStatus row.status)

/-- Reads a provider. -/
def providerOfRow (row : Row) : Except DatabaseError Provider := do
  let wallet ← row.required "wallet_address" Cell.asText
  let gpuModel ← row.required "gpu_model" Cell.asText
  let vram ← row.required "vram" Cell.asInt
  let lastSeen ← row.required "last_seen" Cell.asTime
  let isOnline ← row.required "is_online" Cell.asBool
  let jobsCompleted ← row.required "total_jobs_completed" Cell.asInt
  let reputation ← row.required "reputation_score" Cell.asInt
  let createdAt ← row.required "created_at" Cell.asTime
  let updatedAt ← row.required "updated_at" Cell.asTime
  return {
    wallet, gpuModel, vram, lastSeen, isOnline, jobsCompleted, reputation, createdAt, updatedAt }

/-- Reads a cursor; a negative one is zero. -/
def cursorOfRow (row : Row) : Except DatabaseError UInt64 := do
  let block ← row.required "last_block" Cell.asInt
  return Clamp.wordOfSigned block

end ComputeExchange.Sql
