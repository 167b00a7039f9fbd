import ComputeExchange.Cause
import ComputeExchange.Sql.Row
import ComputeExchange.Sql.Statement

/-!
# A store in a database

Each call is one statement, and its result is read as the answer.
-/

namespace ComputeExchange.Sql

/-- What a database gives back for a statement that it has carried out. -/
structure Result where
  rows : List Row
  /-- How many rows were changed. -/
  affected : Nat

/-- A database that carries out statements in `m`. -/
structure Database (m : Type → Type) where
  execute : Statement → m (Except DatabaseError Result)

/-- The job of the first row, if there is one. -/
def firstJob (result : Result) : Except StoreError (Option Job) := do
  match result.rows with
  | [] => return none
  | row :: _ =>
    let row ← (JobRow.ofRow row).mapError .database
    return some (← row.toJob)

/-- The provider of the first row, if there is one. -/
def firstProvider (result : Result) : Except StoreError (Option Provider) := do
  match result.rows with
  | [] => return none
  | row :: _ => return some (← (providerOfRow row).mapError .database)

/-- Reads the result of a call. -/
def answer : (c : StoreCall) → Result → Except StoreError c.Answer
  | .insertJob new _, result => do
    match ← firstJob result with
    | some job => return job
    | none => throw (.duplicate new.id)
  | .getJob _, result => firstJob result
  | .transitionJob .., result => firstJob result
  | .listJobs _, result => do
    let rows ← (result.rows.mapM JobRow.ofRow).mapError StoreError.database
    rows.mapM JobRow.toJob
  | .upsertProvider .., result => do
    match ← firstProvider result with
    | some provider => return provider
    | none => throw (.database .rowNotFound)
  | .touchProvider .., result => .ok (result.affected == 1)
  | .markOfflineBefore _, result => .ok result.affected
  | .getProvider _, result => firstProvider result
  | .listActiveProviders _, result => (result.rows.mapM providerOfRow).mapError .database
  | .recordSettlement .., result => .ok (result.affected == 1)
  | .loadCursor _, result =>
    match result.rows with
    | [] => .ok none
    | row :: _ => ((cursorOfRow row).map some).mapError .database
  | .saveCursor .., _ => .ok ()

/-- The store in a database. -/
def Database.store {m : Type → Type} [Monad m] (db : Database m) : Store m where
  perform c := do
    match ← db.execute (Statement.ofCall c) with
    | .ok result => return answer c result
    | .error e => return .error (.database e)

/-- The failure to connect to a database. -/
def connectFailure : Cause := Cause.ofText "Failed to connect to the DATABASE_URL"

end ComputeExchange.Sql
