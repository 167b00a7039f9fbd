import ComputeExchange.Cause
import ComputeExchange.Hash.Sha384
import ComputeExchange.Store.Error
import ComputeExchange.Text.Hex
import ComputeExchange.Text.Utf8

/-!
# The schema

The tables of the marketplace are set up by migrations, each of which runs once.  The database keeps
a record of those that have run, with a checksum of their text; a record that does not fit the
migrations of the program stops it.
-/

namespace ComputeExchange.Sql

/-- A change of the schema. -/
structure Migration where
  version : Int
  description : String
  text : String

namespace Migration

/-- The checksum by which a migration is known. -/
def checksum (m : Migration) : List UInt8 := Sha384.hash (Utf8.encode m.text)

/-- How many tables a migration creates. -/
def tables (m : Migration) : Nat := (m.text.splitOn "CREATE TABLE").length - 1

/-- The tables of the marketplace. -/
def marketplaceState : Migration where
  version := 20250601000000
  description := "marketplace state"
  text := "CREATE TABLE IF NOT EXISTS jobs (
    id                TEXT PRIMARY KEY,
    renter_address    TEXT NOT NULL,
    provider_address  TEXT NOT NULL,
    docker_image      TEXT NOT NULL,
    input_file_cid    TEXT NOT NULL,
    output_file_cid   TEXT,
    payment_amount    NUMERIC(78, 0) NOT NULL,
    status            TEXT NOT NULL CHECK (
        status IN ('created', 'assigned', 'running', 'completed', 'failed', 'cancelled')
    ),
    error_message     TEXT,
    created_at        TIMESTAMPTZ NOT NULL,
    updated_at        TIMESTAMPTZ NOT NULL,
    assigned_at       TIMESTAMPTZ,
    completed_at      TIMESTAMPTZ,
    failed_at         TIMESTAMPTZ
);

CREATE INDEX IF NOT EXISTS jobs_renter_idx ON jobs (renter_address);
CREATE INDEX IF NOT EXISTS jobs_provider_idx ON jobs (provider_address);
CREATE INDEX IF NOT EXISTS jobs_status_idx ON jobs (status);
CREATE INDEX IF NOT EXISTS jobs_created_at_idx ON jobs (created_at DESC);

CREATE TABLE IF NOT EXISTS providers (
    wallet_address        TEXT PRIMARY KEY,
    gpu_model             TEXT NOT NULL,
    vram                  BIGINT NOT NULL,
    last_seen             TIMESTAMPTZ NOT NULL,
    is_online             BOOLEAN NOT NULL DEFAULT TRUE,
    total_jobs_completed  BIGINT NOT NULL DEFAULT 0,
    reputation_score      BIGINT NOT NULL DEFAULT 0,
    created_at            TIMESTAMPTZ NOT NULL,
    updated_at            TIMESTAMPTZ NOT NULL
);

CREATE INDEX IF NOT EXISTS providers_online_reputation_idx
    ON providers (is_online, reputation_score DESC);

CREATE TABLE IF NOT EXISTS sync_cursors (
    service     TEXT PRIMARY KEY,
    last_block  BIGINT NOT NULL,
    updated_at  TIMESTAMPTZ NOT NULL DEFAULT NOW()
);
"

/-- All migrations in the order of their versions. -/
def all : List Migration := [marketplaceState]

end Migration

/-- The record of a migration that has run. -/
structure AppliedMigration where
  version : Int
  checksum : List UInt8
  deriving DecidableEq

/-- The side of a database that migrations need. -/
structure SchemaStore (m : Type → Type) where
  /-- The version of a migration that was begun and not ended. -/
  dirtyVersion : m (Except DatabaseError (Option Int))
  /-- The migrations that have run. -/
  applied : m (Except DatabaseError (List AppliedMigration))
  /-- Runs a migration. -/
  run : Migration → m (Except DatabaseError Unit)
  /-- Records that a migration has run. -/
  record : Migration → m (Except DatabaseError Unit)

/-- Why the schema could not be brought up to date. -/
inductive MigrateError where
  | database (e : DatabaseError)
  | dirty (version : Int)
  | unknownVersion (version : Int)
  | changed (version : Int)

/-- The text of the failure to bring the schema up to date. -/
def migrateFailure : Cause := Cause.ofText "Failed to apply migrations to the database"

section

variable {m : Type → Type} [Monad m]

/-- Takes what a database gives, or fails with it. -/
def liftDatabase {α : Type} (action : m (Except DatabaseError α)) : ExceptT MigrateError m α := do
  match ← action with
  | .ok a => return a
  | .error e => throw (.database e)

/-- Runs the migrations that have not run yet, in order. -/
def runPending (s : SchemaStore m) (applied : List AppliedMigration) :
    List Migration → ExceptT MigrateError m Unit
  | [] => return
  | migration :: rest => do
    match applied.find? (·.version == migration.version) with
    | some known =>
      if known.checksum ≠ migration.checksum then throw (.changed migration.version)
    | none =>
      liftDatabase (s.run migration)
      liftDatabase (s.record migration)
    runPending s applied rest

/-- Brings the schema up to date. -/
def migrate (s : SchemaStore m) (migrations : List Migration) : ExceptT MigrateError m Unit := do
  match ← liftDatabase s.dirtyVersion with
  | some version => throw (.dirty version)
  | none =>
    let applied ← liftDatabase s.applied
    match applied.find? fun a => !migrations.any (·.version == a.version) with
    | some unknown => throw (.unknownVersion unknown.version)
    | none => runPending s applied migrations

end

end ComputeExchange.Sql
