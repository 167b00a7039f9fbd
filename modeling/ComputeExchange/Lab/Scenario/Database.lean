import ComputeExchange.Config.Endpoint
import ComputeExchange.Lab.Database
import ComputeExchange.Lab.Scenario.Store

/-!
# Scenarios of a database

A store in a database, with a server that answers each call as its step says.  Every step also tells
what has reached the server.
-/

namespace ComputeExchange.Lab.Scenario

/-- The columns of a job. -/
def jobColumns : List String :=
  ["id", "renter_address", "provider_address", "docker_image", "input_file_cid", "output_file_cid",
    "payment_amount", "status", "error_message", "created_at", "updated_at", "assigned_at",
    "completed_at", "failed_at"]

/-- The columns of a provider. -/
def providerColumns : List String :=
  ["wallet_address", "gpu_model", "vram", "last_seen", "is_online", "total_jobs_completed",
    "reputation_score", "created_at", "updated_at"]

/-- The columns of what is answered to a question. -/
def columnsOf : String → List String
  | "insert_job" => jobColumns
  | "get_job" => jobColumns
  | "transition_job" => jobColumns
  | "list_jobs" => jobColumns
  | "upsert_provider" => providerColumns
  | "get_provider" => providerColumns
  | "list_active_providers" => providerColumns
  | "load_cursor" => ["last_block"]
  | "applied" => ["version", "checksum"]
  | "dirty" => ["version"]
  | _ => []

/-- A value in a row. -/
def cellOf : Json → Sql.Cell
  | .string (some s) => .text s
  | .bool b => .bool b
  | j =>
    match j.asInt64 with
    | some i => .int i
    | none => .null

/-- What the server is to do with a question. -/
def serverReplyOf (question : String) (j : Json) : ServerReply :=
  if j.flag "drop" then .hangUp
  else if j.has "error" then
    let e := j.at_ "error"
    .refusal (e.textAt "code") (e.textAt "message")
  else
    let columns := (columnsOf question).filter fun c => !(j.texts "omit").contains c
    let rows := (j.list "rows").map fun row => columns.map fun c => (c, cellOf (row.at_ c))
    .result ⟨rows, j.natOr "affected" rows.length⟩

/-- The replies to come, by the names of questions. -/
def repliesOf (j : Json) : List (String × List ServerReply) :=
  j.pairs.map fun (question, replies) => (question, replies.items.map (serverReplyOf question))

/-- The parameters of a statement as JSON. -/
def paramsJson (s : Sql.Statement) : Json := .array (s.params.map Sql.Param.toJson)

/-- A statement as JSON. -/
def statementJson (s : Sql.Statement) : Json :=
  .record [("sql", .text s.text), ("params", paramsJson s)]

/-- What a migration has done, as JSON. -/
def schemaChangeJson : SchemaChange → Json
  | .ran m => .record [("tables", .nat m.tables)]
  | .recorded m => .record [("version", .int m.version), ("description", .text m.description),
      ("checksum", .text (String.ofList (Hex.encode m.checksum)))]

/-- The result of a call on a database.  Of a failure of the database itself only what the server
has said is told, and whether it may pass. -/
def databaseReply {α : Type} (write : α → Json) : Except StoreError α → Reply
  | .error (.database e) =>
    let message :=
      match e with
      | .server .. => some e.message
      | _ => none
    (⟨.curt "StoreError" "Database" message, []⟩ : Reply).with_ "transient" (.bool e.isTransient)
  | result => Reply.ofExcept write result

/-- The database of a server. -/
def scriptedDatabase : Sql.Database (StateM ScriptedDatabase) := ⟨fun s d => d.execute s⟩

/-- Brings the schema of a server up to date. -/
def migrationReply (d : ScriptedDatabase) : Reply :=
  let schema : Sql.SchemaStore (StateM ScriptedDatabase) :=
    ScriptedDatabase.schemaStore fun action => action
  let (result, d) := (Sql.migrate schema Sql.Migration.all).run d
  let reply : Reply :=
    match result with
    | .ok () => .nothing
    | .error _ => .refused "migrate" Sql.migrateFailure
  reply.with_ "sent" (.array (d.changes.map schemaChangeJson))

/-- Carries out a step with a server of its own. -/
def databaseStep (now : Timestamp) (j : Json) : Reply :=
  let name := j.textAt "do"
  if name = "apply_migrations" then migrationReply (.start (repliesOf (j.at_ "replies")))
  else
    match callOf name j now with
    | none => .unknown
    | some (.error e) => (Reply.ofExcept id (.error e)).with_ "sent" (.array [])
    | some (.ok c) =>
      let replies := if j.has "reply" then [(name, [serverReplyOf name (j.at_ "reply")])] else []
      let (result, d) := (scriptedDatabase.store.perform c).run (.start replies)
      (databaseReply (answerJson c) result).with_ "sent" (.array (d.statements.map statementJson))

/-- What a scenario with a server comes to: one reply if there is no connection to the server, else
one to each step. -/
inductive ServedReply where
  | refused (r : Reply)
  | steps (rs : List Reply)

/-- A port that is nobody's usual one, for `PORT` in URLs. -/
def freePort : Nat := 40000

/-- The URL of a scenario. -/
def urlOf (j : Json) (fallback : String) : String :=
  (j.textOr "url" fallback).replace "PORT" (toString freePort)

/-- Carries out a scenario of a database. -/
def runDatabase (j : Json) (now : Timestamp) : ServedReply :=
  let url := urlOf j "postgres://u:p@127.0.0.1:PORT/market"
  if j.has "refuse" || Endpoint.databasePort? url ≠ some freePort then
    .refused (.refused "connect" Sql.connectFailure)
  else .steps ((j.list "steps").map (databaseStep (timeAt j "now" now)))

end ComputeExchange.Lab.Scenario
