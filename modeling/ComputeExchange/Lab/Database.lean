import ComputeExchange.Sql.Migration
import ComputeExchange.Sql.Repository

/-!
# A database server by a script

The server keeps what it is asked, and answers as it has been told: for each kind of question there
is a queue of replies, and once that is empty the answer is no rows.
-/

namespace ComputeExchange.Lab

/-- What the server does with a question. -/
inductive ServerReply where
  | result (r : Sql.Result)
  | refusal (code message : String)
  /-- The connection breaks. -/
  | hangUp

/-- What a migration has done to the server. -/
inductive SchemaChange where
  | ran (m : Sql.Migration)
  | recorded (m : Sql.Migration)

/-- A server with its script. -/
structure ScriptedDatabase where
  /-- The replies to come, by the name of what is asked. -/
  replies : List (String × List ServerReply)
  /-- The statements that have come in. -/
  statements : List Sql.Statement
  /-- What migrations have done. -/
  changes : List SchemaChange
  deriving Inhabited

namespace ScriptedDatabase

/-- A server with some replies to come. -/
def start (replies : List (String × List ServerReply)) : ScriptedDatabase := ⟨replies, [], []⟩

/-- The next reply to a question, and the script after it. -/
def next (name : String) :
    List (String × List ServerReply) → ServerReply × List (String × List ServerReply)
  | [] => (.result ⟨[], 0⟩, [])
  | (n, queue) :: rest =>
    match n == name, queue with
    | true, reply :: queue => (reply, (n, queue) :: rest)
    | _, _ =>
      let (reply, rest) := next name rest
      (reply, (n, queue) :: rest)

/-- Answers a question. -/
def reply (d : ScriptedDatabase) (name : String) :
    Except DatabaseError Sql.Result × ScriptedDatabase :=
  let (reply, replies) := next name d.replies
  let answer : Except DatabaseError Sql.Result :=
    match reply with
    | .result r => .ok r
    | .refusal code message => .error (.server code message)
    | .hangUp => .error (.connection "connection closed")
  (answer, { d with replies := replies })

/-- Carries out a statement. -/
def execute (d : ScriptedDatabase) (s : Sql.Statement) :
    Except DatabaseError Sql.Result × ScriptedDatabase :=
  { d with statements := d.statements ++ [s] }.reply s.kind.name

/-- Notes what a migration does. -/
def change (d : ScriptedDatabase) (c : SchemaChange) : ScriptedDatabase :=
  { d with changes := d.changes ++ [c] }

/-- How many statements of a kind have come in. -/
def count (d : ScriptedDatabase) (kind : String) : Nat :=
  d.statements.countP fun s => s.kind.name == kind

/-- The version in a row. -/
def versionOf (row : Sql.Row) : Int :=
  match row.lookup "version" with
  | some (.int i) => i.toInt
  | _ => 0

/-- The record of a migration in a row. -/
def appliedOf (row : Sql.Row) : Sql.AppliedMigration :=
  let checksum :=
    match row.lookup "checksum" with
    | some (.text s) => (Hex.ofText? s).getD []
    | _ => []
  ⟨versionOf row, checksum⟩

/-- The side of the server that migrations need, if `onServer` performs actions on it. -/
def schemaStore {m : Type → Type} [Monad m]
    (onServer : {α : Type} → (ScriptedDatabase → α × ScriptedDatabase) → m α) :
    Sql.SchemaStore m where
  dirtyVersion := do
    let answer ← onServer fun d => d.reply "dirty"
    return answer.map fun r => r.rows.head?.map versionOf
  applied := do
    let answer ← onServer fun d => d.reply "applied"
    return answer.map fun r => r.rows.map appliedOf
  run m := do
    let answer ← onServer fun d => (d.change (.ran m)).reply "schema"
    return answer.map fun _ => ()
  record m := do
    let answer ← onServer fun d => (d.change (.recorded m)).reply "migration"
    return answer.map fun _ => ()

end ScriptedDatabase

end ComputeExchange.Lab
