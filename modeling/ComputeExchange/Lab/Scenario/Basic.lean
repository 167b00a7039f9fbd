import ComputeExchange.Bus.Message
import ComputeExchange.Json.Access
import ComputeExchange.Json.Double
import ComputeExchange.Lab.Scheduler
import ComputeExchange.Text.Utf8

/-!
# Scenarios

A scenario is a list of steps that are carried out one after another in a laboratory.  A step is a
JSON object that names under `do` what is done, with its parameters beside it.  Here stands what a
step can come to, and how steps of every sort are put together.
-/

namespace ComputeExchange.Lab

/-- What a step comes to. -/
inductive Outcome where
  | value (j : Json)
  /-- A failure of a family and a kind, with its text and the texts beneath it. -/
  | failure (family kind : String) (cause : Cause)
  /-- A failure of which only the text is told, if that. -/
  | curt (family kind : String) (message : Option String)
  /-- A failure without a type: what failed, and its text. -/
  | refused (what message : String)
  /-- What was awaited can never come. -/
  | stuck
  /-- There is no such step. -/
  | unknown

/-- What a step comes to, with what else is told of it. -/
structure Reply where
  outcome : Outcome
  extra : List (String × Json)

namespace Reply

/-- A value. -/
def value (j : Json) : Reply := ⟨.value j, []⟩

/-- Nothing to tell. -/
def nothing : Reply := value .null

/-- A failure without a type. -/
def refused (what : String) (c : Cause) : Reply := ⟨.refused what c.message, []⟩

/-- No such step. -/
def unknown : Reply := ⟨.unknown, []⟩

/-- A result: a value as `write` puts it, or a failure. -/
def ofExcept {ε α : Type} [Classified ε] (write : α → Json) : Except ε α → Reply
  | .ok a => value (write a)
  | .error e => ⟨.failure (Classified.family ε) (Classified.kind e) (Explained.cause e), []⟩

/-- A failure with only the first of the texts beneath it. -/
def shallow (r : Reply) : Reply :=
  match r.outcome with
  | .failure family kind cause =>
    { r with outcome := .failure family kind ⟨cause.message, cause.below.take 1⟩ }
  | _ => r

/-- The same with one more thing told. -/
def with_ (r : Reply) (name : String) (j : Json) : Reply :=
  { r with extra := r.extra ++ [(name, j)] }

end Reply

/-- What carries out a step. -/
abbrev Step := StateM Bench Reply

namespace Step

/-- Runs something in the foreground, and puts what comes of it as `write` says. -/
def run {α : Type} (write : α → Reply) (p : Proc α) : Step := do
  match ← Bench.run p with
  | some a => return write a
  | none => return ⟨.stuck, []⟩

/-- Runs something that may fail. -/
def attempt {ε α : Type} [Classified ε] (write : α → Json) (p : Proc (Except ε α)) : Step :=
  run (Reply.ofExcept write) p

/-- Runs something that may fail without a type. -/
def attemptPlain {α : Type} (what : String) (write : α → Json) (p : Proc (Except Cause α)) : Step :=
  run (fun
    | .ok a => .value (write a)
    | .error c => .refused what c) p

/-- Carries out a step, then lets every task run until it waits. -/
def settled (s : Step) : Step := do
  let reply ← s
  modify Bench.settle
  return reply

/-- Changes the laboratory. -/
def change (f : Bench → Bench) : Step := do
  modify f
  return .nothing

/-- Changes the world. -/
def changeWorld (f : World → World) : Step :=
  change fun bench => { bench with world := f bench.world }

/-- Tells how something stands. -/
def view (f : Bench → Json) : Step := do return .value (f (← get))

/-- Does something that depends on the world. -/
def inWorld (f : World → Step) : Step := do f (← get).world

end Step

/-- Carries out steps one after another. -/
def runSteps {σ α : Type} (step : Json → StateM σ α) : List Json → StateM σ (List α)
  | [] => return []
  | j :: rest => do
    let reply ← step j
    return reply :: (← runSteps step rest)

/-! ### Parameters -/

/-- A time: nanoseconds since 1970, seconds and nanoseconds, the words `min` and `max` for the ends
of time, or the present if it is not given. -/
def timeAt (j : Json) (name : String) (now : Timestamp) : Timestamp :=
  match j.at_ name with
  | .number (.whole n) => (Timestamp.ofNanos? n).getD now
  | .array [.number (.whole s), .number (.whole n)] => (Timestamp.ofParts? s n.toNat).getD now
  | .string (some "min") => Timestamp.earliest
  | .string (some "max") => Timestamp.latest
  | _ => now

/-- The bytes of a hexadecimal text. -/
def bytesAt (j : Json) (name : String) : List UInt8 := (Hex.ofText? (j.textAt name)).getD []

/-- A word of a chain. -/
def wordAt (j : Json) (name : String) : Word := Bytes.lastOf 32 (bytesAt j name)

/-- An address. -/
def addressAt (j : Json) (name : String) : Address := Bytes.lastOf 20 (bytesAt j name)

/-- A span of milliseconds in nanoseconds. -/
def millisAt (j : Json) (name : String) (fallback : Nat) : Nat := j.natOr name fallback * 1000000

/-- A job that is to be created. -/
def newJobOf (j : Json) : NewJob :=
  ⟨j.textAt "id", j.textOr "renter" "0xr", j.textOr "provider" "0xp", j.textOr "image" "img",
    j.textOr "input" "cid", j.textOr "payment" "1"⟩

/-- A registration. -/
def registrationOf (j : Json) : Registration :=
  ⟨j.textAt "wallet", j.textOr "gpu" "A100", ((j.at_ "vram").asInt64).getD 80⟩

/-- A status by its word. -/
def statusAt (j : Json) (name : String) : Except StoreError JobStatus :=
  match JobStatus.ofLabel? (j.textAt name) with
  | some status => .ok status
  | none => .error (.unknownStatus (j.textAt name))

/-- A filter, the one that asks for nothing if it is not given. -/
def filterAt {α : Type} [Inhabited α] (read : Json → Option α) (j : Json) : α :=
  (read (if j.has "filter" then j.at_ "filter" else .object [])).getD default

/-- A log entry; `address` stands for the contract if that is not given. -/
def logOf (j : Json) (address : Address) : Log :=
  ⟨if j.has "address" then addressAt j "address" else address,
    (j.list "topics").map fun t => Bytes.lastOf 32 ((t.asText.bind Hex.ofText?).getD []),
    bytesAt j "data", j.word? "block", (j.text? "tx").map fun _ => wordAt j "tx"⟩

/-- A payload: JSON if it is that, else text. -/
def payloadJson (p : Payload) : Json :=
  match p.text?.bind Json.parseValue? with
  | some v => .record [("json", v.rounded)]
  | none => .record [("text", .text (Utf8.decodeLossy p.bytes.toList))]

/-- The payload of a step. -/
def payloadOf (j : Json) : Payload := .ofText (j.textAt "payload")

/-- Nothing, whatever the value. -/
def writeNull {α : Type} (_ : α) : Json := .null

end ComputeExchange.Lab
