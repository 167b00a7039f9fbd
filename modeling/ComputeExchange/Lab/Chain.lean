import ComputeExchange.Chain.Node

/-!
# Chains on demand

A node of a chain with a log, answers and transactions that are set beforehand, and a plain chain of
numbered events for the synchronizer alone.
-/

namespace ComputeExchange.Lab

/-- A request to a node, as far as it is remembered. -/
inductive NodeRequest where
  | head
  | logs (address : Address) (topic : Word) (first last : UInt64)
  | call (to_ : Address) (data : List UInt8)

/-- What a transaction comes to. -/
inductive TxOutcome where
  /-- It is refused. -/
  | refused (text : String)
  | mined (block : Option UInt64) (isSuccess : Bool) (logs : List Log)

/-- A node of a chain. -/
structure ScriptedNode where
  head : UInt64
  log : List Log
  /-- What calls answer, by their data. -/
  calls : List (List UInt8 × List UInt8)
  /-- How many of the next requests are lost on the way. -/
  drops : Nat
  /-- How many of the requests after those are answered with an error. -/
  errors : Nat
  /-- The requests not yet asked for; `true` marks those that were lost. -/
  requests : List (NodeRequest × Bool)
  /-- What the next transactions come to. -/
  outcomes : List TxOutcome
  /-- The accepted transactions. -/
  accepted : List (Address × List UInt8)
  deriving Inhabited

namespace ScriptedNode

/-- A node without blocks. -/
def empty : ScriptedNode := ⟨0, [], [], 0, 0, [], [], []⟩

/-- Adds an entry to the log; its block is mined. -/
def addLog (n : ScriptedNode) (entry : Log) : ScriptedNode :=
  { n with log := n.log ++ [entry], head := max n.head entry.blockNumber }

/-- Takes note of a request, and decides whether it fails. -/
def receive (n : ScriptedNode) (request : NodeRequest) : Option Cause × ScriptedNode :=
  if 0 < n.drops then
    (some (Cause.ofText "error sending request"),
      { n with drops := n.drops - 1, requests := n.requests ++ [(request, true)] })
  else
    let n := { n with requests := n.requests ++ [(request, false)] }
    if 0 < n.errors then
      (some (Cause.ofText "server returned an error response"), { n with errors := n.errors - 1 })
    else (none, n)

/-- Answers a request unless it fails. -/
def answer {α : Type} (n : ScriptedNode) (request : NodeRequest)
    (value : ScriptedNode → Except Cause α) : Except Cause α × ScriptedNode :=
  match n.receive request with
  | (some cause, n) => (.error cause, n)
  | (none, n) => (value n, n)

/-- The number of the latest block. -/
def askHead (n : ScriptedNode) : Except Cause UInt64 × ScriptedNode :=
  n.answer .head fun n => .ok n.head

/-- Whether an entry is asked for. -/
def isWanted (address : Address) (topic : Word) (first last : UInt64) (entry : Log) : Bool :=
  entry.address == address && entry.topics.head? == some topic && first ≤ entry.blockNumber &&
    entry.blockNumber ≤ last

/-- The entries of the log that are asked for. -/
def askLogs (n : ScriptedNode) (address : Address) (topic : Word) (first last : UInt64) :
    Except Cause (List Log) × ScriptedNode :=
  n.answer (.logs address topic first last) fun n =>
    .ok (n.log.filter (isWanted address topic first last))

/-- What a call answers; one without an answer fails. -/
def askCall (n : ScriptedNode) (to_ : Address) (data : List UInt8) :
    Except Cause (List UInt8) × ScriptedNode :=
  n.answer (.call to_ data) fun n =>
    match n.calls.lookup data with
    | some result => .ok result
    | none => .error (Cause.ofText "execution reverted")

/-- Takes a transaction. -/
def send (n : ScriptedNode) (to_ : Address) (data : List UInt8) :
    Except Cause Receipt × ScriptedNode :=
  if 0 < n.drops then
    (.error (Cause.ofText "error sending request"), { n with drops := n.drops - 1 })
  else if 0 < n.errors then
    (.error (Cause.ofText "server returned an error response"), { n with errors := n.errors - 1 })
  else
    let accept (block : Option UInt64) (isSuccess : Bool) (logs : List Log) (n : ScriptedNode) :
        Except Cause Receipt × ScriptedNode :=
      let hash := Bytes.hex (Word.ofNat (n.accepted.length + 1))
      (.ok ⟨hash, block, isSuccess, logs⟩, { n with accepted := n.accepted ++ [(to_, data)] })
    match n.outcomes with
    | [] => accept none true [] n
    | .refused text :: rest => (.error (Cause.ofText text), { n with outcomes := rest })
    | .mined block isSuccess logs :: rest => accept block isSuccess logs { n with outcomes := rest }

end ScriptedNode

/-! ### A plain chain -/

/-- The kinds of event of the plain chain. -/
inductive PlainKind where
  | created
  | confirmed
  | heartbeat
  deriving DecidableEq

namespace PlainKind

/-- The name of a kind. -/
def label : PlainKind → String
  | created => "Created"
  | confirmed => "Confirmed"
  | heartbeat => "Heartbeat"

/-- The kind with a name. -/
def ofLabel? (s : String) : Option PlainKind :=
  [created, confirmed, heartbeat].find? fun k => k.label == s

end PlainKind

/-- An event of the plain chain. -/
structure PlainEvent where
  kind : PlainKind
  block : UInt64
  id : Nat

/-- A chain of numbered events, with a recorder that takes them. -/
structure PlainChain where
  head : UInt64
  isHeadFailing : Bool
  events : List PlainEvent
  /-- Where fetching fails. -/
  failing : List (PlainKind × UInt64)
  /-- What the recorder leaves out, and what it wants once more. -/
  skipped : List Nat
  retried : List Nat
  fetches : List (PlainKind × UInt64 × UInt64)
  seen : List Nat
  deriving Inhabited

namespace PlainChain

/-- A chain without blocks. -/
def empty : PlainChain := ⟨0, false, [], [], [], [], [], []⟩

/-- The number of the latest block. -/
def askHead (c : PlainChain) : Except Cause UInt64 × PlainChain :=
  (if c.isHeadFailing then .error (Cause.ofText "rpc unreachable") else .ok c.head, c)

/-- The events of a kind in some blocks. -/
def fetch (c : PlainChain) (kind : PlainKind) (first last : UInt64) :
    Except Cause (List PlainEvent) × PlainChain :=
  let c := { c with fetches := c.fetches ++ [(kind, first, last)] }
  let within (block : UInt64) : Bool := first ≤ block && block ≤ last
  (if c.failing.any fun (k, block) => k == kind && within block then
      .error (Cause.ofText "log query failed")
    else .ok (c.events.filter fun e => e.kind == kind && within e.block), c)

/-- Takes an event. -/
def handle (c : PlainChain) (e : PlainEvent) : Except HandleError Unit × PlainChain :=
  (if c.retried.contains e.id then .error (.retry (Cause.ofText s!"store down at {e.id}"))
    else if c.skipped.contains e.id then
      .error (.skip (Cause.ofText s!"handler rejected {e.id}"))
    else .ok (),
    { c with seen := c.seen ++ [e.id] })

end PlainChain

end ComputeExchange.Lab
