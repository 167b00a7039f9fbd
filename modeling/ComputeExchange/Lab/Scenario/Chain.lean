import ComputeExchange.Config.SigningKey
import ComputeExchange.Lab.Scenario.Basic

/-!
# Steps on the chains

What the nodes hold and how they fail, what they have been asked, and transactions.
-/

namespace ComputeExchange.Lab.Scenario

/-- The chain that a step is about. -/
def chainOf (j : Json) : ChainName :=
  if j.textAt "chain" = "reputation" then .reputation else .payment

/-- The node of a chain. -/
def nodeOf (chain : ChainName) (w : World) : ScriptedNode :=
  match chain with
  | .payment => w.payment
  | .reputation => w.reputation

/-- Changes the node of a chain. -/
def changeNode (chain : ChainName) (f : ScriptedNode → ScriptedNode) (w : World) : World :=
  match chain with
  | .payment => { w with payment := f w.payment }
  | .reputation => { w with reputation := f w.reputation }

/-- What a transaction is to come to. -/
def txOutcomeOf (j : Json) (address : Address) : TxOutcome :=
  match (j.text? "estimate_fails").or (j.text? "send_fails") with
  | some text => .refused text
  | none =>
    .mined (j.word? "block") (!j.flag "revert")
      ((j.list "logs").map fun entry => logOf entry address)

/-- A request as JSON; of one that was lost only the method is told. -/
def requestJson : NodeRequest × Bool → Json
  | (request, isLost) =>
    let (method, details) : String × List (String × Json) :=
      match request with
      | .head => ("eth_blockNumber", [])
      | .logs address topic first last =>
        ("eth_getLogs", [("from", .ofUInt64 first), ("to", .ofUInt64 last),
          ("address", .text address.hex), ("topic0", .text topic.hex)])
      | .call to_ data => ("eth_call", [("to", .text to_.hex), ("data", .text (Hex.text data))])
    .record (("method", .text method) :: if isLost then [("dropped", .bool true)] else details)

/-- The accepted transactions as JSON. -/
def transactionsJson (n : ScriptedNode) : Json :=
  .array (n.accepted.mapIdx fun nonce (to_, data) =>
    .record [("to", .text to_.hex), ("data", .text (Hex.text data)), ("nonce", .nat nonce)])

/-- An event of the registry on one line. -/
def registryLine : RegistryEvent → String
  | .registered e =>
    let r := e.registration
    s!"registered {r.wallet} {r.gpuModel} {r.vram} {e.position.block}"
  | .heartbeat e => s!"heartbeat {e.wallet} {e.timestamp} {e.position.block}"

/-- The events of a kind in some blocks, each on one line. -/
def fetchLines (client : LogClient Proc) (kind : String) (first last : UInt64) :
    Proc (Except Cause (List String)) := do
  match kind with
  | "JobCreated" =>
    let events ← client.escrows.fetch () first last
    return events.map (·.map fun e => s!"{e.job.id} {e.job.provider} {e.position.block}")
  | "JobConfirmed" =>
    let events ← client.confirmations.fetch () first last
    return events.map (·.map fun e => s!"{e.jobId.hex} {e.confirmedAt} {e.position.block}")
  | "NodeRegistered" =>
    let events ← client.registry.fetch .registered first last
    return events.map (·.map registryLine)
  | _ =>
    let events ← client.registry.fetch .heartbeat first last
    return events.map (·.map registryLine)

/-- Steps that set up the nodes; `address` stands for the address of an entry of the log if that is
not given, and `txAddress` in receipts. -/
def nodeSetup (name : String) (j : Json) (address txAddress : Address) : Option (World → World) :=
  let chain := chainOf j
  match name with
  | "node_head" => some (changeNode chain fun n => { n with head := j.wordOr "head" 0 })
  | "node_log" => some (changeNode chain fun n => n.addLog (logOf j address))
  | "node_call" => some (changeNode chain fun n =>
      { n with calls := (bytesAt j "data", bytesAt j "result") :: n.calls })
  | "node_fail" => some (changeNode chain fun n =>
      { n with drops := j.natOr "drops" 0, errors := j.natOr "rpc_errors" 0 })
  | "tx_script" =>
    let chain := if j.has "chain" then chain else .reputation
    some (changeNode chain fun n =>
      { n with outcomes := n.outcomes ++ (j.list "receipts").map fun r => txOutcomeOf r txAddress })
  | _ => none

/-- What a submission has come to, as JSON. -/
def receiptJson (r : SettlementReceipt) : Json :=
  .record [("block_number", Json.orNull .ofUInt64 r.block), ("success", .bool r.isSuccess),
    ("new_job_count", Json.orNull .ofUInt64 r.newCount)]

/-- Steps on the chains. -/
def chainStep (name : String) (j : Json) : Option Step :=
  let chain := chainOf j
  match name with
  | "node_requests" => some do
    let requests := (nodeOf chain (← get).world).requests
    modify fun bench =>
      { bench with world := changeNode chain (fun n => { n with requests := [] }) bench.world }
    return .value (.array (requests.map requestJson))
  | "node_latest" => some (Step.inWorld fun w =>
      Step.attemptPlain "rpc" .ofUInt64 (Proc.logClient (w.site chain)).head)
  | "node_fetch" => some (Step.inWorld fun w =>
      Step.attemptPlain "rpc" (fun lines => .array (lines.map .text))
        (fetchLines (Proc.logClient (w.site chain)) (j.textAt "event") (j.wordOr "from" 0)
          (j.wordOr "to" 0)))
  | "increment_jobs" =>
    if (j.text? "key").any (!SigningKey.isKey ·) then
      some (return .refused "ledger" SigningKey.badKey)
    else some (Step.inWorld fun w => Step.attemptPlain "ledger" receiptJson
        ((Proc.chainLedger w).increment (addressAt j "provider")))
  | "chain_jobs_completed" => some (Step.inWorld fun w => Step.attemptPlain "ledger" .ofUInt64
      ((Proc.chainLedger w).jobsCompleted (addressAt j "provider")))
  | "tx_sent" => some (Step.view fun bench => transactionsJson bench.world.reputation)
  | _ =>
    (nodeSetup name j default default).map fun _ => Step.changeWorld fun w =>
      match nodeSetup name j (w.site chain).contract (Bytes.zero 20) with
      | some change => change w
      | none => w

end ComputeExchange.Lab.Scenario
