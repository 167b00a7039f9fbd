import ComputeExchange.Lab.Scenario.Basic

/-!
# Steps of the engines

Dispatch, the registry and settlement, called by hand.
-/

namespace ComputeExchange.Lab.Scenario

/-- Steps of dispatch. -/
def dispatchStep (name : String) (j : Json) : Option Step :=
  let id_ := j.textAt "id"
  match name with
  | "job_created" => some (Step.attempt Job.toJson (Proc.dispatcher.jobEscrowed (newJobOf j)).run)
  | "handle_job_created" =>
    some (Step.attempt writeNull (Proc.dispatcher.handle ⟨newJobOf j, default⟩))
  | "snapshot" => some do
    match ← Bench.run (Proc.dispatcher.getJob id_).run with
    | none => return ⟨.stuck, []⟩
    | some result =>
      if let .ok job := result then
        modify fun bench => { bench with snapshots := (j.textAt "as", job) :: bench.snapshots }
      return Reply.ofExcept Job.toJson result
  | "dispatch" => some do
    match (← get).snapshots.lookup (j.textAt "snapshot") with
    | none => return .unknown
    | some job => Step.attempt Job.toJson (Proc.dispatcher.deliver job).run
  | "assignment" => some (Step.view fun bench =>
      Json.orNull (fun job => job.assignment.toJson) (bench.snapshots.lookup (j.textAt "snapshot")))
  | "redispatch" => some (Step.attempt Job.toJson (Proc.dispatcher.redispatch id_).run)
  | "status_update" =>
    match statusAt j "status" with
    | .error e => some (return Reply.ofExcept id (.error e))
    | .ok status =>
      let update : JobStatusUpdate := ⟨id_, status, j.text? "output", j.text? "message"⟩
      some (Step.attempt Job.toJson (Proc.dispatcher.applyUpdate update).run)
  | "engine_get_job" => some (Step.attempt Job.toJson (Proc.dispatcher.getJob id_).run)
  | "engine_list_jobs" => some (Step.attempt JobsResponse.toJson
      (Proc.dispatcher.listJobs (filterAt JobFilter.ofJson? j)).run)
  | _ => none

/-- Steps of the registry. -/
def registryStep (name : String) (j : Json) : Option Step :=
  let inRegistry (f : Registry Proc → Step) : Option Step :=
    some (Step.inWorld fun w => f (Proc.registry w))
  match name with
  | "node_registered" =>
    inRegistry fun r => Step.attempt Provider.toJson (r.register (registrationOf j))
  | "handle_registered" => inRegistry fun r =>
      Step.attempt writeNull (r.handle (.registered ⟨registrationOf j, default⟩))
  | "heartbeat" => inRegistry fun r => Step.attempt .bool (r.heartbeat (j.textAt "wallet"))
  | "handle_heartbeat" => inRegistry fun r => Step.attempt writeNull
      (r.handle (.heartbeat ⟨j.textAt "wallet", j.wordOr "timestamp" 0, default⟩))
  | "sweep" => some (Step.inWorld fun w =>
      Step.attempt Json.nat ((Proc.registry w).sweep (timeAt j "at" w.wall)))
  | "list_active_nodes" => inRegistry fun r =>
      Step.attempt NodesResponse.toJson (r.listActive (filterAt NodeFilter.ofJson? j))
  | _ => none

/-- A settlement as JSON. -/
def settlementJson (s : Settlement) : Json :=
  .record [("job_id", .text s.job), ("provider", .text s.provider.checksummed),
    ("tx_hash", .text s.receipt.transaction),
    ("block_number", Json.orNull .ofUInt64 s.receipt.block),
    ("success", .bool s.receipt.isSuccess),
    ("new_job_count", Json.orNull .ofUInt64 s.receipt.newCount)]

/-- What crediting a provider is to come to. -/
def ledgerOutcomeOf (j : Json) : LedgerOutcome :=
  ⟨j.text? "fail", j.flag "revert", j.word? "count", j.word? "block", j.flag "silent"⟩

/-- What a settlement has come to, as JSON. -/
def settledJson : Option (Except SettlementError Settlement) → Reply
  | none => ⟨.stuck, []⟩
  | some result => Reply.ofExcept settlementJson result

/-- Steps of settlement. -/
def settlementStep (name : String) (j : Json) : Option Step :=
  let count : Step := Step.inWorld fun w => Step.attemptPlain "ledger" .ofUInt64
    ((Proc.reputationLedger w).jobsCompleted (addressAt j "provider"))
  match name with
  | "escrow" => some (Step.changeWorld fun w =>
      { w with ledger := w.ledger.escrow (wordAt j "job") (addressAt j "provider") })
  | "settle" => some (Step.inWorld fun w => do
      let reply ← Step.attempt settlementJson ((Proc.settler w).settle (wordAt j "job"))
      return if w.readsChain then reply.shallow else reply)
  | "handle_confirmed" => some (Step.inWorld fun w =>
      Step.attempt writeNull ((Proc.settler w).handle ⟨wordAt j "job", 0, default⟩))
  | "reputation_score" => some count
  | "jobs_completed" => some count
  | "ledger" => some (Step.changeWorld fun w =>
      { w with ledger := { w.ledger with
          isUnreachable := j.flag "unreachable"
          areCountsFailing := j.flag "counts_fail"
          outcomes := w.ledger.outcomes ++ (j.list "outcomes").map ledgerOutcomeOf } })
  | "ledger_trace" => some (Step.view fun bench =>
      .record [("submitted", .nat bench.world.ledger.submitted),
        ("trace", .array (bench.world.ledger.trace.map .text))])
  | _ => none

/-- Settles several jobs at once; what comes of each, in their order. -/
def settleTogether (jobs : List String) : StateM Bench (List Reply) := do
  let bench ← get
  let settler := Proc.settler bench.world
  let start (job : String) : Proc (Except SettlementError Settlement) :=
    settler.settle (Bytes.lastOf 32 ((Hex.ofText? job).getD []))
  let (results, bench) := Bench.runAll Bench.patience (jobs.map start) bench
  set bench
  return results.map settledJson

end ComputeExchange.Lab.Scenario
