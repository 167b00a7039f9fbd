import ComputeExchange.Lab.Scenario.Basic

/-!
# Steps on the store

Calls of the store, and the faults they are to meet.
-/

namespace ComputeExchange.Lab.Scenario

/-- The call that a step names, if it names one. -/
def callOf (name : String) (j : Json) (now : Timestamp) : Option (Except StoreError StoreCall) :=
  let at_ := timeAt j "at" now
  match name with
  | "insert_job" => some (.ok (.insertJob (newJobOf j) at_))
  | "get_job" => some (.ok (.getJob (j.textAt "id")))
  | "transition_job" => some do
    let source ← statusAt j "from"
    let status ← statusAt j "status"
    return .transitionJob (j.textAt "id") source ⟨status, at_, j.text? "output", j.text? "message"⟩
  | "list_jobs" => some (.ok (.listJobs (filterAt JobFilter.ofJson? j)))
  | "upsert_provider" => some (.ok (.upsertProvider (registrationOf j) at_))
  | "touch_provider" => some (.ok (.touchProvider (j.textAt "wallet") at_))
  | "mark_offline_before" => some (.ok (.markOfflineBefore at_))
  | "get_provider" => some (.ok (.getProvider (j.textAt "wallet")))
  | "list_active_providers" => some (.ok (.listActiveProviders (filterAt NodeFilter.ofJson? j)))
  | "record_settlement" => some (.ok
      (.recordSettlement (j.textAt "wallet") (((j.at_ "count").asInt64).getD 0) at_))
  | "load_cursor" => some (.ok (.loadCursor (j.textAt "service")))
  | "save_cursor" => some (.ok (.saveCursor (j.textAt "service") (j.wordOr "block" 0)))
  | _ => none

/-- What a call has answered, as JSON. -/
def answerJson : (c : StoreCall) → c.Answer → Json
  | .insertJob .., job => job.toJson
  | .getJob _, job => Json.orNull Job.toJson job
  | .transitionJob .., job => Json.orNull Job.toJson job
  | .listJobs _, jobs => .array (jobs.map Job.toJson)
  | .upsertProvider .., provider => provider.toJson
  | .touchProvider .., known => .bool known
  | .markOfflineBefore _, count => .nat count
  | .getProvider _, provider => Json.orNull Provider.toJson provider
  | .listActiveProviders _, providers => .array (providers.map Provider.toJson)
  | .recordSettlement .., known => .bool known
  | .loadCursor _, block => Json.orNull .ofUInt64 block
  | .saveCursor .., _ => .null

/-- Whether a call is about cursors. -/
def isCursorCall (c : StoreCall) : Bool :=
  match c with
  | .loadCursor _ => true
  | .saveCursor .. => true
  | _ => false

/-- Every kind of call. -/
def callKinds : List StoreCall.Kind :=
  [.insertJob, .getJob, .transitionJob, .listJobs, .upsertProvider, .touchProvider,
    .markOfflineBefore, .getProvider, .listActiveProviders, .recordSettlement, .loadCursor,
    .saveCursor]

/-- The fault with a name. -/
def faultOf (name : String) : Fault :=
  let database (e : DatabaseError) : Fault := .fail (.database e)
  match name with
  | "unavailable" => .fail .unavailable
  | "duplicate" => .duplicate
  | "not_found" => .notFound
  | "invalid" => .fail (StoreError.unknownStatus "paused")
  | "nothing" => .nothing
  | "db_row_not_found" => database .rowNotFound
  | "db_column_not_found" => database (.columnMissing "status")
  | "db_pool_timed_out" => database .poolTimedOut
  | "db_pool_closed" => database .poolClosed
  | "db_worker_crashed" => database .workerCrashed
  | "db_protocol" => database (.protocol "bad frame")
  | "db_io" => database (.connection "socket closed")
  | "db_tls" => database (.encryption "handshake failed")
  | _ => .pass

/-- A store that refuses every call from now on, or no longer. -/
def setUnavailable (value : Bool) (s : FaultyStore) : FaultyStore :=
  { s with store := { s.store with isUnavailable := value } }

/-- Steps that call the store. -/
def storeCallStep (name : String) (j : Json) : Option Step :=
  match callOf name j default with
  | none => none
  | some _ => some do
    match callOf name j (← get).world.wall with
    | none => return .unknown
    | some (.error e) => return Reply.ofExcept id (.error e)
    | some (.ok c) =>
      let store := if isCursorCall c then Proc.cursorStore else Proc.mainStore
      Step.attempt (answerJson c) (store.perform c)

/-- Steps that prepare the store. -/
def storeStep (name : String) (j : Json) : Option Step :=
  match name with
  | "provider_count" =>
    some (Step.view fun bench => .nat bench.world.store.store.providers.rows.length)
  | "set_last_seen" => some (Step.changeWorld fun w =>
      let store := w.store.store.setLastSeen (j.textAt "wallet") (timeAt j "at" w.wall)
      { w with store := { w.store with store := store } })
  | "set_unavailable" => some (Step.changeWorld fun w =>
      { w with store := setUnavailable (j.flag "value") w.store })
  | "set_cursors_unavailable" => some (Step.changeWorld fun w =>
      w.updateCursors (setUnavailable (j.flag "value")))
  | "fault" => some do
    match callKinds.find? fun k => k.name == j.textAt "call" with
    | none => return .unknown
    | some kind =>
      let add (s : FaultyStore) : FaultyStore :=
        s.addFaults kind (faultOf (j.textAt "kind")) (j.natOr "times" 1)
      Step.changeWorld fun w =>
        if j.flag "cursors" then w.updateCursors add else { w with store := add w.store }
  | _ => storeCallStep name j

end ComputeExchange.Lab.Scenario
