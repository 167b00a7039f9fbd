import ComputeExchange.Dispatch.Service
import ComputeExchange.Query.Client
import ComputeExchange.Registry.Engine
import ComputeExchange.Store.Memory
import ComputeExchange.Proofs.Bus.Delivery
import ComputeExchange.Proofs.Bus.Subjects
import ComputeExchange.Proofs.Bus.Wire

/-!
# Desks

A desk answers over the bus what its store lists: jobs or providers.  It takes one message after
another from its subscription and answers it from the store as it finds it at this turn
(`Desk.step_handler`, `Desk.calls_attend`).  What one side writes is what the other reads, be it a
filter (`Desk.reply?_ofJson`) or an answer (`Desk.result_ofJson`).
-/

namespace ComputeExchange

open Program MemoryBus

/-- A store as it is found at a turn: in some state, or failing. -/
abbrev Found : Type := Except StoreError MemoryStore

/-- What can be listed over the bus. -/
inductive Desk where
  | jobs
  | nodes
  deriving DecidableEq

namespace Desk

/-! ### What is asked and answered -/

/-- What may be asked of a listing. -/
abbrev Filter : Desk → Type
  | jobs => JobFilter
  | nodes => NodeFilter

/-- A row of a listing. -/
abbrev Row : Desk → Type
  | jobs => Job
  | nodes => Provider

/-- The answer of a listing. -/
abbrev Response : Desk → Type
  | jobs => JobsResponse
  | nodes => NodesResponse

/-- The subject on which a listing is asked. -/
def subject : Desk → String
  | jobs => Subject.jobsQuery
  | nodes => Subject.nodesQuery

lemma subject_inj {d d' : Desk} : d.subject = d'.subject ↔ d = d' := by
  cases d <;> cases d' <;> decide

/-- A desk gets exactly what is published to its subject. -/
lemma isMatch_subject (d : Desk) {s : String} :
    Subject.isMatch d.subject s = true ↔ s = d.subject :=
  Subject.isMatch_iff_eq (by cases d <;> exact ⟨by decide, by decide⟩)

lemma not_isBelow_subject (d : Desk) : ¬ Subject.IsBelow "_INBOX" d.subject := fun h => by
  have hprefix := h.isPrefix
  cases d <;> exact absurd hprefix (by decide)

/-- The rows of an answer. -/
def rows : (d : Desk) → d.Response → List d.Row
  | jobs, r => r.jobs
  | nodes, r => r.nodes

/-- How many rows an answer says it has. -/
def count : (d : Desk) → d.Response → UInt64
  | jobs, r => r.count
  | nodes, r => r.count

/-- The answer with some rows. -/
def ofRows : (d : Desk) → List d.Row → d.Response
  | jobs, rows => .ofRows rows
  | nodes, rows => .ofRows rows

/-- What a store lists as it is found. -/
def stored (found : Found) : (d : Desk) → d.Filter → Except StoreError (List d.Row)
  | jobs, f => found.bind fun s => (s.perform (.listJobs f)).1
  | nodes, f => found.bind fun s => (s.perform (.listActiveProviders f)).1

/-- A filter as JSON. -/
def writeFilter : (d : Desk) → d.Filter → Json
  | jobs, f => f.toJson
  | nodes, f => f.toJson

/-- The filter a JSON value stands for. -/
def readFilter? : (d : Desk) → Json → Option d.Filter
  | jobs, j => JobFilter.ofJson? j
  | nodes, j => NodeFilter.ofJson? j

/-- An answer as JSON. -/
def writeResponse : (d : Desk) → d.Response → Json
  | jobs, r => r.toJson
  | nodes, r => r.toJson

/-- The answer a JSON value stands for. -/
def readResponse? : (d : Desk) → Json → Option d.Response
  | jobs, j => JobsResponse.ofJson? j
  | nodes, j => NodesResponse.ofJson? j

lemma readFilter?_writeFilter (d : Desk) (f : d.Filter) :
    d.readFilter? (d.writeFilter f) = some f := by
  cases d with
  | jobs => exact JobFilter.ofJson?_toJson f
  | nodes => exact NodeFilter.ofJson?_toJson f

lemma readResponse?_writeResponse (d : Desk) (r : d.Response) :
    d.readResponse? (d.writeResponse r) = some r := by
  cases d with
  | jobs => exact JobsResponse.ofJson?_toJson r
  | nodes => exact NodesResponse.ofJson?_toJson r

lemma rows_ofRows (d : Desk) (rows : List d.Row) : d.rows (d.ofRows rows) = rows := by
  cases d <;> rfl

/-- A page has no more rows than the greatest limit. -/
lemma length_cut_le {α : Type} (limit offset : Option Int64) (rows : List α) :
    ((Page.resolve limit offset).cut rows).length ≤ 1000 := by
  have hdefault : Page.defaultLimit ≤ Page.greatestLimit := by decide
  have hlimit : (Page.resolve limit offset).limit ≤ Page.greatestLimit := by
    cases limit with
    | none => exact hdefault
    | some n =>
      simp only [Page.resolve]
      split_ifs
      · exact Std.min_le_right
      · exact hdefault
  have hbound : (Page.resolve limit offset).limit.toInt ≤ 1000 := Int64.le_iff_toInt_le.mp hlimit
  rw [Page.cut, List.length_take]
  omega

/-- An answer counts its rows, as a page has few enough of them. -/
lemma count_ofRows {d : Desk} {found : Found} {f : d.Filter}
    {rows : List d.Row} (h : d.stored found f = .ok rows) :
    (d.count (d.ofRows rows)).toNat = rows.length := by
  have hfew : rows.length ≤ 1000 := by
    cases found with
    | error e => cases d <;> cases h
    | ok s =>
      cases d with
      | jobs =>
        simp only [stored, MemoryStore.perform, Except.bind] at h
        split_ifs at h
        cases h
        exact length_cut_le _ _ _
      | nodes =>
        simp only [stored, MemoryStore.perform, Except.bind] at h
        split_ifs at h
        cases h
        exact length_cut_le _ _ _
  cases d <;> exact UInt64.toNat_ofNat_of_lt' (by change _ < 18446744073709551616; omega)

/-! ### Asking -/

/-- A client asks a listing. -/
def ask {m : Type → Type} [Monad m] (client : QueryClient m) :
    (d : Desk) → d.Filter → m (Except QueryError d.Response)
  | jobs, f => client.jobs f
  | nodes, f => client.nodes f

/-- What a client makes of the result of its request. -/
def result (d : Desk) : Except BusError Payload → Except QueryError d.Response
  | .error _ => .error .failed
  | .ok reply =>
    match reply.json?.bind d.readResponse? with
    | some response => .ok response
    | none => .error .failed

/-- A client makes one request, and makes something of its result. -/
lemma ask_eq (d : Desk) (wait : Nat) (f : d.Filter) :
    d.ask ⟨BusAccess.asking.bus, wait⟩ f =
      BusAccess.asking.request d.subject (.ofJson (d.writeFilter f)) wait >>=
        fun reply => pure (d.result reply) := by
  have hrequest : d.ask ⟨BusAccess.asking.bus, wait⟩ f =
      QueryClient.request ⟨BusAccess.asking.bus, wait⟩ d.subject (.ok (d.writeFilter f))
        d.readResponse? := by
    cases d <;> rfl
  rw [hrequest]
  refine congrArg (Program.bind _) (funext fun reply => ?_)
  cases reply with
  | error e => rfl
  | ok reply =>
    simp only [result]
    cases reply.json?.bind d.readResponse? <;> rfl

/-- An answer is read back from the reply that carries it. -/
lemma result_ofJson (d : Desk) (r : d.Response) :
    d.result (.ok (.ofJson (d.writeResponse r))) = .ok r := by
  simp only [result, Payload.json?_ofJson, Option.bind_some, readResponse?_writeResponse]

/-! ### Answering -/

/-- A store as it is found, asked for a listing. -/
def storeAt (found : Found) : Store (Program BusCall.Answer) where
  perform c := pure (found.bind fun s => (s.perform c).1)

/-- The answer that is published to a message, if there is one. -/
def reply? (d : Desk) (found : Found) (message : Message) :
    Option Message :=
  match message.reply, message.payload.json?.bind d.readFilter? with
  | some reply, some f =>
    match d.stored found f with
    | .ok rows => some ⟨reply, none, .ofJson (d.writeResponse (d.ofRows rows))⟩
    | .error _ => none
  | _, _ => none

variable (dispatcher : Dispatcher (Program BusCall.Answer))
  (registry : Registry (Program BusCall.Answer))

/-- What a desk answers with when it finds its store so. -/
def handler (found : Found) :
    (d : Desk) → QueryHandler (Program BusCall.Answer) d.Filter
  | jobs => { dispatcher with store := storeAt found }.jobsQuery
  | nodes => { registry with store := storeAt found }.nodesQuery

lemma decode_handler (d : Desk) (found : Found) :
    (d.handler dispatcher registry found).decode = d.readFilter? := by
  cases d <;> rfl

variable {d : Desk} {found : Found} {f : d.Filter}

/-- A desk answers with what its store lists. -/
lemma answer_of_ok {rows : List d.Row} (h : d.stored found f = .ok rows) :
    (d.handler dispatcher registry found).answer f =
      pure (.ok (d.writeResponse (d.ofRows rows))) := by
  cases d with
  | jobs =>
    have hperform : (storeAt found).perform (.listJobs f) = pure (.ok rows) := congrArg pure h
    simp only [handler, Dispatcher.jobsQuery, Dispatcher.listJobs, hperform]
    rfl
  | nodes =>
    have hperform : (storeAt found).perform (.listActiveProviders f) = pure (.ok rows) :=
      congrArg pure h
    simp only [handler, Registry.nodesQuery, Registry.listActive, hperform]
    rfl

/-- A desk does not answer if its store fails. -/
lemma answer_of_error {e : StoreError} (h : d.stored found f = .error e) :
    ∃ cause, (d.handler dispatcher registry found).answer f = pure (.error cause) := by
  cases d with
  | jobs =>
    have hperform : (storeAt found).perform (.listJobs f) = pure (.error e) := congrArg pure h
    simp only [handler, Dispatcher.jobsQuery, Dispatcher.listJobs, hperform]
    exact ⟨_, rfl⟩
  | nodes =>
    have hperform : (storeAt found).perform (.listActiveProviders f) = pure (.error e) :=
      congrArg pure h
    simp only [handler, Registry.nodesQuery, Registry.listActive, hperform]
    exact ⟨_, rfl⟩

/-- A desk publishes the answer to a message, if there is one, and goes on. -/
lemma step_handler (message : Message) :
    (d.handler dispatcher registry found).step BusAccess.asking.bus (.message message) =
      match d.reply? found message with
      | some answer => Program.call (.publish answer) fun _ => pure true
      | none => pure true := by
  obtain ⟨subject, reply, payload⟩ := message
  simp only [QueryHandler.step, QueryHandler.respond, reply?, decode_handler]
  cases reply with
  | none => rfl
  | some reply =>
    cases payload.json?.bind d.readFilter? with
    | none => rfl
    | some f =>
      cases hstored : d.stored found f with
      | ok rows =>
        simp only [answer_of_ok dispatcher registry hstored, hstored]
        rfl
      | error e =>
        obtain ⟨cause, hanswer⟩ := answer_of_error dispatcher registry hstored
        simp only [hanswer, hstored]
        rfl

/-- Deals with one message after another.  A turn at which nothing waits is passed over. -/
def serve (d : Desk) (id : Nat) : List Found →
    Program BusCall.Answer Unit
  | [] => pure ()
  | found :: turns => do
    match ← Program.ask (BusCall.take id) with
    | none => d.serve id turns
    | some message =>
      if ← (d.handler dispatcher registry found).step BusAccess.asking.bus (.message message) then
        d.serve id turns

/-- Subscribes to the subject of a desk and deals with what comes, as the store is found at each
turn. -/
def attend (d : Desk) (turns : List Found) :
    Program BusCall.Answer Unit := do
  let id ← Program.ask (BusCall.subscribe d.subject)
  d.serve dispatcher registry id turns

/-- A desk that answers a message publishes the answer and goes on to its next turn. -/
lemma reaches_serve_of_some {message reply : Message} (h : d.reply? found message = some reply)
    (id : Nat) (turns : List Found) (sent : Except BusError Nat) :
    Reaches (d.serve dispatcher registry id (found :: turns))
      [⟨.take id, some message⟩, ⟨.publish reply, sent⟩]
      (d.serve dispatcher registry id turns) := by
  refine Reaches.call (A := BusCall.Answer) (q := .take id) (some message) ?_
  change Reaches (Program.bind ((d.handler dispatcher registry found).step BusAccess.asking.bus
    (.message message)) _) _ _
  rw [step_handler, h]
  exact Reaches.call (A := BusCall.Answer) (q := .publish reply) sent (.here _)

/-- A desk that does not answer a message goes on to its next turn. -/
lemma reaches_serve_of_none {message : Message} (h : d.reply? found message = none) (id : Nat)
    (turns : List Found) :
    Reaches (d.serve dispatcher registry id (found :: turns)) [⟨.take id, some message⟩]
      (d.serve dispatcher registry id turns) := by
  refine Reaches.call (A := BusCall.Answer) (q := .take id) (some message) ?_
  change Reaches (Program.bind ((d.handler dispatcher registry found).step BusAccess.asking.bus
    (.message message)) _) _ _
  rw [step_handler, h]
  exact .here _

/-! ### Turns -/

/-- What a desk calls next, by how it finds its store at its turns and what it has called. -/
inductive Turns (d : Desk) (id : Nat) : List Found → BusTrace → BusCall → Prop where
  | takes (found : Found) (turns : List Found) : Turns d id (found :: turns) [] (.take id)
  | replies {found : Found} {message reply : Message} (turns : List Found)
      (hreply : d.reply? found message = some reply) :
      Turns d id (found :: turns) [⟨.take id, some message⟩] (.publish reply)
  | idle (found : Found) {turns : List Found} {t : BusTrace} {q : BusCall}
      (hrest : Turns d id turns t q) : Turns d id (found :: turns) (⟨.take id, none⟩ :: t) q
  | silent {found : Found} {message : Message} {turns : List Found} {t : BusTrace} {q : BusCall}
      (hreply : d.reply? found message = none) (hrest : Turns d id turns t q) :
      Turns d id (found :: turns) (⟨.take id, some message⟩ :: t) q
  | replied {found : Found} {message reply : Message} (sent : Except BusError Nat)
      {turns : List Found} {t : BusTrace} {q : BusCall}
      (hreply : d.reply? found message = some reply) (hrest : Turns d id turns t q) :
      Turns d id (found :: turns) (⟨.take id, some message⟩ :: ⟨.publish reply, sent⟩ :: t) q

/-- A desk takes a message and publishes its answer, if there is one, at every turn. -/
theorem turns_of_calls_serve {id : Nat} {turns : List Found}
    {t : BusTrace} {q : BusCall} (h : (d.serve dispatcher registry id turns).Calls t q) :
    Turns d id turns t q := by
  induction turns generalizing t with
  | nil => exact absurd h not_calls_pure
  | cons found turns ih =>
    obtain ⟨rfl, rfl⟩ | ⟨answer, t₁, rfl, h₁⟩ := calls_call.mp h
    · exact .takes found turns
    cases answer with
    | none => exact .idle found (ih h₁)
    | some message =>
      change Calls (Program.bind ((d.handler dispatcher registry found).step BusAccess.asking.bus
        (.message message)) _) t₁ q at h₁
      rw [step_handler] at h₁
      cases hreply : d.reply? found message with
      | none =>
        rw [hreply] at h₁
        exact .silent hreply (ih h₁)
      | some reply =>
        rw [hreply] at h₁
        obtain ⟨rfl, rfl⟩ | ⟨sent, t₂, rfl, h₂⟩ := calls_call.mp h₁
        · exact .replies turns hreply
        · exact .replied sent hreply (ih h₂)

/-- How many turns a desk has begun. -/
def turnsOf (t : BusTrace) : Nat :=
  t.countP fun e => match e with
    | ⟨.take _, _⟩ => true
    | _ => false

@[simp] lemma turnsOf_nil : turnsOf [] = 0 := rfl

@[simp] lemma turnsOf_subscribe (pattern : String) (id : Nat) (t : BusTrace) :
    turnsOf (⟨.subscribe pattern, id⟩ :: t) = turnsOf t :=
  List.countP_cons_of_neg Bool.false_ne_true

@[simp] lemma turnsOf_take (id : Nat) (answer : Option Message) (t : BusTrace) :
    turnsOf (⟨.take id, answer⟩ :: t) = turnsOf t + 1 :=
  List.countP_cons_of_pos rfl

@[simp] lemma turnsOf_publish (message : Message) (sent : Except BusError Nat) (t : BusTrace) :
    turnsOf (⟨.publish message, sent⟩ :: t) = turnsOf t :=
  List.countP_cons_of_neg Bool.false_ne_true

section Turns

variable {id : Nat} {turns : List Found} {t : BusTrace} {q : BusCall}

/-- A desk only takes from its subscription, and publishes. -/
lemma Turns.calls (h : Turns d id turns t q) : q = .take id ∨ ∃ reply, q = .publish reply := by
  induction h with
  | takes found turns => exact Or.inl rfl
  | @replies found message reply turns hreply => exact Or.inr ⟨reply, rfl⟩
  | idle _ _ ih => exact ih
  | silent _ _ ih => exact ih
  | replied _ _ _ ih => exact ih

/-- A desk publishes only the answer to the message that it has just taken. -/
lemma Turns.publish {reply : Message} (h : Turns d id turns t (.publish reply)) :
    ∃ t' message found, t = t' ++ [⟨.take id, some message⟩] ∧ turns[turnsOf t']? = some found ∧
      d.reply? found message = some reply := by
  generalize hq : BusCall.publish reply = q at h
  induction h with
  | takes found turns => cases hq
  | @replies found message reply' turns hreply =>
    obtain rfl := BusCall.publish.inj hq
    exact ⟨[], message, found, rfl, rfl, hreply⟩
  | idle found hrest ih =>
    obtain ⟨t', message, found', rfl, hfound, hreply⟩ := ih hq
    exact ⟨⟨.take id, none⟩ :: t', message, found', rfl, by simpa using hfound, hreply⟩
  | @silent found message₀ turns t q hsilent hrest ih =>
    obtain ⟨t', message, found', rfl, hfound, hreply⟩ := ih hq
    exact ⟨⟨.take id, some message₀⟩ :: t', message, found', rfl, by simpa using hfound, hreply⟩
  | @replied found message₀ reply₀ sent turns t q hreplied hrest ih =>
    obtain ⟨t', message, found', rfl, hfound, hreply⟩ := ih hq
    exact ⟨⟨.take id, some message₀⟩ :: ⟨.publish reply₀, sent⟩ :: t', message, found', rfl,
      by simpa using hfound, hreply⟩

/-- A desk that has just taken a message to which there is an answer publishes the answer. -/
lemma Turns.answers {t' : BusTrace} {message reply : Message}
    {found : Found}
    (h : Turns d id turns (t' ++ [⟨.take id, some message⟩]) q)
    (hfound : turns[turnsOf t']? = some found) (hreply : d.reply? found message = some reply) :
    q = .publish reply := by
  generalize ht : t' ++ [(⟨.take id, some message⟩ : Event BusCall.Answer)] = t at h
  induction h generalizing t' with
  | takes found turns => simp at ht
  | @replies found₀ message₀ reply₀ turns hreply₀ =>
    cases t' with
    | nil =>
      obtain rfl : message = message₀ := by simpa using ht
      obtain rfl : found₀ = found := by simpa using hfound
      rw [Option.some.inj (hreply₀.symm.trans hreply)]
    | cons e t' => simp at ht
  | idle found₀ hrest ih =>
    cases t' with
    | nil => simp at ht
    | cons e t' =>
      obtain ⟨rfl, rfl⟩ := List.cons.inj ht
      exact ih (by simpa using hfound) rfl
  | @silent found₀ message₀ turns t q hsilent hrest ih =>
    cases t' with
    | nil =>
      obtain ⟨rfl, -⟩ : message = message₀ ∧ [] = t := by simpa using ht
      obtain rfl : found₀ = found := by simpa using hfound
      cases hsilent.symm.trans hreply
    | cons e t' =>
      obtain ⟨rfl, rfl⟩ := List.cons.inj ht
      exact ih (by simpa using hfound) rfl
  | @replied found₀ message₀ reply₀ sent turns t q hreplied hrest ih =>
    cases t' with
    | nil => simp at ht
    | cons e t' =>
      obtain ⟨rfl, hlast⟩ := List.cons.inj ht
      cases t' with
      | nil => simp at hlast
      | cons e t' =>
        obtain ⟨rfl, rfl⟩ := List.cons.inj hlast
        exact ih (by simpa using hfound) rfl

end Turns

/-- A desk subscribes, and then goes from turn to turn. -/
theorem calls_attend {turns : List Found} {t : BusTrace} {q : BusCall}
    (h : (d.attend dispatcher registry turns).Calls t q) :
    t = [] ∧ q = .subscribe d.subject ∨
      ∃ id t', t = ⟨.subscribe d.subject, id⟩ :: t' ∧ Turns d id turns t' q := by
  obtain ⟨rfl, rfl⟩ | ⟨id, t', rfl, h'⟩ := calls_call.mp h
  · exact Or.inl ⟨rfl, rfl⟩
  · exact Or.inr ⟨id, t', rfl, turns_of_calls_serve dispatcher registry h'⟩

/-- What is published to a message is the answer to the filter that it carries, at the subject that
it names. -/
lemma reply?_ofJson {inbox : String} {rows : List d.Row} (h : d.stored found f = .ok rows) :
    d.reply? found ⟨d.subject, some inbox, .ofJson (d.writeFilter f)⟩ =
      some ⟨inbox, none, .ofJson (d.writeResponse (d.ofRows rows))⟩ := by
  simp only [reply?, Payload.json?_ofJson, Option.bind_some, readFilter?_writeFilter, h]

/-- Nothing is published to a message if the store fails. -/
lemma reply?_of_error {inbox : String} {e : StoreError} (h : d.stored found f = .error e) :
    d.reply? found ⟨d.subject, some inbox, .ofJson (d.writeFilter f)⟩ = none := by
  simp only [reply?, Payload.json?_ofJson, Option.bind_some, readFilter?_writeFilter, h]

/-- The answer to a message is published to the subject that it names, and wants no reply. -/
lemma reply?_eq_some {message reply : Message} (h : d.reply? found message = some reply) :
    message.reply = some reply.subject ∧ reply.reply = none := by
  unfold reply? at h
  split at h
  · rename_i hsubject _
    split at h
    · obtain rfl := Option.some.inj h
      exact ⟨hsubject, rfl⟩
    · cases h
  · cases h

end Desk

end ComputeExchange
