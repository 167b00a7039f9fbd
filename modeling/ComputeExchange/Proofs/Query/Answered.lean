import ComputeExchange.Proofs.Bus.Wire
import ComputeExchange.Proofs.Dispatch.Redelivery
import ComputeExchange.Query.Responder

/-!
# Answering what can be answered

A responder takes one message after another.  What its handler says and whether its replies can be
sent is not in its hands, so that both are calls here: `Responder.handler` asks for every answer,
and `Responder.bus` for every publication.

A `Turn` is a message with what was said and done about it, if that was asked for at all.
`Responder.runs_serve` tells the runs of a responder as the turns that it takes until it is told to
end, and `Responder.answers_exactly` reads the published replies off them, turn by turn.
-/

namespace ComputeExchange

open Program
open Dispatcher (Visit waiting askedFor createdJob assignedJob publication)

/-- What a responder asks of its surroundings. -/
inductive ResponderCall (α : Type) : Type where
  | answer (query : α)
  | publish (subject : String) (payload : Payload)
  | request (subject : String) (payload : Payload) (wait : Nat)

/-- What each call is answered with. -/
abbrev ResponderCall.Answer {α : Type} : ResponderCall α → Type
  | .answer _ => Except Cause Json
  | .publish .. => Except BusError Unit
  | .request .. => Except BusError Payload

namespace Responder

variable {α : Type} (decode : Json → Option α)

/-- The calls of a responder with their answers. -/
abbrev Log (α : Type) : Type := Trace (ResponderCall.Answer (α := α))

/-- The handler whose answers are calls. -/
def handler : QueryHandler (Program (ResponderCall.Answer (α := α))) α where
  decode := decode
  answer query := ask (A := ResponderCall.Answer) (.answer query)

/-- The bus whose publications and requests are calls. -/
def bus : Bus (Program (ResponderCall.Answer (α := α))) where
  publish subject payload := ask (A := ResponderCall.Answer) (.publish subject payload)
  request subject payload wait := ask (A := ResponderCall.Answer) (.request subject payload wait)

/-- What a message asks, and where the reply is to go. -/
def query? (message : Message) : Option (String × α) :=
  match message.reply, message.payload.json?.bind decode with
  | some reply, some query => some (reply, query)
  | _, _ => none

/-- A message with what comes of it. -/
structure Turn where
  message : Message
  /-- What the handler says, if it is asked. -/
  answer : Except Cause Json
  /-- What the bus says, if a reply is published. -/
  sent : Except BusError Unit

namespace Turn

/-- The calls of a turn. -/
def calls (u : Turn) : Log α :=
  match query? decode u.message, u.answer with
  | some (reply, query), .ok answer =>
    [⟨.answer query, .ok answer⟩, ⟨.publish reply (.ofJson answer), u.sent⟩]
  | some (_, query), .error cause => [⟨.answer query, .error cause⟩]
  | none, _ => []

/-- The reply of a turn: there is one if the message can be answered, is answered, and the reply is
not refused. -/
def reply? (u : Turn) : Option Message :=
  match query? decode u.message, u.answer, u.sent with
  | some (reply, _), .ok answer, .ok () => some ⟨reply, none, .ofJson answer⟩
  | _, _, _ => none

end Turn

/-- What is published in some calls. -/
def published (t : Log α) : List Message :=
  t.filterMap fun
    | ⟨.publish subject payload, .ok ()⟩ => some ⟨subject, none, payload⟩
    | _ => none

/-- A turn publishes its reply. -/
lemma published_calls (u : Turn) : published (u.calls decode) = (u.reply? decode).toList := by
  obtain ⟨message, answer, sent⟩ := u
  unfold Turn.calls Turn.reply?
  cases query? decode message with
  | none => rfl
  | some asked =>
    cases answer with
    | error cause => rfl
    | ok answer => cases sent <;> rfl

/-- What is published in some turns are their replies, in order. -/
lemma published_turns (turns : List Turn) :
    published (turns.flatMap (·.calls decode)) = turns.filterMap (·.reply? decode) := by
  induction turns with
  | nil => rfl
  | cons u turns ih =>
    rw [List.flatMap_cons, published, List.filterMap_append]
    change published (u.calls decode) ++ published _ = _
    rw [published_calls, ih, List.filterMap_cons]
    cases u.reply? decode <;> rfl

variable {decode}

/-- A responder that can answer a message asks its handler for the answer, publishes it if there is
one, and lets every other message be. -/
lemma respond_eq (message : Message) :
    (handler decode).respond bus message =
      match query? decode message with
      | some (reply, query) =>
        .call (.answer query) fun
          | .ok answer => .call (.publish reply (.ofJson answer)) fun _ => pure ()
          | .error _ => pure ()
      | none => pure () := by
  unfold QueryHandler.respond query?
  change (match message.reply, message.payload.json?.bind decode with
    | some reply, some query => _
    | _, _ => _) = _
  cases message.reply with
  | none => rfl
  | some reply =>
    cases message.payload.json?.bind decode with
    | none => rfl
    | some query =>
      refine congrArg (Program.call _) (funext fun answer => ?_)
      cases answer <;> rfl

/-- What a responder does about a message is a turn. -/
lemma runs_respond {message : Message} {t : Log α} :
    Runs ((handler decode).respond bus message) t () ↔
      ∃ u : Turn, u.message = message ∧ t = u.calls decode := by
  rw [respond_eq]
  constructor
  · intro h
    cases hquery : query? decode message with
    | none =>
      rw [hquery] at h
      obtain ⟨rfl, -⟩ := runs_pure.mp h
      exact ⟨⟨message, .error default, .ok ()⟩, rfl, by simp only [Turn.calls, hquery]⟩
    | some asked =>
      obtain ⟨reply, query⟩ := asked
      rw [hquery] at h
      obtain ⟨answer, t₁, rfl, h₁⟩ := runs_call.mp h
      cases answer with
      | error cause =>
        obtain ⟨rfl, -⟩ := runs_pure.mp h₁
        exact ⟨⟨message, .error cause, .ok ()⟩, rfl, by simp only [Turn.calls, hquery]⟩
      | ok answer =>
        obtain ⟨sent, t₂, rfl, h₂⟩ := runs_call.mp h₁
        obtain ⟨rfl, -⟩ := runs_pure.mp h₂
        exact ⟨⟨message, .ok answer, sent⟩, rfl, by simp only [Turn.calls, hquery]⟩
  · rintro ⟨⟨message, answer, sent⟩, rfl, rfl⟩
    simp only [Turn.calls]
    cases query? decode message with
    | none => exact .here _
    | some asked =>
      cases answer with
      | error cause => exact .call _ (.here _)
      | ok answer => exact .call _ (.call _ (.here _))

/-! ### The whole service -/

/-- A responder ends when its subscription is closed or it is told to stop.  If there is nothing
more to see so far, it waits. -/
inductive Ends : List Arrival → List Arrival → Prop where
  | waits : Ends [] []
  | closed (rest : List Arrival) : Ends (.closed :: rest) rest
  | shutdown (rest : List Arrival) : Ends (.shutdown :: rest) rest

/-- What a responder does about a message comes before what it does about the rest. -/
lemma runs_serve_message {message : Message} {arrivals rest : List Arrival} {t : Log α} :
    Runs ((handler decode).serve bus (.message message :: arrivals)) t rest ↔
      ∃ (u : Turn) (t' : Log α), u.message = message ∧ t = u.calls decode ++ t' ∧
        Runs ((handler decode).serve bus arrivals) t' rest := by
  have hserve : (handler decode).serve bus (.message message :: arrivals) =
      (handler decode).step bus (.message message) >>= fun goesOn =>
        if goesOn then (handler decode).serve bus arrivals else pure arrivals := rfl
  rw [hserve, runs_bind]
  constructor
  · rintro ⟨t₁, goesOn, t₂, rfl, hstep, hrest⟩
    obtain ⟨t₁, ⟨⟩, t₃, rfl, hrespond, hend⟩ := runs_bind.mp hstep
    obtain ⟨rfl, rfl⟩ := runs_pure.mp hend
    obtain ⟨u, rfl, rfl⟩ := runs_respond.mp hrespond
    exact ⟨u, t₂, rfl, by rw [List.append_nil], hrest⟩
  · rintro ⟨u, t₂, rfl, rfl, hrest⟩
    have hrespond : Runs ((handler decode).respond bus u.message) (u.calls decode) () :=
      runs_respond.mpr ⟨u, rfl, rfl⟩
    have hstep : Runs ((handler decode).step bus (.message u.message)) (u.calls decode) true :=
      runs_bind.mpr ⟨_, (), [], (List.append_nil _).symm, hrespond, runs_pure.mpr ⟨rfl, rfl⟩⟩
    exact ⟨_, true, t₂, rfl, hstep, hrest⟩

/-- A responder that is to end makes no more calls. -/
lemma runs_serve_ended {arrivals left rest : List Arrival} {t : Log α} (h : Ends arrivals left) :
    Runs ((handler decode).serve bus arrivals) t rest ↔ t = [] ∧ rest = left := by
  cases h <;> exact runs_pure

/-- The runs of a responder are the turns of the messages that come until it is to end. -/
lemma runs_serve {arrivals rest : List Arrival} {t : Log α} :
    Runs ((handler decode).serve bus arrivals) t rest ↔
      ∃ (turns : List Turn) (left : List Arrival),
        arrivals = turns.map (fun u => .message u.message) ++ left ∧ Ends left rest ∧
          t = turns.flatMap (·.calls decode) := by
  constructor
  · intro h
    induction arrivals generalizing t with
    | nil =>
      obtain ⟨rfl, rfl⟩ := (runs_serve_ended .waits).mp h
      exact ⟨[], [], rfl, .waits, rfl⟩
    | cons arrival arrivals ih =>
      cases arrival with
      | message message =>
        obtain ⟨u, t', rfl, rfl, hrest⟩ := runs_serve_message.mp h
        obtain ⟨turns, left, rfl, hends, rfl⟩ := ih hrest
        exact ⟨u :: turns, left, rfl, hends, rfl⟩
      | closed =>
        obtain ⟨rfl, rfl⟩ := (runs_serve_ended (.closed arrivals)).mp h
        exact ⟨[], _, rfl, .closed _, rfl⟩
      | shutdown =>
        obtain ⟨rfl, rfl⟩ := (runs_serve_ended (.shutdown arrivals)).mp h
        exact ⟨[], _, rfl, .shutdown _, rfl⟩
  · rintro ⟨turns, left, rfl, hends, rfl⟩
    induction turns with
    | nil => exact (runs_serve_ended hends).mpr ⟨rfl, rfl⟩
    | cons u turns ih => exact runs_serve_message.mpr ⟨u, _, rfl, rfl, ih⟩

/-- Whatever a responder gets, whatever its handler says and whichever publications are refused, it
takes a turn for each message until its subscription is closed or it is told to stop, and the
replies that are published are those of the turns, in order.  A request for another delivery, in
particular, always gets an answer, whatever others do to the store meanwhile.  The answer names the
job, and says that it is assigned if and only if this request has assigned it; otherwise it has an
error and no status, and the request has left all rows. -/
theorem answers_exactly (decode : Json → Option α) (arrivals rest : List Arrival) (t : Log α) :
    (Runs ((handler decode).serve bus arrivals) t rest ↔
      ∃ (turns : List Turn) (left : List Arrival),
        arrivals = turns.map (fun u => .message u.message) ++ left ∧ Ends left rest ∧
          t = turns.flatMap (·.calls decode) ∧
          published t = turns.filterMap (·.reply? decode)) ∧
    ∀ request : RedispatchRequest,
      (∀ answer : Trace DispatchCall.Answer → (q : DispatchCall) → q.Answer,
        ∃ (t : Trace DispatchCall.Answer) (reply : RedispatchReply),
          Runs (Dispatcher.asking.redispatchQuery.answer request) t (.ok reply.toJson) ∧
            AnsweredBy answer t) ∧
      ∀ (visits : List Visit) (result : Except Cause Json),
        (∀ v ∈ visits, v.IsServed) →
        Runs (Dispatcher.asking.redispatchQuery.answer request) (visits.map (·.event)) result →
        ∃ reply : RedispatchReply, result = .ok reply.toJson ∧ reply.jobId = request.jobId ∧
          (reply.status = some .assigned ↔ ∃ v ∈ visits, v.Assigns request.jobId) ∧
          (reply.status = some .assigned ∧ reply.error = none ∨
            reply.status = none ∧ (∃ e : DispatchError, reply.error = some e.message) ∧
              ∀ v ∈ visits, v.Stays) := by
  refine ⟨runs_serve.trans ⟨?_, ?_⟩, fun request => ⟨fun answer => ?_, fun visits result =>
    Dispatcher.redispatchQuery_cases⟩⟩
  · rintro ⟨turns, left, harrivals, hends, rfl⟩
    exact ⟨turns, left, harrivals, hends, rfl, published_turns decode turns⟩
  · rintro ⟨turns, left, harrivals, hends, ht, -⟩
    exact ⟨turns, left, harrivals, hends, ht⟩
  · obtain ⟨t, result, hruns, hanswered⟩ :=
      exists_runs_answeredBy (Dispatcher.asking.redispatchQuery.answer request) answer
    obtain ⟨r, -, rfl⟩ := Dispatcher.runs_redispatchQuery hruns
    exact ⟨t, Dispatcher.replyTo request r, hruns, hanswered⟩

/-- The world in which the assignment of the waiting job has been published. -/
def announced : Dispatcher.World :=
  { waiting with
    published := [⟨Subject.dispatch "p", none, .ofJson createdJob.assignment.toJson⟩] }

/-- The world in which the job has then been moved. -/
def delivered : Dispatcher.World :=
  { announced with
    store := (announced.store.perform (.transitionJob "j" .created (.assigned default))).2 }

/-- The waiting job is delivered. -/
def redelivery : List Visit :=
  [⟨waiting, ⟨.store (.getJob "j"), .ok (some createdJob)⟩, waiting⟩,
    ⟨waiting, ⟨publication createdJob, .ok ()⟩, announced⟩,
    ⟨announced, ⟨.clock, default⟩, announced⟩,
    ⟨announced, ⟨.store (.transitionJob "j" .created (.assigned default)),
      .ok (some assignedJob)⟩, delivered⟩]

/-- The reply that the job is assigned. -/
def assignedReply : RedispatchReply := ⟨"j", some .assigned, none⟩

/-- Of two messages, one of which wants no reply, the other gets the reply that its job has been
assigned, and the responder ends when its subscription is closed. -/
theorem answers_one_of_two :
    (∃ t : Log RedispatchRequest,
      Runs ((handler RedispatchRequest.ofJson?).serve bus
        [.message ⟨"q", none, .ofJson (RedispatchRequest.toJson ⟨"j"⟩)⟩,
          .message ⟨"q", some "_INBOX.1", .ofJson (RedispatchRequest.toJson ⟨"j"⟩)⟩,
          .closed, .shutdown]) t [.shutdown] ∧
        published t = [⟨"_INBOX.1", none, .ofJson assignedReply.toJson⟩]) ∧
    (∀ v ∈ redelivery, v.IsServed) ∧
    Runs (Dispatcher.asking.redispatchQuery.answer ⟨"j"⟩) (redelivery.map (·.event))
      (.ok assignedReply.toJson) ∧
    ∃ v ∈ redelivery, v.Assigns "j" := by
  have hasked : query? RedispatchRequest.ofJson?
      ⟨"q", some "_INBOX.1", .ofJson (RedispatchRequest.toJson ⟨"j"⟩)⟩ =
        some ("_INBOX.1", ⟨"j"⟩) := by
    simp only [query?, Payload.json?_ofJson, Option.bind_some, RedispatchRequest.ofJson?_toJson]
  have harises : waiting.store.Arises := .perform .empty (.insertJob askedFor default)
  have hserved : ∀ v ∈ redelivery, v.IsServed := by
    simp only [redelivery, List.forall_mem_cons, List.not_mem_nil, false_imp_iff, implies_true,
      and_true]
    exact ⟨⟨harises, .stored waiting _⟩, ⟨harises, .published waiting _ _⟩,
      ⟨harises, .told announced⟩, ⟨harises, .stored announced _⟩⟩
  have hredelivers : Runs (Dispatcher.asking.redispatchQuery.answer ⟨"j"⟩)
      (redelivery.map (·.event)) (.ok assignedReply.toJson) :=
    .call _ (.call _ (.call _ (.call _ (.here _))))
  obtain ⟨hiff, hredispatch⟩ := answers_exactly RedispatchRequest.ofJson?
    [.message ⟨"q", none, .ofJson (RedispatchRequest.toJson ⟨"j"⟩)⟩,
      .message ⟨"q", some "_INBOX.1", .ofJson (RedispatchRequest.toJson ⟨"j"⟩)⟩,
      .closed, .shutdown] [.shutdown]
    [⟨.answer ⟨"j"⟩, .ok assignedReply.toJson⟩,
      ⟨.publish "_INBOX.1" (.ofJson assignedReply.toJson), .ok ()⟩]
  obtain ⟨reply, hreply, -, hassigns, -⟩ :=
    (hredispatch ⟨"j"⟩).2 redelivery _ hserved hredelivers
  have hsame : reply = assignedReply := by
    have hread := congrArg RedispatchReply.ofJson? (Except.ok.inj hreply)
    rw [RedispatchReply.ofJson?_toJson, RedispatchReply.ofJson?_toJson] at hread
    exact (Option.some.inj hread).symm
  refine ⟨⟨_, hiff.mpr ⟨[⟨_, .error default, .ok ()⟩, ⟨_, .ok assignedReply.toJson, .ok ()⟩],
    [.closed, .shutdown], rfl, .closed _, ?_, ?_⟩, rfl⟩, hserved, hredelivers, ?_⟩
  · simp only [List.flatMap_cons, List.flatMap_nil, Turn.calls, hasked]
    rfl
  · simp only [List.filterMap_cons, List.filterMap_nil, Turn.reply?, hasked]
    rfl
  · exact hassigns.mp (hsame ▸ rfl)

end Responder

end ComputeExchange
