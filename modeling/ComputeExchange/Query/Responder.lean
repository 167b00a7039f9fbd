import ComputeExchange.Bus.Message

/-!
# Answering over the bus

A responder answers the messages of a subscription one after another.  A message that wants no
reply, cannot be decoded or is not answered is passed over, and so is a reply that cannot be sent;
none of this keeps it from the next message.
-/

namespace ComputeExchange

/-- What a subscription yields. -/
inductive Arrival where
  | message (m : Message)
  /-- No message will come any more. -/
  | closed
  /-- The service is to stop. -/
  | shutdown

/-- Answers one kind of query. -/
structure QueryHandler (m : Type → Type) (α : Type) where
  decode : Json → Option α
  /-- The answer, or why there is none; what cannot be encoded is no answer either. -/
  answer : α → m (Except Cause Json)

namespace QueryHandler

variable {m : Type → Type} [Monad m] {α : Type}

/-- Answers a message. -/
def respond (h : QueryHandler m α) (bus : Bus m) (message : Message) : m Unit := do
  match message.reply, message.payload.json?.bind h.decode with
  | some reply, some query =>
    match ← h.answer query with
    | .ok answer =>
      let _ ← bus.publish reply (.ofJson answer)
    | .error _ => return
  | _, _ => return

/-- Deals with what a subscription yields, and tells whether to go on. -/
def step (h : QueryHandler m α) (bus : Bus m) : Arrival → m Bool
  | .message message => do
    h.respond bus message
    return true
  | .closed => return false
  | .shutdown => return false

/-- Deals with what a subscription yields until it is to end; what then is left is not looked at. -/
def serve (h : QueryHandler m α) (bus : Bus m) : List Arrival → m (List Arrival)
  | [] => return []
  | arrival :: rest => do
    if ← h.step bus arrival then h.serve bus rest
    else return rest

end QueryHandler

end ComputeExchange
