import ComputeExchange.Bus.Message
import ComputeExchange.Bus.Subject

/-!
# A bus in memory

A message goes to every subscription whose pattern matches its subject, and into the log of all that
was published.  A subscription that was given up gets nothing any more; it is cleared away by the
next publish that is not refused.

`BusCall` is everything that happens to the bus at once.  A request is made of several such calls:
it opens a subscription of its own to an inbox subject that no other request has, and ends with the
first message there.
-/

namespace ComputeExchange

/-- A subscription with the messages that wait for its holder. -/
structure Subscription where
  id : Nat
  pattern : String
  /-- Whether it has not been given up. -/
  isHeld : Bool
  waiting : List Message

/-- A bus in memory. -/
structure MemoryBus where
  subscriptions : List Subscription
  published : List Message
  /-- Whether every publish is refused for now. -/
  isRefusing : Bool
  /-- How many requests have been made.  A counter of 64 bits agrees below 2^64 requests, and starts
  again there. -/
  requests : Nat
  /-- The id of the next subscription. -/
  nextId : Nat
  /-- The subject below which the inboxes are. -/
  inboxRoot : String
  deriving Inhabited

/-- What a bus in memory is asked to do. -/
inductive BusCall where
  /-- Opens a subscription. -/
  | subscribe (pattern : String)
  /-- Gives a subscription up. -/
  | unsubscribe (id : Nat)
  | publish (message : Message)
  /-- Takes the first message that waits in a subscription. -/
  | take (id : Nat)
  /-- Draws the inbox subject of a request. -/
  | inbox
  /-- Makes every later publish be refused, or no longer. -/
  | refuse (value : Bool)

/-- What a call is answered with: for a new subscription its id, for a message to how many
subscriptions it went. -/
abbrev BusCall.Answer : BusCall → Type
  | subscribe _ => Nat
  | unsubscribe _ => Unit
  | publish _ => Except BusError Nat
  | take _ => Option Message
  | inbox => String
  | refuse _ => Unit

namespace MemoryBus

/-- A bus with nobody on it. -/
def empty : MemoryBus := ⟨[], [], false, 0, 0, "_INBOX"⟩

/-- Opens a subscription: its id, and the bus with it. -/
def subscribe (bus : MemoryBus) (pattern : String) : Nat × MemoryBus :=
  (bus.nextId,
    { bus with
      subscriptions := bus.subscriptions ++ [⟨bus.nextId, pattern, true, []⟩]
      nextId := bus.nextId + 1 })

/-- Gives a subscription up and drops what waits in it. -/
def unsubscribe (bus : MemoryBus) (id : Nat) : MemoryBus :=
  { bus with
    subscriptions := bus.subscriptions.map fun s =>
      if s.id = id then { s with isHeld := false, waiting := [] } else s }

/-- The subscriptions that have not been given up. -/
def held (bus : MemoryBus) : List Subscription := bus.subscriptions.filter (·.isHeld)

/-- How many subscriptions get a message on a subject. -/
def listeners (bus : MemoryBus) (subject : String) : Nat :=
  bus.held.countP fun s => Subject.isMatch s.pattern subject

/-- Publishes a message: how many subscriptions it went to, and the bus after it. -/
def publish (bus : MemoryBus) (message : Message) : Except BusError Nat × MemoryBus :=
  if bus.isRefusing then
    (.error (.publish message.subject (Cause.ofText "bus unavailable")), bus)
  else
    (.ok (bus.listeners message.subject),
      { bus with
        subscriptions := bus.held.map fun s =>
          if Subject.isMatch s.pattern message.subject then
            { s with waiting := s.waiting ++ [message] }
          else s
        published := bus.published ++ [message] })

/-- Takes the first waiting message of a subscription. -/
def take (bus : MemoryBus) (id : Nat) : Option Message × MemoryBus :=
  match (bus.subscriptions.find? (·.id == id)).map (·.waiting) with
  | some (message :: _) =>
    (some message,
      { bus with
        subscriptions := bus.subscriptions.map fun s =>
          if s.id = id then { s with waiting := s.waiting.drop 1 } else s })
  | _ => (none, bus)

/-- Takes every waiting message of a subscription. -/
def drain (bus : MemoryBus) (id : Nat) : List Message × MemoryBus :=
  (((bus.subscriptions.find? (·.id == id)).map (·.waiting)).getD [],
    { bus with
      subscriptions := bus.subscriptions.map fun s =>
        if s.id = id then { s with waiting := [] } else s })

/-- The inbox subject of a request, by how many requests were made before. -/
def inboxOf (root : String) (number : Nat) : String := s!"{root}.{number}"

/-- Draws the inbox subject of a request, and counts the request. -/
def drawInbox (bus : MemoryBus) : String × MemoryBus :=
  (inboxOf bus.inboxRoot bus.requests, { bus with requests := bus.requests + 1 })

/-- Performs a call: what it is answered with, and the bus after it. -/
def perform (bus : MemoryBus) : (c : BusCall) → c.Answer × MemoryBus
  | .subscribe pattern => bus.subscribe pattern
  | .unsubscribe id => ((), bus.unsubscribe id)
  | .publish message => bus.publish message
  | .take id => bus.take id
  | .inbox => bus.drawInbox
  | .refuse value => ((), { bus with isRefusing := value })

/-- The messages published to exactly a subject. -/
def publishedTo (bus : MemoryBus) (subject : String) : List Message :=
  bus.published.filter (·.subject == subject)

end MemoryBus

/-- A bus in memory as its users reach it in `m`, where they can also wait for a message in a
subscription, at most so many nanoseconds. -/
structure BusAccess (m : Type → Type) where
  perform : (c : BusCall) → m c.Answer
  await : (id wait : Nat) → m Unit

namespace BusAccess

variable {m : Type → Type} [Monad m]

/-- Publishes a message that wants no reply. -/
def publish (access : BusAccess m) (subject : String) (payload : Payload) :
    m (Except BusError Unit) := do
  let sent ← access.perform (.publish ⟨subject, none, payload⟩)
  return sent.map fun _ => ()

/-- Sends a request and waits for the first message in its inbox.  The inbox is open before the
request is sent, and given up however the request ends. -/
def request (access : BusAccess m) (subject : String) (payload : Payload) (wait : Nat) :
    m (Except BusError Payload) := do
  let inbox ← access.perform .inbox
  let id ← access.perform (.subscribe inbox)
  match ← access.perform (.publish ⟨subject, some inbox, payload⟩) with
  | .error e =>
    access.perform (.unsubscribe id)
    return .error e
  | .ok 0 =>
    access.perform (.unsubscribe id)
    return .error (.noResponders subject)
  | .ok (_ + 1) =>
    access.await id wait
    let reply ← access.perform (.take id)
    access.perform (.unsubscribe id)
    match reply with
    | some message => return .ok message.payload
    | none => return .error (.timeout subject)

/-- The bus for those who publish and ask. -/
def bus (access : BusAccess m) : Bus m := ⟨access.publish, access.request⟩

end BusAccess

end ComputeExchange
