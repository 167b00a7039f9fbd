import ComputeExchange.Cause
import ComputeExchange.Json.Reader
import ComputeExchange.Text.Utf8

/-!
# Messages

A message has a subject, perhaps a subject for the reply, and bytes that are usually a JSON text.
Code that needs a bus takes a `Bus m`, which publishes and asks in `m`.
-/

namespace ComputeExchange

/-- The bytes of a message. -/
structure Payload where
  bytes : ByteArray

namespace Payload

instance : DecidableEq Payload := fun a b =>
  decidable_of_iff (a.bytes.data = b.bytes.data) (by
    obtain ⟨⟨_⟩⟩ := a
    obtain ⟨⟨_⟩⟩ := b
    simp)

/-- The bytes of a text. -/
def ofText (s : String) : Payload := ⟨s.toUTF8⟩

/-- The text, if the bytes are one. -/
def text? (p : Payload) : Option String := String.fromUTF8? p.bytes

/-- The compact text of a JSON value. -/
def ofJson (j : Json) : Payload := ofText j.compact

/-- What the reader of JSON texts finds for malformed bytes: a character and half of a surrogate
pair.  A string with it means no text, and nothing but a string can have it. -/
def malformed : List Char := [Utf8.substitute, '\\', 'u', 'd', 'c', '0', '0']

/-- The JSON text of a payload.  Malformed bytes are found only where a string is to mean a text. -/
def json? (p : Payload) : Option Json := Json.parse? (Utf8.decode malformed p.bytes.toList)

instance : Inhabited Payload := ⟨⟨ByteArray.empty⟩⟩

end Payload

/-- A message on the bus. -/
structure Message where
  subject : String
  reply : Option String
  payload : Payload
  deriving DecidableEq, Inhabited

/-- Why the bus did not do what it was asked. -/
inductive BusError where
  | connect (cause : Cause)
  | publish (subject : String) (cause : Cause)
  | subscribe (subject : String) (cause : Cause)
  | noResponders (subject : String)
  | timeout (subject : String)
  | request (subject : String) (cause : Cause)
  deriving DecidableEq

namespace BusError

/-- The text of a bus error. -/
def message : BusError → String
  | connect _ => "failed to connect to the message bus"
  | publish subject _ => s!"failed to publish to {subject}"
  | subscribe subject _ => s!"failed to subscribe to {subject}"
  | noResponders subject => s!"no responders on {subject}"
  | timeout subject => s!"request on {subject} timed out"
  | request subject _ => s!"request on {subject} failed"

/-- The texts beneath a bus error. -/
def causes : BusError → List String
  | connect c => c.message :: c.below
  | publish _ c => c.message :: c.below
  | subscribe _ c => c.message :: c.below
  | request _ c => c.message :: c.below
  | _ => []

/-- The name of the kind of a failure. -/
def kind : BusError → String
  | connect _ => "Connect"
  | publish .. => "Publish"
  | subscribe .. => "Subscribe"
  | noResponders _ => "NoResponders"
  | timeout _ => "Timeout"
  | request .. => "Request"

instance : Classified BusError where
  message := message
  causes := causes
  family := "BusError"
  kind := kind

end BusError

/-- A bus that publishes and asks in `m`.  A request waits a number of nanoseconds for its reply. -/
structure Bus (m : Type → Type) where
  publish : (subject : String) → Payload → m (Except BusError Unit)
  request : (subject : String) → Payload → (wait : Nat) → m (Except BusError Payload)

namespace Bus

variable {m : Type → Type} [Monad m]

/-- Publishes a value as JSON.  What cannot be encoded is not sent. -/
def publishJson (bus : Bus m) (subject : String) (value : Except Cause Json) :
    m (Except BusError Unit) :=
  match value with
  | .error cause => pure (.error (.publish subject cause))
  | .ok j => bus.publish subject (.ofJson j)

end Bus

end ComputeExchange
