/-!
# Causes of failure

A failure is told as a chain of texts: what could not be done, then what that was due to, and so on
down.  Typed errors say their own text and the texts below it through `Explained`; `Cause` is the
chain with the type forgotten.
-/

namespace ComputeExchange

/-- A failure as a chain of texts, outermost first. -/
structure Cause where
  message : String
  below : List String
  deriving DecidableEq, Repr, Inhabited

namespace Cause

/-- A failure with nothing beneath it. -/
def ofText (text : String) : Cause := ⟨text, []⟩

/-- The same failure, seen from a caller that says what it was doing. -/
def within (c : Cause) (text : String) : Cause := ⟨text, c.message :: c.below⟩

/-- The whole chain on one line. -/
def inline (c : Cause) : String := String.intercalate ": " (c.message :: c.below)

@[simp] theorem within_message (c : Cause) (text : String) : (c.within text).message = text := rfl

end Cause

/-- Errors that can say what happened and what it was due to. -/
class Explained (ε : Type) where
  /-- The error's own text. -/
  message : ε → String
  /-- The texts of what lies beneath it, outermost first. -/
  causes : ε → List String

/-- An error as a chain of texts. -/
def Explained.cause {ε : Type} [Explained ε] (e : ε) : Cause := ⟨message e, causes e⟩

/-- Errors that belong to a family, in which each is of some kind. -/
class Classified (ε : Type) extends Explained ε where
  /-- The name of the family. -/
  family : String
  /-- The name of the kind of an error. -/
  kind : ε → String

instance : Explained Cause where
  message := Cause.message
  causes := Cause.below

end ComputeExchange
