import ComputeExchange.Json.Record

/-!
# Looking into JSON values

Members by name for those who know what to expect: what is not there, or is something else, counts
as nothing or as a default.
-/

namespace ComputeExchange.Json

/-- The members of an object whose names mean a text. -/
def pairs : Json → List (String × Json)
  | object members => members.filterMap fun (name, value) => name.map (·, value)
  | _ => []

/-- Whether an object has a member of this name. -/
def has (j : Json) (name : String) : Bool := (j.pairs.lookup name).isSome

/-- The member of this name, null if there is none. -/
def at_ (j : Json) (name : String) : Json := (j.pairs.lookup name).getD null

/-- A text. -/
def text? (j : Json) (name : String) : Option String := (j.at_ name).asText

/-- A text, or a default. -/
def textOr (j : Json) (name fallback : String) : String := (j.text? name).getD fallback

/-- A text, or the empty one. -/
def textAt (j : Json) (name : String) : String := j.textOr name ""

/-- An integer. -/
def int? (j : Json) (name : String) : Option Int :=
  match j.at_ name with
  | number (.whole i) => some i
  | _ => none

/-- A natural number. -/
def nat? (j : Json) (name : String) : Option Nat := (j.int? name).map Int.toNat

/-- A natural number, or a default. -/
def natOr (j : Json) (name : String) (fallback : Nat) : Nat := (j.nat? name).getD fallback

/-- A word. -/
def word? (j : Json) (name : String) : Option UInt64 := (j.nat? name).map UInt64.ofNat

/-- A word, or a default. -/
def wordOr (j : Json) (name : String) (fallback : UInt64) : UInt64 := (j.word? name).getD fallback

/-- A truth value, false if it is not there. -/
def flag (j : Json) (name : String) : Bool := (j.at_ name).asBool.getD false

/-- The items of an array. -/
def items : Json → List Json
  | array xs => xs
  | _ => []

/-- The items of the array of this name. -/
def list (j : Json) (name : String) : List Json := (j.at_ name).items

/-- The texts in the array of this name. -/
def texts (j : Json) (name : String) : List String := (j.list name).filterMap asText

/-- The natural numbers in the array of this name. -/
def nats (j : Json) (name : String) : List Nat :=
  (j.list name).filterMap fun x => x.asUInt64.map UInt64.toNat

/-- A natural number as a value. -/
def nat (n : Nat) : Json := int n

/-- A value that may be missing, null if it is. -/
def orNull {α : Type} (write : α → Json) (value : Option α) : Json := (value.map write).getD null

end ComputeExchange.Json
