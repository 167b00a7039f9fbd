import ComputeExchange.Json.Basic

/-!
# Records as JSON

How a record of known fields is read from a JSON object or array, and written as an object.  In an
object unknown members are ignored and a known name may stand once; an array gives the fields in
their order, and what it leaves out at its end must have a default.
-/

namespace ComputeExchange.Json

/-! ### Scalars -/

/-- A string that means a text. -/
def asText : Json → Option String
  | .string s => s
  | _ => none

/-- A truth value. -/
def asBool : Json → Option Bool
  | .bool b => some b
  | _ => none

/-- A whole number that fits a signed word. -/
def asInt64 : Json → Option Int64
  | .number (.whole i) =>
    if Int64.minValue.toInt ≤ i ∧ i ≤ Int64.maxValue.toInt then some (Int64.ofInt i) else none
  | _ => none

/-- A whole number that fits a word. -/
def asUInt64 : Json → Option UInt64
  | .number (.whole i) => if 0 ≤ i ∧ i < UInt64.size then some (UInt64.ofNat i.toNat) else none
  | _ => none

/-- The items of an array, each read by `read`. -/
def asList {α : Type} (read : Json → Option α) : Json → Option (List α)
  | .array items => items.mapM read
  | _ => none

/-- A signed word as a number. -/
def ofInt64 (i : Int64) : Json := .int i.toInt

/-- A word as a number. -/
def ofUInt64 (n : UInt64) : Json := .int n.toNat

/-! ### Fields -/

/-- The fields of a record as they were found. -/
structure Fields where
  found : List (String × Json)
  /-- Whether they came by position. -/
  positional : Bool

/-- Finds the fields of these names. -/
def fields? (names : List String) : Json → Option Fields
  | .object members => do
    let named ← members.mapM fun (name, value) => name.map (·, value)
    let found := named.filter fun (name, _) => names.contains name
    if (found.map (·.1)).Nodup then some ⟨found, false⟩ else none
  | .array items => if items.length ≤ names.length then some ⟨names.zip items, true⟩ else none
  | _ => none

namespace Fields

/-- The field of this name. -/
def get? (fs : Fields) (name : String) : Option Json := fs.found.lookup name

/-- A field that must be there. -/
def required {α : Type} (fs : Fields) (name : String) (read : Json → Option α) : Option α :=
  (fs.get? name).bind read

/-- A field that may be null.  It may be left out of an object, and out of an array if it has a
default. -/
def optional {α : Type} (fs : Fields) (name : String) (read : Json → Option α)
    (hasDefault : Bool) : Option (Option α) :=
  match fs.get? name with
  | none => if fs.positional && !hasDefault then none else some none
  | some .null => some none
  | some j => (read j).map some

end Fields

/-- A member that is written as null if there is no value. -/
def nullable {α : Type} (name : String) (write : α → Json) (value : Option α) :
    List (String × Json) :=
  [(name, (value.map write).getD .null)]

/-- A member that is left out if there is no value. -/
def omittable {α : Type} (name : String) (write : α → Json) (value : Option α) :
    List (String × Json) :=
  match value with
  | some a => [(name, write a)]
  | none => []

end ComputeExchange.Json
