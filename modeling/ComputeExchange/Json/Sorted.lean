import ComputeExchange.Json.Basic

/-!
# JSON values with sorted members

The members of every object in the order of their names, so that two values differ only where their
texts do.
-/

namespace ComputeExchange.Json

/-- Sorts members by name. -/
def sortMembers (members : List (Option String × Json)) : List (Option String × Json) :=
  members.mergeSort fun a b => decide (a.1.getD "" ≤ b.1.getD "")

mutual

/-- A value with sorted members everywhere. -/
def sorted : Json → Json
  | .array items => .array (sortedItems items)
  | .object members => .object (sortMembers (sortedMembers members))
  | j => j

/-- Items with sorted members everywhere. -/
def sortedItems : List Json → List Json
  | [] => []
  | x :: rest => sorted x :: sortedItems rest

/-- Members whose values have sorted members everywhere. -/
def sortedMembers : List (Option String × Json) → List (Option String × Json)
  | [] => []
  | (name, x) :: rest => (name, sorted x) :: sortedMembers rest

end

/-- Sorts values by their compact texts with sorted members. -/
def sortByText (values : List Json) : List Json :=
  ((values.map fun j => (j.sorted.compact, j)).mergeSort fun a b => decide (a.1 ≤ b.1)).map (·.2)

end ComputeExchange.Json
