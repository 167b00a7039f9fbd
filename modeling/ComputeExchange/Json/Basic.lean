import ComputeExchange.Text.Hex

/-!
# JSON texts

`Json` is a JSON text with its meaning kept exactly: numbers are not rounded, the members of an
object stay in their order with repetitions, and a string that no sequence of characters stands for
(an escaped half of a surrogate pair on its own) is kept as such.  `Json.render` writes the compact
form; `Json.Reader` reads it back.
-/

namespace ComputeExchange

/-- A JSON number: a whole number, or a decimal fraction `significand · 10 ^ exponent`, which is
also how the negative zero is kept. -/
inductive Json.Number where
  | whole (value : Int)
  | decimal (negative : Bool) (significand : Nat) (exponent : Int)
  deriving DecidableEq, Repr

/-- A JSON text; a string is `none` if an unpaired surrogate makes it mean no text. -/
inductive Json where
  | null
  | bool (value : Bool)
  | number (value : Json.Number)
  | string (value : Option String)
  | array (items : List Json)
  | object (members : List (Option String × Json))
  deriving Repr, Inhabited

namespace Json

/-- The JSON string that stands for a text. -/
def text (s : String) : Json := .string (some s)

/-- The JSON number that stands for an integer. -/
def int (i : Int) : Json := .number (.whole i)

/-- The JSON object with these members. -/
def record (members : List (String × Json)) : Json :=
  .object (members.map fun (name, value) => (some name, value))

/-! ### Writing -/

/-- One character inside quotes.  Quotes, backslashes and control characters are escaped, all else
stands for itself. -/
def escape (c : Char) : List Char :=
  if c = '"' then ['\\', '"']
  else if c = '\\' then ['\\', '\\']
  else if c = '\n' then ['\\', 'n']
  else if c = '\r' then ['\\', 'r']
  else if c = '\t' then ['\\', 't']
  else if c.toNat = 8 then ['\\', 'b']
  else if c.toNat = 12 then ['\\', 'f']
  else if c.toNat < 32 then
    ['\\', 'u', '0', '0', Hex.digit (c.toNat / 16), Hex.digit (c.toNat % 16)]
  else [c]

/-- A string in quotes; one that means no text is written as an unpaired surrogate. -/
def quote : Option String → List Char
  | some s => '"' :: (s.toList.flatMap escape ++ ['"'])
  | none => "\"\\ud800\"".toList

/-- The digits of a number in base ten. -/
def digits (n : Nat) : List Char := Nat.toDigits 10 n

/-- An integer in base ten. -/
def intDigits (i : Int) : List Char :=
  if i < 0 then '-' :: digits i.natAbs else digits i.natAbs

/-- A number; a decimal fraction is written with an exponent. -/
def Number.render : Number → List Char
  | .whole i => intDigits i
  | .decimal negative significand exponent =>
    (if negative then ['-'] else []) ++ digits significand ++ 'e' :: intDigits exponent

mutual

/-- The compact text of a value. -/
def render : Json → List Char
  | .null => "null".toList
  | .bool true => "true".toList
  | .bool false => "false".toList
  | .number n => n.render
  | .string s => quote s
  | .array items => '[' :: (renderItems items ++ [']'])
  | .object members => '{' :: (renderMembers members ++ ['}'])

/-- The items of an array, with commas between them. -/
def renderItems : List Json → List Char
  | [] => []
  | [x] => render x
  | x :: y :: rest => render x ++ ',' :: renderItems (y :: rest)

/-- The members of an object, with commas between them. -/
def renderMembers : List (Option String × Json) → List Char
  | [] => []
  | [(name, x)] => quote name ++ ':' :: render x
  | (name, x) :: m :: rest => quote name ++ ':' :: (render x ++ ',' :: renderMembers (m :: rest))

end

/-- The compact text of a value. -/
def compact (j : Json) : String := String.ofList j.render

end Json

end ComputeExchange
