import ComputeExchange.Json.Basic

/-!
# Reading JSON texts

A reader by recursive descent over the characters.  Every reader takes the text from where it stands
and gives what it read with the rest, or nothing if the text does not start with such a thing.
`Json.parse?` reads a whole text, blanks around it allowed.
-/

namespace ComputeExchange.Json

/-- The text after any blanks: space, tab, line feed and carriage return. -/
def skipBlanks : List Char → List Char
  | c :: rest =>
    if c = ' ' ∨ c = '\t' ∨ c = '\n' ∨ c = '\r' then skipBlanks rest else c :: rest
  | [] => []

/-- Four hexadecimal digits as a number. -/
def readUnit : List Char → Option (Nat × List Char)
  | a :: b :: c :: d :: rest => do
    let x ← Hex.value? a
    let y ← Hex.value? b
    let z ← Hex.value? c
    let w ← Hex.value? d
    return (((x * 16 + y) * 16 + z) * 16 + w, rest)
  | _ => none

/-- What stands after a backslash: a character, or a 16-bit unit in hexadecimal. -/
inductive Escape where
  | char (c : Char)
  | unit (n : Nat)

/-- Reads what stands after a backslash. -/
def readEscape : List Char → Option (Escape × List Char)
  | '"' :: rest => some (.char '"', rest)
  | '\\' :: rest => some (.char '\\', rest)
  | '/' :: rest => some (.char '/', rest)
  | 'b' :: rest => some (.char '\x08', rest)
  | 'f' :: rest => some (.char '\x0c', rest)
  | 'n' :: rest => some (.char '\n', rest)
  | 'r' :: rest => some (.char '\r', rest)
  | 't' :: rest => some (.char '\t', rest)
  | 'u' :: rest => (readUnit rest).map fun (n, rest) => (.unit n, rest)
  | _ => none

/-- The pieces of a string up to its closing quote, which is dropped.  `fuel` bounds their number.
-/
def readPieces : Nat → List Char → Option (List Escape × List Char)
  | 0, _ => none
  | fuel + 1, cs =>
    match cs with
    | [] => none
    | '"' :: rest => some ([], rest)
    | '\\' :: rest => do
      let (piece, rest) ← readEscape rest
      let (pieces, rest) ← readPieces fuel rest
      return (piece :: pieces, rest)
    | c :: rest =>
      if c.toNat < 32 then none
      else do
        let (pieces, rest) ← readPieces fuel rest
        return (.char c :: pieces, rest)

/-- Whether a unit is the first half of a surrogate pair. -/
def isHigh (n : Nat) : Bool := 0xD800 ≤ n && n < 0xDC00

/-- Whether a unit is the second half of a surrogate pair. -/
def isLow (n : Nat) : Bool := 0xDC00 ≤ n && n < 0xE000

/-- The text that some pieces mean, with surrogate pairs joined; `none` if a half stands alone. -/
def meaning : List Escape → Option (List Char)
  | [] => some []
  | .char c :: rest => (meaning rest).map (c :: ·)
  | .unit n :: rest =>
    if isHigh n then
      match rest with
      | .unit m :: rest' =>
        if isLow m then
          (meaning rest').map (Char.ofNat (0x10000 + (n - 0xD800) * 1024 + (m - 0xDC00)) :: ·)
        else none
      | _ => none
    else if isLow n then none
    else (meaning rest).map (Char.ofNat n :: ·)

/-- Reads a string after its opening quote. -/
def readString (cs : List Char) : Option (Option String × List Char) := do
  let (pieces, rest) ← readPieces (cs.length + 1) cs
  return ((meaning pieces).map String.ofList, rest)

/-- The decimal digits at the start of a text. -/
def spanDigits (cs : List Char) : List Char × List Char := cs.span Char.isDigit

/-- The number that decimal digits stand for. -/
def ofDigits (ds : List Char) : Nat := ds.foldl (fun n d => n * 10 + (d.toNat - 48)) 0

/-- The digits after a decimal point, if there is one; a point without a digit is refused. -/
def readFraction : List Char → Option (List Char × List Char)
  | '.' :: rest =>
    match spanDigits rest with
    | ([], _) => none
    | (ds, rest) => some (ds, rest)
  | cs => some ([], cs)

/-- The exponent, if there is one: its sign, at least one digit. -/
def readExponent (cs : List Char) : Option (Option Int × List Char) :=
  match cs with
  | c :: rest =>
    if c = 'e' ∨ c = 'E' then
      let (negative, rest) :=
        match rest with
        | '-' :: rest => (true, rest)
        | '+' :: rest => (false, rest)
        | rest => (false, rest)
      match spanDigits rest with
      | ([], _) => none
      | (ds, rest) => some (some (if negative then -(ofDigits ds : Int) else ofDigits ds), rest)
    else some (none, cs)
  | [] => some (none, [])

/-- Reads a number without its sign: digits with no superfluous zero in front, then perhaps a
fraction and an exponent. -/
def readMagnitude (negative : Bool) (cs : List Char) : Option (Number × List Char) :=
  match spanDigits cs with
  | ([], _) => none
  | ('0' :: _ :: _, _) => none
  | (ds, rest) => do
    let (fraction, rest) ← readFraction rest
    let (exponent, rest) ← readExponent rest
    let n := ofDigits ds
    if fraction.isEmpty && exponent.isNone && !(negative && n == 0) then
      return (.whole (if negative then -(n : Int) else n), rest)
    else
      return (.decimal negative (ofDigits (ds ++ fraction))
        (exponent.getD 0 - fraction.length), rest)

/-- Reads a number. -/
def readNumber : List Char → Option (Number × List Char)
  | '-' :: rest => readMagnitude true rest
  | cs => readMagnitude false cs

/-- The text after a given word. -/
def afterWord : List Char → List Char → Option (List Char)
  | [], cs => some cs
  | w :: word, c :: cs => if w = c then afterWord word cs else none
  | _ :: _, [] => none

mutual

/-- Reads a value, blanks before it allowed.  `fuel` bounds the number of steps. -/
def readValue : Nat → List Char → Option (Json × List Char)
  | 0, _ => none
  | fuel + 1, cs =>
    match skipBlanks cs with
    | 'n' :: rest => (afterWord ['u', 'l', 'l'] rest).map fun rest => (.null, rest)
    | 't' :: rest => (afterWord ['r', 'u', 'e'] rest).map fun rest => (.bool true, rest)
    | 'f' :: rest => (afterWord ['a', 'l', 's', 'e'] rest).map fun rest => (.bool false, rest)
    | '"' :: rest => (readString rest).map fun (s, rest) => (.string s, rest)
    | '[' :: rest =>
      match skipBlanks rest with
      | ']' :: rest => some (.array [], rest)
      | rest => (readItems fuel rest).map fun (items, rest) => (.array items, rest)
    | '{' :: rest =>
      match skipBlanks rest with
      | '}' :: rest => some (.object [], rest)
      | rest => (readMembers fuel rest).map fun (members, rest) => (.object members, rest)
    | cs => (readNumber cs).map fun (n, rest) => (.number n, rest)

/-- Reads the items of an array, of which there is at least one, and its closing bracket. -/
def readItems : Nat → List Char → Option (List Json × List Char)
  | 0, _ => none
  | fuel + 1, cs => do
    let (item, rest) ← readValue fuel cs
    match skipBlanks rest with
    | ']' :: rest => some ([item], rest)
    | ',' :: rest => do
      let (items, rest) ← readItems fuel rest
      return (item :: items, rest)
    | _ => none

/-- Reads the members of an object, of which there is at least one, and its closing brace. -/
def readMembers : Nat → List Char → Option (List (Option String × Json) × List Char)
  | 0, _ => none
  | fuel + 1, cs =>
    match skipBlanks cs with
    | '"' :: rest => do
      let (name, rest) ← readString rest
      match skipBlanks rest with
      | ':' :: rest => do
        let (value, rest) ← readValue fuel rest
        match skipBlanks rest with
        | '}' :: rest => some ([(name, value)], rest)
        | ',' :: rest => do
          let (members, rest) ← readMembers fuel rest
          return ((name, value) :: members, rest)
        | _ => none
      | _ => none
    | _ => none

end

/-- Reads a whole text as one value, blanks around it allowed. -/
def parse? (s : String) : Option Json :=
  let cs := s.toList
  match readValue (2 * cs.length + 2) cs with
  | some (value, rest) => if skipBlanks rest = [] then some value else none
  | none => none

/-! ### Self-contained values

A value that is to be kept whole, not decoded against a known shape, has tighter bounds: every
string means a text, no number is beyond the range of a double, and it is nested at most 127 deep.
-/

/-- The least number that rounds beyond the greatest double. -/
def Number.overflow : Nat := Nat.pow 2 1024 - Nat.pow 2 970

/-- Whether a number is finite as a double: what rounds beyond the greatest one is refused. -/
def Number.isFinite : Number → Bool
  | .whole i => i.natAbs < overflow
  | .decimal _ significand exponent =>
    if significand = 0 then true
    else if exponent > 400 then false
    else if exponent ≥ 0 then significand * Nat.pow 10 exponent.toNat < overflow
    else if (Nat.toDigits 10 significand).length + exponent ≤ 300 then true
    else significand < overflow * Nat.pow 10 (-exponent).toNat

mutual

/-- Whether a value is nested at most `depth` deep, with finite numbers and meaningful strings. -/
def isSound (depth : Nat) : Json → Bool
  | .null => true
  | .bool _ => true
  | .number n => n.isFinite
  | .string s => s.isSome
  | .array items =>
    match depth with
    | 0 => false
    | depth + 1 => areSound depth items
  | .object members =>
    match depth with
    | 0 => false
    | depth + 1 => membersSound depth members

/-- Whether every item is sound. -/
def areSound (depth : Nat) : List Json → Bool
  | [] => true
  | x :: rest => isSound depth x && areSound depth rest

/-- Whether every member is sound; its name must mean a text too. -/
def membersSound (depth : Nat) : List (Option String × Json) → Bool
  | [] => true
  | (name, x) :: rest => name.isSome && isSound depth x && membersSound depth rest

end

/-- Reads a whole text as a self-contained value. -/
def parseValue? (s : String) : Option Json :=
  (parse? s).filter (isSound 127)

end ComputeExchange.Json
