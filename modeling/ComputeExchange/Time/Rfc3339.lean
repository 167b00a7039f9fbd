import ComputeExchange.Json.Reader
import ComputeExchange.Json.Record
import ComputeExchange.Text.Blank
import ComputeExchange.Time.Calendar
import ComputeExchange.Time.Timestamp

/-!
# Instants as text

RFC 3339 with the fewest of 0, 3, 6 or 9 digits of a second that lose nothing, in UTC.  A year
outside 0 to 9999 carries a sign.  Reading takes any offset, and blanks between the parts.
-/

namespace ComputeExchange.Rfc3339

open Text

/-! ### Writing -/

/-- A number in at least `width` digits. -/
def padded (width n : Nat) : List Char :=
  let ds := Json.digits n
  List.replicate (width - ds.length) '0' ++ ds

/-- A year: four digits, or a sign and at least four. -/
def writeYear (year : Int) : List Char :=
  if 0 ≤ year ∧ year ≤ 9999 then padded 4 year.toNat
  else (if year < 0 then '-' else '+') :: padded 4 year.natAbs

/-- The fraction of a second in groups of three digits. -/
def writeFraction (nanos : Nat) : List Char :=
  if nanos = 0 then []
  else if nanos % 1000000 = 0 then '.' :: padded 3 (nanos / 1000000)
  else if nanos % 1000 = 0 then '.' :: padded 6 (nanos / 1000)
  else '.' :: padded 9 nanos

/-- An instant in UTC.  A leap second is the sixtieth of its minute. -/
def write (t : Timestamp) : List Char :=
  let date := Calendar.ofDayNumber (t.seconds / 86400)
  let time := (t.seconds % 86400).toNat
  let leap := nanosPerSecond ≤ t.nanos
  writeYear date.year ++ '-' :: padded 2 date.month ++ '-' :: padded 2 date.day ++
    'T' :: padded 2 (time / 3600) ++ ':' :: padded 2 (time / 60 % 60) ++
    ':' :: padded 2 (time % 60 + if leap then 1 else 0) ++
    writeFraction (if leap then t.nanos - nanosPerSecond else t.nanos) ++ ['Z']

/-! ### Reading -/

/-- Between one and `most` decimal digits as a number. -/
def readDigits (most : Nat) (cs : List Char) : Option (Nat × List Char) :=
  match (cs.take most).takeWhile Char.isDigit with
  | [] => none
  | ds => some (Json.ofDigits ds, cs.drop ds.length)

/-- A number of at most two digits, blanks before it allowed. -/
def readTwo (cs : List Char) : Option (Nat × List Char) := readDigits 2 (trimStart cs)

/-- A year: at most four digits, or a sign and any number of digits; blanks before it allowed. -/
def readYear (cs : List Char) : Option (Int × List Char) :=
  match trimStart cs with
  | '-' :: rest => (readDigits rest.length rest).map fun (n, rest) => (-(n : Int), rest)
  | '+' :: rest => (readDigits rest.length rest).map fun (n, rest) => ((n : Int), rest)
  | cs => (readDigits 4 cs).map fun (n, rest) => ((n : Int), rest)

/-- The text after a mark, blanks before the mark allowed. -/
def afterMark (mark : Char) (cs : List Char) : Option (List Char) :=
  match trimStart cs with
  | c :: rest => if c = mark then some rest else none
  | [] => none

/-- The fraction of a second in nanoseconds, if a point follows; digits past the ninth are dropped.
-/
def readFraction : List Char → Option (Nat × List Char)
  | '.' :: rest =>
    match rest.takeWhile Char.isDigit with
    | [] => none
    | ds =>
      let kept := ds.take 9
      some (Json.ofDigits kept * Nat.pow 10 (9 - kept.length), rest.drop ds.length)
  | cs => some (0, cs)

/-- An offset from UTC in seconds: `Z`, `UTC`, or a sign, two digits of hours and two of minutes,
with colons and blanks between them allowed. -/
def readOffset (cs : List Char) : Option (Int × List Char) :=
  match cs with
  | 'Z' :: rest => some (0, rest)
  | 'z' :: rest => some (0, rest)
  | _ =>
    if (cs.take 3).map Char.toUpper = ['U', 'T', 'C'] then some (0, cs.drop 3)
    else
      let signed : Option (Bool × List Char) :=
        match cs with
        | '+' :: rest => some (false, rest)
        | '-' :: rest => some (true, rest)
        | '−' :: rest => some (true, rest)
        | _ => none
      match signed with
      | some (negative, h₁ :: h₂ :: rest) =>
        match rest.dropWhile fun c => c == ':' || isBlank c with
        | m₁ :: m₂ :: rest =>
          if [h₁, h₂, m₁, m₂].all Char.isDigit && m₁ ≤ '5' then
            let size : Int := Json.ofDigits [h₁, h₂] * 3600 + Json.ofDigits [m₁, m₂] * 60
            some (if negative then -size else size, rest)
          else none
        | _ => none
      | _ => none

/-- Reads a whole text as an instant. -/
def read? (cs : List Char) : Option Timestamp := do
  let (year, cs) ← readYear cs
  let cs ← afterMark '-' cs
  let (month, cs) ← readTwo cs
  let cs ← afterMark '-' cs
  let (day, cs) ← readTwo cs
  let cs ←
    match cs with
    | 'T' :: cs => some cs
    | 't' :: cs => some cs
    | ' ' :: cs => some cs
    | _ => none
  let (hour, cs) ← readTwo cs
  let cs ← afterMark ':' cs
  let (minute, cs) ← readTwo cs
  let cs ← afterMark ':' cs
  let (second, cs) ← readTwo cs
  let (nanos, cs) ← readFraction cs
  let (offset, cs) ← readOffset (trimStart cs)
  if trimStart cs ≠ [] then none
  let date : Calendar.Date := ⟨year, month, day⟩
  if year < -262143 || 262142 < year || !date.isValid || hour > 23 || minute > 59 || second > 60 ||
      offset.natAbs ≥ 86400 then none
  let leap := second = 60
  let time := hour * 3600 + minute * 60 + (if leap then 59 else second)
  Timestamp.ofParts? (Calendar.dayNumber date * 86400 + time - offset)
    (if leap then nanos + nanosPerSecond else nanos)

end ComputeExchange.Rfc3339

namespace ComputeExchange

/-- An instant as a JSON string. -/
def Timestamp.toJson (t : Timestamp) : Json := .text (String.ofList (Rfc3339.write t))

/-- The instant a JSON string stands for. -/
def Timestamp.ofJson? (j : Json) : Option Timestamp := j.asText.bind fun s => Rfc3339.read? s.toList

end ComputeExchange
