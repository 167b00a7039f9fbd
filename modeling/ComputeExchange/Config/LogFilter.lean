import ComputeExchange.Cause
import ComputeExchange.Json.Reader
import ComputeExchange.Text.Blank

/-!
# Directives for the log

What may be asked of the log through the environment: one directive with a target, a span in
brackets, fields in braces within it, and a level behind an equals sign, each of which may be left
out.  A comma after the level ends the directive, and nothing may follow it.
-/

namespace ComputeExchange.LogFilter

open Text

/-- Whether a text is a level: a word in any case, or a number up to five. -/
def isLevel (s : String) : Bool :=
  let number (cs : List Char) : Bool := !cs.isEmpty && cs.all Char.isDigit && Json.ofDigits cs ≤ 5
  ["", "off", "error", "warn", "info", "debug", "trace"].contains s.toLower ||
    match s.toList with
    | '+' :: rest => number rest
    | cs => number cs

/-- Where in a directive the reader stands; a number says where a part has begun. -/
inductive Place where
  | start
  | levelOrTarget
  | span
  | field (first : Nat)
  | afterFields
  | afterSpan
  | level (first : Nat)
  | complete

/-- Whether a directive may start with a character. -/
def mayStart (c : Char) : Bool :=
  c = '-' || c = ':' || c = '_' || c.isAlphanum || (c.toNat ≥ 128 && !isBlank c)

/-- The characters of a text from one place to another. -/
def part (cs : List Char) (first last : Nat) : String := String.ofList ((cs.take last).drop first)

/-- The place after the `i`-th character, which is `c`; `none` if it may not stand there. -/
def advance (whole : List Char) (i : Nat) (c : Char) : Place → Option Place
  | .start => if c = '[' then some .span else if mayStart c then some .levelOrTarget else none
  | .levelOrTarget =>
    if c = '=' then some (.level (i + 1))
    else if c = '[' then some .span
    else if c = ',' then some .complete
    else some .levelOrTarget
  | .span =>
    if c = ']' then some .afterSpan
    else if c = '\x7b' then some (.field (i + 1))
    else some .span
  | .field first =>
    if c = '\x7d' then if (part whole first i).isEmpty then none else some .afterFields
    else if c = ',' then if (part whole first i).isEmpty then none else some (.field (i + 1))
    else some (.field first)
  | .afterFields => if c = ']' then some .afterSpan else none
  | .afterSpan => if c = '=' then some (.level (i + 1)) else none
  | .level first =>
    if c = ',' then if isLevel (part whole first i) then some .complete else none
    else some (.level first)
  | .complete => none

/-- Reads the rest of a directive from the `i`-th character on. -/
def readFrom (whole : List Char) : Nat → List Char → Place → Option Place
  | _, [], place => some place
  | i, c :: rest, place => (advance whole i c place).bind (readFrom whole (i + 1) rest)

/-- Whether a text is a directive.  Blanks around it do not count as parts of it, but the level is
taken from the whole text. -/
def isDirective (s : String) : Bool :=
  let whole := s.toList
  match readFrom whole 0 (trim whole) .start with
  | some .levelOrTarget => true
  | some (.level first) => isLevel (part whole first whole.length)
  | some .complete => true
  | _ => false

/-- The failure to read a directive. -/
def badFilter : Cause := Cause.ofText "Failed to parse the RUST_LOG value set in environment"

end ComputeExchange.LogFilter
