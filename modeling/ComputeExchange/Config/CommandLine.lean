import ComputeExchange.Json.Reader

/-!
# Command lines

Options with a long name and a value each.  A value stands after the option or behind an equals
sign; one that is not given is taken from the environment, else from a default.  The first fault met
on the way from left to right is the answer, then those of the environment, then a missing option.
-/

namespace ComputeExchange.CommandLine

/-- What the value of an option has to be. -/
inductive ValueKind where
  | text
  /-- A number below 2⁶⁴. -/
  | word
  /-- A number below 2¹⁶. -/
  | port
  deriving DecidableEq

/-- An option. -/
structure OptionSpec where
  /-- The name after the two dashes. -/
  long : String
  /-- The name in the environment. -/
  variable_ : String
  kind : ValueKind
  fallback : Option String
  isRequired : Bool

/-- Why a command line is not taken. -/
inductive Fault where
  | missingRequired
  | unknownArgument
  | valueValidation
  /-- An option stands without its value. -/
  | missingValue
  /-- An option stands twice. -/
  | conflict
  /-- A value is given to what takes none. -/
  | tooManyValues
  | help
  | version
  deriving DecidableEq, Repr

/-- The digits of a number, perhaps after a sign that is allowed. -/
def readNumber (signs : List Char) (s : String) : Option Int :=
  let digits (negative : Bool) (cs : List Char) : Option Int :=
    if cs.isEmpty || !cs.all Char.isDigit then none
    else some (if negative then -(Json.ofDigits cs : Int) else Json.ofDigits cs)
  match s.toList with
  | c :: rest => if signs.contains c then digits (c == '-') rest else digits false (c :: rest)
  | [] => none

/-- Whether a value is of a kind. -/
def ValueKind.admits : ValueKind → String → Bool
  | .text, _ => true
  | .word, s => (readNumber ['+'] s).any fun (n : Int) => n < UInt64.size
  | .port, s => (readNumber ['+', '-'] s).any fun (n : Int) => 0 ≤ n && n < UInt16.size

/-- What has been read so far. -/
structure Reading where
  /-- The values of options, by long name. -/
  given : List (String × String)
  /-- The option that was met last, with its value if that has been met: it is looked at when the
  next option comes. -/
  pending : Option (OptionSpec × Option String)

namespace Reading

/-- Takes the value of an option: no option has two. -/
def accept (r : Reading) (spec : OptionSpec) (value : String) : Except Fault Reading :=
  if (r.given.lookup spec.long).isSome then .error .conflict
  else if spec.kind.admits value then .ok { r with given := r.given ++ [(spec.long, value)] }
  else .error .valueValidation

/-- Takes the value of the pending option. -/
def settle (r : Reading) : Except Fault Reading :=
  match r.pending with
  | none => .ok r
  | some (_, none) => .error .missingValue
  | some (spec, some value) => { r with pending := none }.accept spec value

end Reading

/-- What a program can be asked. -/
structure Grammar where
  options : List OptionSpec
  /-- Whether it tells its version. -/
  hasVersion : Bool

/-- The part before an equals sign, and the part after it if there is one. -/
def splitEquals (cs : List Char) : List Char × Option (List Char) :=
  match cs.span (· ≠ '=') with
  | (name, _ :: value) => (name, some value)
  | (name, []) => (name, none)

namespace Grammar

/-- Deals with a long option: its name, and what stands behind an equals sign. -/
def long (g : Grammar) (r : Reading) (name : String) (attached : Option String) :
    Except Fault Reading :=
  match g.options.find? (·.long == name) with
  | some spec => do
    let r ← r.settle
    match attached with
    | some value => r.accept spec value
    | none => return { r with pending := some (spec, none) }
  | none =>
    if name = "help" || (g.hasVersion && name = "version") then
      match attached with
      | some _ => .error .tooManyValues
      | none => do
        let _ ← r.settle
        .error (if name = "help" then .help else .version)
    else .error .unknownArgument

/-- Deals with a short option: only those for help and for the version are known. -/
def short (g : Grammar) (r : Reading) (c : Char) : Except Fault Reading :=
  if c = 'h' then do
    let _ ← r.settle
    .error .help
  else if g.hasVersion && c = 'V' then do
    let _ ← r.settle
    .error .version
  else .error .unknownArgument

/-- Deals with one argument before the two dashes that end the options. -/
def argument (g : Grammar) (r : Reading) (arg : String) : Except Fault Reading :=
  match arg.toList with
  | '-' :: '-' :: rest =>
    let (name, value) := splitEquals rest
    g.long r (String.ofList name) (value.map String.ofList)
  | '-' :: c :: _ => g.short r c
  | _ =>
    match r.pending with
    | some (spec, none) => .ok { r with pending := some (spec, some arg) }
    | _ => .error .unknownArgument

/-- Reads arguments.  After two dashes alone nothing may come. -/
def arguments (g : Grammar) : Reading → List String → Except Fault Reading
  | r, [] => r.settle
  | r, arg :: rest =>
    if arg = "--" then if rest.isEmpty then r.settle else .error .unknownArgument
    else do
      let r ← g.argument r arg
      g.arguments r rest

/-- Takes values from the environment for options that are not given. -/
def environment (r : Reading) (env : List (String × String)) :
    List OptionSpec → Except Fault Reading
  | [] => .ok r
  | spec :: specs =>
    match r.given.lookup spec.long, env.lookup spec.variable_ with
    | none, some value => do
      let r ← r.accept spec value
      environment r env specs
    | _, _ => environment r env specs

/-- Reads a whole command line: the values of options by long name, defaults included. -/
def read (g : Grammar) (args : List String) (env : List (String × String)) :
    Except Fault (List (String × String)) := do
  let r ← g.arguments ⟨[], none⟩ args
  let r ← environment r env g.options
  if g.options.any fun spec => spec.isRequired && (r.given.lookup spec.long).isNone then
    .error .missingRequired
  return r.given ++ g.options.filterMap fun spec => spec.fallback.map (spec.long, ·)

end Grammar

/-- The text of an option among values. -/
def textOf (values : List (String × String)) (long : String) : String :=
  (values.lookup long).getD ""

/-- The number of an option among values, if it is given. -/
def natOf? (values : List (String × String)) (long : String) : Option Nat :=
  (values.lookup long).bind fun s => (readNumber ['+', '-'] s).map Int.toNat

end ComputeExchange.CommandLine
