import ComputeExchange.Cause
import ComputeExchange.Json.Reader
import ComputeExchange.Text.Hex

/-!
# Addresses on the network

The parts of a URL that say where to connect, by the rules of the URL standard of the web: schemes
with a known port always have a host, other schemes have one after two slashes.
-/

namespace ComputeExchange

/-- The parts of a URL up to its path. -/
structure Url where
  scheme : String
  user : String
  password : Option String
  /-- The host, empty if there is none. -/
  host : String
  port : Option Nat
  /-- What follows the host. -/
  rest : String
  deriving DecidableEq, Repr

namespace Url

/-- The schemes with a known port, and the port. -/
def knownPorts : List (String × Nat) :=
  [("http", 80), ("https", 443), ("ws", 80), ("wss", 443), ("ftp", 21)]

/-- Whether a character counts as nothing at the ends of a URL. -/
def isEdge (c : Char) : Bool := c.toNat ≤ 32

/-- A text without what counts as nothing: control characters and spaces at the ends, tabs and line
breaks anywhere. -/
def clean (cs : List Char) : List Char :=
  (((cs.dropWhile isEdge).reverse.dropWhile isEdge).reverse).filter fun c =>
    c ≠ '\t' && c ≠ '\n' && c ≠ '\r'

/-- Splits off the scheme. -/
def scheme? (cs : List Char) : Option (String × List Char) :=
  match cs.span (· ≠ ':') with
  | (c :: name, ':' :: rest) =>
    if c.isAlpha && name.all (fun c => c.isAlphanum || c = '+' || c = '-' || c = '.') then
      some ((String.ofList (c :: name)).toLower, rest)
    else none
  | _ => none

/-- Whether a character may not stand in a host. -/
def isForbidden (opaqueHost : Bool) (c : Char) : Bool :=
  "\x00\t\n\r #/:<>?@[\\]^|".toList.contains c ||
    (!opaqueHost && (c.toNat < 32 || c = '%' || c.toNat = 127))

/-- The bytes of a text as characters, with escaped bytes taken for what they stand for. -/
def unescape : List Char → List Char
  | '%' :: a :: b :: rest =>
    match Hex.value? a, Hex.value? b with
    | some x, some y => Char.ofNat (x * 16 + y) :: unescape rest
    | _, _ => '%' :: unescape (a :: b :: rest)
  | c :: rest => c :: unescape rest
  | [] => []
termination_by cs => cs.length

/-- The number that a part of an IPv4 address stands for: octal after `0`, hexadecimal after `0x`.
-/
def ipv4Part? (cs : List Char) : Option Nat :=
  match cs with
  | [] => none
  | '0' :: 'x' :: hex =>
    if hex.all fun c => (Hex.value? c).isSome then
      some (hex.foldl (fun n c => n * 16 + (Hex.value? c).getD 0) 0)
    else none
  | '0' :: oct@(_ :: _) =>
    if oct.all fun c => '0' ≤ c && c ≤ '7' then
      some (oct.foldl (fun n c => n * 8 + (c.toNat - 48)) 0)
    else none
  | cs => if cs.all Char.isDigit then some (Json.ofDigits cs) else none

/-- Whether a host whose last part is a number is an IPv4 address; any other host is none, and may
be what it likes. -/
def isPlausibleHost (host : List Char) : Bool :=
  let parts := (String.ofList host).toLower.splitOn "."
  let parts := if parts.length > 1 && parts.getLast? = some "" then parts.dropLast else parts
  match parts.getLast? with
  | none => true
  | some last =>
    let digits := !last.isEmpty && last.toList.all Char.isDigit
    if digits || (last.startsWith "0x" && (ipv4Part? last.toList).isSome) then
      match parts.mapM fun p => ipv4Part? p.toList with
      | none => false
      | some numbers =>
        numbers.length ≤ 4 && numbers.dropLast.all (· ≤ 255) &&
          (numbers.getLast?.getD 0) < Nat.pow 256 (5 - numbers.length)
    else true

/-- Reads a host: an IPv6 address in brackets, or a name. -/
def host? (known : Bool) (cs : List Char) : Option (List Char) :=
  match cs with
  | '[' :: inner =>
    if inner.getLast? = some ']' &&
        inner.dropLast.all (fun c => (Hex.value? c).isSome || c = ':' || c = '.')
        && inner.contains ':' then some cs
    else none
  | _ =>
    let cs := if known then unescape cs else cs
    if cs.any (isForbidden !known) then none
    else if known && (cs.isEmpty || !isPlausibleHost cs) then none
    else some cs

/-- Splits a text at the last of a character. -/
def splitLast (mark : Char) (cs : List Char) : Option (List Char × List Char) :=
  match cs.reverse.span (· ≠ mark) with
  | (after, _ :: before) => some (before.reverse, after.reverse)
  | (_, []) => none

/-- Splits the port from a host. -/
def splitPort (cs : List Char) : Option (List Char × Option Nat) :=
  match cs with
  | '[' :: _ =>
    match splitLast ']' cs with
    | some (before, []) => some (before ++ [']'], none)
    | some (before, ':' :: port) => readPort (before ++ [']']) port
    | _ => none
  | _ =>
    match cs.span (· ≠ ':') with
    | (host, _ :: port) => readPort host port
    | (host, []) => some (host, none)
where
  /-- Reads a port, which may be left out after its colon. -/
  readPort (host port : List Char) : Option (List Char × Option Nat) :=
    if port.isEmpty then some (host, none)
    else if port.all Char.isDigit && Json.ofDigits port < UInt16.size then
      some (host, some (Json.ofDigits port))
    else none

/-- Reads what follows the slashes before a host. -/
def authority? (scheme : String) (known : Bool) (cs : List Char) : Option Url := do
  let ends (c : Char) : Bool := c = '/' || c = '?' || c = '#' || (known && c = '\\')
  let (authority, rest) := cs.span fun c => !ends c
  let (login, server) :=
    match splitLast '@' authority with
    | some (login, server) => (some login, server)
    | none => (none, authority)
  let (hostText, port) ← splitPort server
  let host ← host? known hostText
  if host.isEmpty && (login.isSome || port.isSome) then none
  let (user, password) :=
    match (login.getD []).span (· ≠ ':') with
    | (user, _ :: password) => (user, some (String.ofList password))
    | (user, []) => (user, none)
  let port := if knownPorts.lookup scheme = port then none else port
  return ⟨scheme, String.ofList user, password, (String.ofList host).toLower, port,
    String.ofList rest⟩

/-- Reads a URL. -/
def parse? (s : String) : Option Url := do
  let (scheme, cs) ← scheme? (clean s.toList)
  if (knownPorts.lookup scheme).isSome then
    authority? scheme true (cs.dropWhile fun c => c = '/' || c = '\\')
  else
    match cs with
    | '/' :: '/' :: cs => authority? scheme false cs
    | _ => some ⟨scheme, "", none, "", none, String.ofList cs⟩

/-- The port to connect to, if it is known. -/
def connectPort? (u : Url) : Option Nat := u.port.or (knownPorts.lookup u.scheme)

end Url

/-- The failure to read the URL of a chain's node. -/
def badNodeUrl (url : String) : Cause := Cause.ofText s!"Failed to parse RPC URL {url}"

end ComputeExchange
