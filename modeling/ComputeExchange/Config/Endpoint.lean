import ComputeExchange.Config.Url

/-!
# Where the services connect to

The port to which the URL of a database or of a message broker leads.  A URL that names no port
leads to the usual one; one that cannot be understood, or that asks for an encrypted connection,
leads nowhere.
-/

namespace ComputeExchange.Endpoint

/-- The parameters in the query of a URL. -/
def parameters (u : Url) : List (String × String) :=
  let afterPath := (u.rest.toList.takeWhile (· ≠ '#')).dropWhile (· ≠ '?')
  ((String.ofList (afterPath.drop 1)).splitOn "&").filterMap fun part =>
    match (Url.unescape part.toList).span (· ≠ '=') with
    | ([], _) => none
    | (name, value) => some (String.ofList name, String.ofList (value.drop 1))

/-- A number below 2¹⁶. -/
def port? (s : String) : Option Nat :=
  let cs := s.toList
  if !cs.isEmpty && cs.all Char.isDigit && Json.ofDigits cs < UInt16.size then
    some (Json.ofDigits cs)
  else none

/-- Whether a way of encryption leaves the connection plain. -/
def isPlainMode (mode : String) : Bool := ["disable", "allow", "prefer"].contains mode.toLower

/-- Takes a parameter of a database's URL into account: the port after it. -/
def databaseParameter (port : Nat) : String × String → Option Nat
  | ("sslmode", mode) => if isPlainMode mode then some port else none
  | ("ssl-mode", mode) => if isPlainMode mode then some port else none
  | ("port", text) => port? text
  | _ => some port

/-- The usual port of a database. -/
def usualDatabasePort : Nat := 5432

/-- The port to which the URL of a database leads. -/
def databasePort? (url : String) : Option Nat := do
  let u ← Url.parse? url
  (parameters u).foldlM databaseParameter (u.port.getD usualDatabasePort)

/-- The usual port of a broker. -/
def usualBrokerPort : Nat := 4222

/-- The port to which the URL of a broker leads; its scheme may be left out. -/
def brokerPort? (url : String) : Option Nat := do
  let u ← Url.parse? (if (url.splitOn "://").length = 1 then "nats://" ++ url else url)
  if u.scheme = "nats" then some (u.port.getD usualBrokerPort) else none

end ComputeExchange.Endpoint
