import ComputeExchange.Lab.Scenario.Program

/-!
# The command line

Runs a service in the laboratory.  The first argument names the service and the others are its own;
the scenario around it is a JSON text on standard input.  What the service has published is printed
line by line, and the program ends as the service does.
-/

namespace ComputeExchange.Main

/-- The time at which the clock of the laboratory stands. -/
def present : Timestamp := (Timestamp.ofNanos? 1700000000000000000).getD default

/-- The variables of the environment that are set. -/
def environment (names : List String) : IO (List (String × String)) := do
  let values ← names.mapM fun name => do
    return (← IO.getEnv name).map (name, ·)
  return values.filterMap id

/-- Runs a service in the scenario of a text. -/
def run (kind : ServiceKind) (args : List String) (scenario : String) : IO UInt32 := do
  let env ← environment (Settings.settingNames kind)
  let surroundings := (Json.parse? scenario).getD (.object [])
  let result := Lab.Scenario.runService kind args env surroundings present
  for message in result.messages.items do
    IO.println message.compact
  if let some text := result.message then IO.eprintln text
  return UInt32.ofNat result.exitCode

end ComputeExchange.Main

/-- Runs the service that the first argument names. -/
def main (args : List String) : IO UInt32 := do
  match args with
  | name :: args =>
    match ComputeExchange.ServiceKind.ofName? name with
    | some kind =>
      let scenario ← (← IO.getStdin).readToEnd
      ComputeExchange.Main.run kind args scenario
    | none =>
      IO.eprintln "no such service"
      return 2
  | [] =>
    IO.eprintln "a service has to be named"
    return 2
