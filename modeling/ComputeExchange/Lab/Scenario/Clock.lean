import ComputeExchange.Lab.Scenario.Basic

/-!
# Steps of time
-/

namespace ComputeExchange.Lab.Scenario

/-- Steps that move the clocks. -/
def clockStep (name : String) (j : Json) : Option Step :=
  match name with
  | "clock" => some do
    modify fun bench =>
      let wall := bench.world.wall
      let wall :=
        match j.int? "add" with
        | some n => (wall.add? n).getD wall
        | none => timeAt j "at" wall
      { bench with world := { bench.world with wall := wall } }
    return .value (← get).world.wall.toJson
  | "sleep" => some do
    modify (Bench.sleep (j.natOr "secs" 0))
    return .value (← get).world.wall.toJson
  | _ => none

end ComputeExchange.Lab.Scenario
