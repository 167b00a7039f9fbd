import ComputeExchange.Lab.Scenario.Bus
import ComputeExchange.Lab.Scenario.Chain
import ComputeExchange.Lab.Scenario.Clock
import ComputeExchange.Lab.Scenario.Engine
import ComputeExchange.Lab.Scenario.Health
import ComputeExchange.Lab.Scenario.Store
import ComputeExchange.Lab.Scenario.Sync

/-!
# Sessions

A session carries out steps of every sort in one laboratory that starts from nothing.
-/

namespace ComputeExchange.Lab.Scenario

/-- The sorts of step. -/
def stepSorts : List (String → Json → Option Step) :=
  [clockStep, storeStep, busStep, dispatchStep, registryStep, settlementStep, taskStep, syncStep,
    plainStep, chainStep, healthStep]

/-- The step that a JSON object describes. -/
def stepOf (j : Json) : Step :=
  ((stepSorts.findSome? fun sort => sort (j.textAt "do") j).getD (return .unknown))

/-- What a session does with a step: most come to one reply, a group to a list. -/
inductive SessionReply where
  | one (r : Reply)
  | many (rs : List Reply)

/-- Carries out a step of a session. -/
def sessionStep (j : Json) : StateM Bench SessionReply := do
  if j.textAt "do" = "settle_all" then return .many (← settleTogether (j.texts "jobs"))
  else return .one (← stepOf j)

/-- The laboratory that a session starts with; `now` is the wall clock if none is given. -/
def benchOf (j : Json) (now : Timestamp) : Bench :=
  let contract := if j.has "contract" then addressAt j "contract" else Bytes.fill 20 0xcc
  let threshold := Registry.thresholdOfSeconds (j.wordOr "threshold_secs" 300)
  .start { World.start (timeAt j "now" now) contract threshold with
    cursors := if j.flag "separate_cursors" then some .empty else none
    readsChain := j.flag "evm_ledger" }

/-- Carries out a session: what each step comes to. -/
def runSession (j : Json) (now : Timestamp) : List SessionReply :=
  (runSteps sessionStep (j.list "steps") (benchOf j now)).1

end ComputeExchange.Lab.Scenario
