/-!
# Recent outcomes

The outcomes of the last hundred passes, with the number of failures among them kept beside them.
-/

namespace ComputeExchange.Health

/-- How many outcomes are remembered. -/
def outcomeLimit : Nat := 100

/-- The latest outcomes, the oldest first; `true` is a success. -/
structure Outcomes where
  window : List Bool
  failures : Nat
  deriving DecidableEq, Inhabited

namespace Outcomes

/-- No outcomes yet. -/
def empty : Outcomes := ⟨[], 0⟩

/-- Drops the oldest outcome if the window is full. -/
def evict (o : Outcomes) : Outcomes :=
  if o.window.length = outcomeLimit then
    ⟨o.window.drop 1, if o.window.head? = some false then o.failures - 1 else o.failures⟩
  else o

/-- The outcomes after one more. -/
def push (o : Outcomes) (ok : Bool) : Outcomes :=
  let o := o.evict
  ⟨o.window ++ [ok], if ok then o.failures else o.failures + 1⟩

/-- How many of the latest outcomes are failures without a success after them. -/
def trailingFailures (o : Outcomes) : Nat := (o.window.reverse.takeWhile (!·)).length

end Outcomes

end ComputeExchange.Health
