import ComputeExchange.Clamp

/-!
# When a service is unwell

The limits a health report compares with.  A rate of failures is compared as an exact fraction.
-/

namespace ComputeExchange.Health

/-- A fraction. -/
structure Rate where
  numerator : Int
  denominator : Nat
  deriving DecidableEq, Repr

/-- Whether some failures among all outcomes are a greater part of them than the rate.  Of no
outcomes none are failures. -/
def Rate.isExceeded (rate : Rate) (failures total : Nat) : Bool :=
  if total = 0 then rate.numerator < 0
  else rate.numerator * total < failures * rate.denominator

/-- The limits of a health report.  Spans of time are in nanoseconds. -/
structure Config where
  startupGrace : Nat
  unhealthyConsecutiveErrors : Nat
  degradedConsecutiveErrors : Nat
  unhealthyErrorRate : Rate
  degradedErrorRate : Rate
  unhealthyStale : Nat
  degradedStale : Nat
  unhealthyLag : Int64
  degradedLag : Int64

namespace Config

/-- The limits for a service that covers this many blocks in one pass: it may lag three passes
behind the head of the chain. -/
def forRange (range : UInt64) : Config where
  startupGrace := 300 * 1000000000
  unhealthyConsecutiveErrors := 5
  degradedConsecutiveErrors := 3
  unhealthyErrorRate := ⟨2, 5⟩
  degradedErrorRate := ⟨1, 5⟩
  unhealthyStale := 180 * 1000000000
  degradedStale := 60 * 1000000000
  unhealthyLag := Clamp.signed ((Clamp.signedOfWord range).toInt * 3)
  degradedLag := Clamp.signed ((Clamp.signedOfWord range).toInt * 2)

end Config

end ComputeExchange.Health
