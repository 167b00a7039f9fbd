/-!
# Instants

An instant is a whole second counted from 1 January 1970 UTC and a number of nanoseconds in it.  The
nanoseconds of a leap second run from 10⁹ on within the second before it, the last of a minute.  The
years −262143 to 262142 can be represented.
-/

namespace ComputeExchange

/-- The number of nanoseconds in a second. -/
abbrev nanosPerSecond : Nat := 1000000000

/-- An instant of coordinated universal time. -/
structure Timestamp where
  seconds : Int
  nanos : Nat
  first_le : -8334601228800 ≤ seconds
  le_last : seconds ≤ 8210266876799
  nanos_lt : nanos < 2 * nanosPerSecond
  leap_last : nanosPerSecond ≤ nanos → seconds % 60 = 59
  deriving DecidableEq

namespace Timestamp

/-- The earliest instant, the start of the year −262143. -/
def earliest : Timestamp := ⟨-8334601228800, 0, by decide, by decide, by decide, by decide⟩

/-- The latest instant outside a leap second, the end of the year 262142. -/
def latest : Timestamp := ⟨8210266876799, 999999999, by decide, by decide, by decide, by decide⟩

instance : Inhabited Timestamp := ⟨⟨0, 0, by decide, by decide, by decide, by decide⟩⟩

/-- The instant at a second and a nanosecond, if it can be represented. -/
def ofParts? (seconds : Int) (nanos : Nat) : Option Timestamp :=
  if h : (-8334601228800 ≤ seconds ∧ seconds ≤ 8210266876799) ∧ nanos < 2 * nanosPerSecond ∧
      (nanosPerSecond ≤ nanos → seconds % 60 = 59) then
    some ⟨seconds, nanos, h.1.1, h.1.2, h.2.1, h.2.2⟩
  else none

/-- Nanoseconds since 1 January 1970. -/
def sinceEpoch (t : Timestamp) : Int := t.seconds * nanosPerSecond + t.nanos

/-- The instant a number of nanoseconds after 1 January 1970, if it can be represented. -/
def ofNanos? (n : Int) : Option Timestamp :=
  ofParts? (n / nanosPerSecond) (n % nanosPerSecond).toNat

/-- The instant a number of nanoseconds later, if it can be represented. -/
def add? (t : Timestamp) (n : Int) : Option Timestamp := ofNanos? (t.sinceEpoch + n)

/-- The order of time: by the second, then within it. -/
def before (a b : Timestamp) : Bool :=
  a.seconds < b.seconds || (a.seconds == b.seconds && a.nanos < b.nanos)

/-- Whole microseconds since 1 January 1970; a part of one is cut off toward 1 January 2000. -/
def microseconds (t : Timestamp) : Int :=
  let epoch : Int := 946684800000000
  epoch + (t.sinceEpoch - epoch * 1000).tdiv 1000

/-- The instant a number of microseconds after 1 January 1970, if it can be represented. -/
def ofMicroseconds? (us : Int) : Option Timestamp := ofNanos? (us * 1000)

end Timestamp

end ComputeExchange
