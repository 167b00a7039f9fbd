import ComputeExchange.Json.Basic

/-!
# Numbers as doubles

In a value that is kept whole, a number that is no 64-bit integer is a double: as many leading
digits as a word holds are taken, and the rest only counts as a power of ten.
-/

namespace ComputeExchange.Json

/-- The leading digits of a number that a word holds, and how many digits are left out. -/
def leadingDigits (n : Nat) : Nat × Nat :=
  if n < UInt64.size then (n, 0)
  else
    let (leading, dropped) := leadingDigits (n / 10)
    (leading, dropped + 1)
termination_by n
decreasing_by
  rename_i h
  have : 0 < UInt64.size := by decide
  omega

/-- The greatest power of ten that is a double. -/
def greatestPower : Nat := 308

/-- A power of ten as a double. -/
def powerOfTen (n : Nat) : Float := Float.ofScientific 1 false n

/-- A double divided by a power of ten, in steps that are doubles themselves.  `fuel` bounds their
number: three of them bring every word to zero. -/
def divideByPower : (fuel : Nat) → Float → Nat → Float
  | 0, _, _ => 0
  | fuel + 1, f, n =>
    if n ≤ greatestPower then f / powerOfTen n
    else divideByPower fuel (f / powerOfTen greatestPower) (n - greatestPower)

/-- The double that some digits and a power of ten stand for. -/
def doubleOf (significand : Nat) (exponent : Int) : Float :=
  let (leading, dropped) := leadingDigits significand
  let scale : Int := exponent + (dropped : Int)
  let f := (UInt64.ofNat leading).toFloat
  if leading = 0 then 0
  else if 0 ≤ scale then f * powerOfTen scale.toNat
  else divideByPower 3 f (-scale).toNat

/-- The leading bit of the significand, which a double does not hold: 2⁵². -/
def hiddenBit : Nat := 0x10000000000000

/-- The exact value of a double that is finite. -/
def Number.ofDouble (negative : Bool) (d : Float) : Number :=
  let bits : Nat := d.toBits.toNat
  let field : Nat := bits / hiddenBit % 2048
  let fraction : Nat := bits % hiddenBit
  let (m, q) : Nat × Int :=
    if field = 0 then (fraction, -1074) else (hiddenBit + fraction, (field : Int) - 1075)
  if 0 ≤ q then .decimal negative (m * Nat.pow 2 q.toNat) 0
  else .decimal negative (m * Nat.pow 5 (-q).toNat) q

/-- A number as a 64-bit integer or as a double. -/
def Number.rounded : Number → Number
  | .whole i =>
    if Int64.minValue.toInt ≤ i ∧ i < UInt64.size then .whole i
    else ofDouble (i < 0) (doubleOf i.natAbs 0)
  | .decimal negative significand exponent => ofDouble negative (doubleOf significand exponent)

mutual

/-- A value whose numbers are 64-bit integers or doubles. -/
def rounded : Json → Json
  | .number n => .number n.rounded
  | .array items => .array (roundedItems items)
  | .object members => .object (roundedMembers members)
  | j => j

/-- Items whose numbers are 64-bit integers or doubles. -/
def roundedItems : List Json → List Json
  | [] => []
  | x :: rest => rounded x :: roundedItems rest

/-- Members whose numbers are 64-bit integers or doubles. -/
def roundedMembers : List (Option String × Json) → List (Option String × Json)
  | [] => []
  | (name, x) :: rest => (name, rounded x) :: roundedMembers rest

end

end ComputeExchange.Json
