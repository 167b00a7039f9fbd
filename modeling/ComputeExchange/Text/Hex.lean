/-!
# Hexadecimal text

Bytes as pairs of hexadecimal digits.  Written in lower case, read in either, with or without the
leading `0x`.  Main statement: `decode_encode`.
-/

namespace ComputeExchange.Hex

/-- The lower-case digit of a number below sixteen. -/
def digit (n : Nat) : Char :=
  if n < 10 then Char.ofNat (48 + n) else Char.ofNat (87 + n)

/-- The number a digit stands for. -/
def value? (c : Char) : Option Nat :=
  if '0' ≤ c ∧ c ≤ '9' then some (c.toNat - 48)
  else if 'a' ≤ c ∧ c ≤ 'f' then some (c.toNat - 87)
  else if 'A' ≤ c ∧ c ≤ 'F' then some (c.toNat - 55)
  else none

/-- Two digits for each byte, in lower case. -/
def encode : List UInt8 → List Char
  | [] => []
  | b :: rest => digit (b.toNat / 16) :: digit (b.toNat % 16) :: encode rest

/-- The bytes that pairs of digits stand for; an odd digit or a foreign character is refused. -/
def decode? : List Char → Option (List UInt8)
  | [] => some []
  | [_] => none
  | a :: b :: rest => do
    let x ← value? a
    let y ← value? b
    let bytes ← decode? rest
    return UInt8.ofNat (x * 16 + y) :: bytes

/-- Text without a leading `0x` or `0X`. -/
def bare : List Char → List Char
  | '0' :: 'x' :: rest => rest
  | '0' :: 'X' :: rest => rest
  | cs => cs

/-- The lower-case text of some bytes, after `0x`. -/
def text (bytes : List UInt8) : String := String.ofList ('0' :: 'x' :: encode bytes)

/-- The bytes of a text, with or without `0x` in front. -/
def ofText? (s : String) : Option (List UInt8) := decode? (bare s.toList)

theorem value?_digit : ∀ n < 16, value? (digit n) = some n := by decide

theorem decode_encode (bytes : List UInt8) : decode? (encode bytes) = some bytes := by
  induction bytes with
  | nil => rfl
  | cons b rest ih =>
    have hb := b.toNat_lt
    have h : UInt8.ofNat (b.toNat / 16 * 16 + b.toNat % 16) = b := by
      rw [Nat.div_add_mod']; exact UInt8.ofNat_toNat
    simp only [encode, decode?, value?_digit _ (show b.toNat / 16 < 16 by omega),
      value?_digit _ (show b.toNat % 16 < 16 by omega), ih, h, Option.bind_eq_bind,
      Option.bind_some, Option.pure_def]

theorem length_encode (bytes : List UInt8) : (encode bytes).length = 2 * bytes.length := by
  induction bytes with
  | nil => rfl
  | cons b rest ih => simp [encode, ih]; omega

end ComputeExchange.Hex
