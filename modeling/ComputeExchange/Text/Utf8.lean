/-!
# Reading bytes as text

UTF-8 with a substitute for what is malformed: every longest start of a character that does not go
on as one is replaced, in a text that is to be shown by the character U+FFFD.
-/

namespace ComputeExchange.Utf8

/-- The character that stands for malformed bytes. -/
def substitute : Char := '\uFFFD'

/-- A character of which some bytes have been read: the bits so far, how many bytes are owed, and
the range the next one must lie in. -/
structure Partial where
  bits : Nat
  owed : Nat
  least : Nat
  greatest : Nat

/-- What a byte between characters is: a character, the start of a longer one, or malformed. -/
inductive Start where
  | whole (c : Char)
  | first (p : Partial)
  | malformed

/-- How a byte between characters is read. -/
def start (b : Nat) : Start :=
  if b < 0x80 then .whole (Char.ofNat b)
  else if b < 0xC2 then .malformed
  else if b < 0xE0 then .first ⟨b - 0xC0, 1, 0x80, 0xBF⟩
  else if b = 0xE0 then .first ⟨0, 2, 0xA0, 0xBF⟩
  else if b = 0xED then .first ⟨0xD, 2, 0x80, 0x9F⟩
  else if b < 0xF0 then .first ⟨b - 0xE0, 2, 0x80, 0xBF⟩
  else if b = 0xF0 then .first ⟨0, 3, 0x90, 0xBF⟩
  else if b < 0xF4 then .first ⟨b - 0xF0, 3, 0x80, 0xBF⟩
  else if b = 0xF4 then .first ⟨4, 3, 0x80, 0x8F⟩
  else .malformed

/-- Reads on from between characters, or from within one, with `instead` for what is malformed. -/
def readFrom (instead : List Char) : Option Partial → List UInt8 → List Char
  | none, [] => []
  | some _, [] => instead
  | none, b :: rest =>
    match start b.toNat with
    | .whole c => c :: readFrom instead none rest
    | .first p => readFrom instead (some p) rest
    | .malformed => instead ++ readFrom instead none rest
  | some p, b :: rest =>
    let n := b.toNat
    if p.least ≤ n ∧ n ≤ p.greatest then
      let bits := p.bits * 64 + (n - 0x80)
      if p.owed ≤ 1 then Char.ofNat bits :: readFrom instead none rest
      else readFrom instead (some ⟨bits, p.owed - 1, 0x80, 0xBF⟩) rest
    else
      instead ++
        match start n with
        | .whole c => c :: readFrom instead none rest
        | .first p => readFrom instead (some p) rest
        | .malformed => instead ++ readFrom instead none rest

/-- The text of some bytes, with `instead` for what is malformed. -/
def decode (instead : List Char) (bytes : List UInt8) : String :=
  String.ofList (readFrom instead none bytes)

/-- The text of some bytes, with substitutes for what is malformed. -/
def decodeLossy (bytes : List UInt8) : String := decode [substitute] bytes

/-- The bytes of a text. -/
def encode (s : String) : List UInt8 := s.toUTF8.toList

end ComputeExchange.Utf8
