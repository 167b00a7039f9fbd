import ComputeExchange.Cause
import ComputeExchange.Hash.Keccak
import ComputeExchange.Text.Hex

/-!
# Addresses and words of a chain

An account or contract has an address of 20 bytes; jobs, transactions and log topics are words of 32
bytes.  The text of an address carries a checksum in the case of its letters.
-/

namespace ComputeExchange

/-- Exactly `n` bytes. -/
structure Bytes (n : Nat) where
  toList : List UInt8
  length_eq : toList.length = n
  deriving DecidableEq

/-- An account or a contract. -/
abbrev Address := Bytes 20

/-- A word of a chain. -/
abbrev Word := Bytes 32

namespace Bytes

/-- The bytes of a list of the right length. -/
def ofList? (n : Nat) (bytes : List UInt8) : Option (Bytes n) :=
  if h : bytes.length = n then some ⟨bytes, h⟩ else none

/-- All bytes zero. -/
def zero (n : Nat) : Bytes n := ⟨List.replicate n 0, List.length_replicate⟩

instance (n : Nat) : Inhabited (Bytes n) := ⟨zero n⟩

/-- The same byte throughout. -/
def fill (n : Nat) (b : UInt8) : Bytes n := ⟨List.replicate n b, List.length_replicate⟩

/-- The lower-case text of some bytes, after `0x`. -/
def hex {n : Nat} (b : Bytes n) : String := Hex.text b.toList

/-- The bytes of a hexadecimal text of the right length, with or without `0x` in front. -/
def ofHex? (n : Nat) (s : String) : Option (Bytes n) := (Hex.ofText? s).bind (ofList? n)

/-- The last bytes, with zeros in front if there are too few. -/
def lastOf (n : Nat) (bytes : List UInt8) : Bytes n :=
  ⟨List.replicate (n - bytes.length) 0 ++ bytes.drop (bytes.length - n), by
    simp [List.length_drop]; omega⟩

end Bytes

/-! ### Numbers in words -/

/-- The number that bytes stand for, most significant first. -/
def natOfBytes (bytes : List UInt8) : Nat := bytes.foldl (fun n b => n * 256 + b.toNat) 0

/-- A number in a given count of bytes, most significant first; what does not fit is dropped. -/
def bytesOfNat : (count : Nat) → Nat → List UInt8
  | 0, _ => []
  | count + 1, n => bytesOfNat count (n / 256) ++ [UInt8.ofNat (n % 256)]

theorem length_bytesOfNat (count n : Nat) : (bytesOfNat count n).length = count := by
  induction count generalizing n with
  | zero => rfl
  | succ count ih => simp [bytesOfNat, ih]

/-- A number as a word. -/
def Word.ofNat (n : Nat) : Word := ⟨bytesOfNat 32 n, length_bytesOfNat 32 n⟩

/-- The number of a word. -/
def Word.toNat (w : Word) : Nat := natOfBytes w.toList

/-- An address in the low bytes of a word. -/
def Word.ofAddress (a : Address) : Word :=
  ⟨List.replicate 12 0 ++ a.toList, by simp [a.length_eq]⟩

/-- The address in the low bytes of a word; the other bytes do not count. -/
def Word.toAddress (w : Word) : Address := ⟨w.toList.drop 12, by simp [w.length_eq]⟩

/-! ### Checksummed text -/

namespace Address

/-- The digits of an address with their case chosen by the digits of a hash: a letter is upper case
where the hash has eight or more. -/
def applyCase : List Char → List Char → List Char
  | c :: cs, h :: hs => (if 8 ≤ (Hex.value? h).getD 0 then c.toUpper else c) :: applyCase cs hs
  | cs, [] => cs
  | [], _ => []

/-- The text of an address with its checksum: the case of each letter is decided by the hash of the
lower-case text. -/
def checksummed (a : Address) : String :=
  let digits := Hex.encode a.toList
  let hash := Hex.encode (Keccak.hash256 (digits.map fun c => UInt8.ofNat c.toNat))
  String.ofList ('0' :: 'x' :: applyCase digits hash)

/-- Reads the text of an address; letters of either case are taken.  The failure names what the
address was wanted for. -/
def parse (value what : String) : Except Cause Address :=
  match Bytes.ofHex? 20 value with
  | some a => .ok a
  | none => .error (Cause.ofText s!"Failed to parse {what} '{value}' into an ethereum address")

end Address

end ComputeExchange
