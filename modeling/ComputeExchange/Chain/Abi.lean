import ComputeExchange.Chain.Address
import ComputeExchange.Text.Utf8

/-!
# The contract ABI

Arguments are laid out in 32-byte words: first one word for each argument in order, then the
contents of the dynamic ones.  The word of a dynamic argument is the distance from the start of the
layout to its content.  A string is its length and its bytes, filled up with zeros to whole words.

Reading follows the distances and takes what it finds: bytes that nothing points to are ignored.
-/

namespace ComputeExchange.Abi

/-! ### Writing -/

/-- An argument: a word in place, or content that a word points to. -/
inductive Part where
  | word (w : Word)
  | content (bytes : List UInt8)

/-- A number as an argument. -/
def Part.nat (n : Nat) : Part := .word (Word.ofNat n)

/-- An address as an argument. -/
def Part.address (a : Address) : Part := .word (Word.ofAddress a)

/-- A string as an argument: its length, its bytes, and zeros up to a whole word. -/
def Part.string (s : String) : Part :=
  let bytes := Utf8.encode s
  .content (bytesOfNat 32 bytes.length ++ bytes ++
    List.replicate ((32 - bytes.length % 32) % 32) 0)

/-- The contents of the dynamic arguments, one after the other. -/
def contents : List Part → List UInt8
  | [] => []
  | .word _ :: rest => contents rest
  | .content bytes :: rest => bytes ++ contents rest

/-- The words of the arguments; `next` is the distance at which the next content will stand. -/
def words (next : Nat) : List Part → List UInt8
  | [] => []
  | .word w :: rest => w.toList ++ words next rest
  | .content bytes :: rest => bytesOfNat 32 next ++ words (next + bytes.length) rest

/-- The layout of some arguments. -/
def encode (parts : List Part) : List UInt8 := words (32 * parts.length) parts ++ contents parts

/-! ### Reading -/

/-- The word at a distance, if it lies within the bytes. -/
def wordAt? (bytes : List UInt8) (at_ : Nat) : Option Word :=
  Bytes.ofList? 32 ((bytes.drop at_).take 32)

/-- The number in the `i`-th word. -/
def nat? (bytes : List UInt8) (i : Nat) : Option Nat := (wordAt? bytes (32 * i)).map Word.toNat

/-- The address in the `i`-th word. -/
def address? (bytes : List UInt8) (i : Nat) : Option Address :=
  (wordAt? bytes (32 * i)).map Word.toAddress

/-- A distance or a length in the `i`-th word; one that no machine word holds is refused. -/
def size? (bytes : List UInt8) (i : Nat) : Option Nat := (nat? bytes i).filter (· < UInt64.size)

/-- The bytes from the content of the `i`-th argument on. -/
def content? (bytes : List UInt8) (i : Nat) : Option (List UInt8) := do
  let distance ← size? bytes i
  if distance ≤ bytes.length then some (bytes.drop distance) else none

/-- The string that is the `i`-th argument. -/
def string? (bytes : List UInt8) (i : Nat) : Option String := do
  let content ← content? bytes i
  let length ← size? content 0
  let text := content.drop 32
  if length ≤ text.length then some (Utf8.decodeLossy (text.take length)) else none

end ComputeExchange.Abi
