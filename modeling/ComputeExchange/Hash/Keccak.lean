/-!
# Keccak-256

The sponge over the permutation Keccak-f[1600] with a rate of 136 bytes and the padding byte `01`,
as signatures of contract events and the checksums of addresses use it.
-/

namespace ComputeExchange.Keccak

/-- The state of the permutation: 25 lanes, lane `x + 5 y` in column `x` and row `y`. -/
abbrev State := Array UInt64

/-- A lane of a state. -/
def lane (s : State) (i : Nat) : UInt64 := s.getD i 0

/-- Rotation toward the high end. -/
def rotate (w : UInt64) (n : Nat) : UInt64 :=
  if n % 64 = 0 then w
  else (w <<< UInt64.ofNat (n % 64)) ||| (w >>> UInt64.ofNat (64 - n % 64))

/-- The constants of the 24 rounds. -/
def roundConstants : List UInt64 :=
  [0x0000000000000001, 0x0000000000008082, 0x800000000000808A, 0x8000000080008000,
   0x000000000000808B, 0x0000000080000001, 0x8000000080008081, 0x8000000000008009,
   0x000000000000008A, 0x0000000000000088, 0x0000000080008009, 0x000000008000000A,
   0x000000008000808B, 0x800000000000008B, 0x8000000000008089, 0x8000000000008003,
   0x8000000000008002, 0x8000000000000080, 0x000000000000800A, 0x800000008000000A,
   0x8000000080008081, 0x8000000000008080, 0x0000000080000001, 0x8000000080008008]

/-- How far each lane is rotated, in the order of lanes. -/
def offsets : Array Nat :=
  #[0, 1, 62, 28, 27, 36, 44, 6, 55, 20, 3, 10, 43, 25, 39, 41, 45, 15, 21, 8, 18, 2, 61, 56, 14]

/-- Every lane takes in the parities of two neighbouring columns. -/
def theta (s : State) : State :=
  let parity := Array.ofFn fun x : Fin 5 =>
    lane s x ^^^ lane s (x + 5) ^^^ lane s (x + 10) ^^^ lane s (x + 15) ^^^ lane s (x + 20)
  let spread := Array.ofFn fun x : Fin 5 =>
    parity.getD ((x + 4) % 5) 0 ^^^ rotate (parity.getD ((x + 1) % 5) 0) 1
  Array.ofFn fun i : Fin 25 => lane s i ^^^ spread.getD (i % 5) 0

/-- Every lane is rotated and moved: column `y`, row `2 x + 3 y` takes column `x`, row `y`. -/
def rhoPi (s : State) : State :=
  Array.ofFn fun i : Fin 25 =>
    let y := i.val % 5
    let x := (i.val / 5 * 3 + y) % 5
    let source := x * 1 + 5 * y
    rotate (lane s source) (offsets.getD source 0)

/-- Every lane takes in its two successors in the row. -/
def chi (s : State) : State :=
  Array.ofFn fun i : Fin 25 =>
    let row := 5 * (i.val / 5)
    let x := i.val % 5
    lane s (row + x) ^^^ (~~~ lane s (row + (x + 1) % 5) &&& lane s (row + (x + 2) % 5))

/-- One round. -/
def round (s : State) (constant : UInt64) : State :=
  (chi (rhoPi (theta s))).modify 0 (· ^^^ constant)

/-- The permutation. -/
def permute (s : State) : State := roundConstants.foldl round s

/-- The number of bytes taken in at a time. -/
def rate : Nat := 136

/-- The word that up to eight bytes stand for, least significant first. -/
def wordOfBytes : List UInt8 → UInt64
  | [] => 0
  | b :: rest => b.toUInt64 ||| (wordOfBytes rest <<< 8)

/-- Takes a block in, lane by lane. -/
def absorb (s : State) (block : List UInt8) : State :=
  permute (Array.ofFn fun i : Fin 25 =>
    lane s i ^^^ wordOfBytes ((block.drop (8 * i.val)).take 8))

/-- The last block, with its padding. -/
def padBlock (bytes : List UInt8) : List UInt8 :=
  match rate - bytes.length with
  | 0 => bytes
  | 1 => bytes ++ [0x81]
  | n + 2 => bytes ++ 0x01 :: (List.replicate n 0 ++ [0x80])

/-- Takes a whole message in.  `fuel` bounds the number of blocks. -/
def absorbAll : Nat → State → List UInt8 → State
  | 0, s, _ => s
  | fuel + 1, s, bytes =>
    if bytes.length < rate then absorb s (padBlock bytes)
    else absorbAll fuel (absorb s (bytes.take rate)) (bytes.drop rate)

/-- The bytes of a word, least significant first. -/
def bytesOfWord (w : UInt64) : List UInt8 :=
  (List.range 8).map fun i => (w >>> UInt64.ofNat (8 * i)).toUInt8

/-- The 32 bytes of the hash of a message. -/
def hash256 (message : List UInt8) : List UInt8 :=
  let s := absorbAll (message.length / rate + 1) (Array.replicate 25 0) message
  (List.range 4).flatMap fun i => bytesOfWord (lane s i)

end ComputeExchange.Keccak
