import ComputeExchange.Chain.Address
import Mathlib.Tactic

/-!
# Texts of addresses and words

Bytes are spelled with two digits each.  The spelling is given here digit by digit: the `i`-th digit
stands for the `i`-th half byte (`Hex.nibble`) and is upper or lower case as a rule for positions
says (`Hex.spelled`).  Words and transactions are spelled in lower case throughout
(`Bytes.hex_eq_spelled`).  The `i`-th digit of an address is upper case exactly where the hash of
its lower-case digits has an `i`-th half byte of eight or more (`Address.checksummed_eq_spelled`).

In whatever case digits are spelled, they are read as the bytes that they spell
(`Hex.decode?_spelledDigits`).  So an address is read back from its text
(`Address.parse_checksummed`), and no other has the same.
-/

namespace ComputeExchange

namespace Hex

/-! ### Spelling -/

/-- The `i`-th half byte, the high half of a byte before the low one. -/
def nibble (bytes : List UInt8) (i : Nat) : Nat :=
  let b := (bytes.getD (i / 2) 0).toNat
  if i % 2 = 0 then b / 16 else b % 16

/-- The digit of a half byte in either case. -/
def spelledDigit (isUpper : Bool) (n : Nat) : Char :=
  (if isUpper then "0123456789ABCDEF" else "0123456789abcdef").toList.getD n '0'

/-- Two digits for each byte, upper case at the positions that a rule names. -/
def spelledDigits (isUpper : Nat → Bool) (bytes : List UInt8) : List Char :=
  (List.range (2 * bytes.length)).map fun i => spelledDigit (isUpper i) (nibble bytes i)

/-- The text of some bytes: `0x`, and the digits. -/
def spelled (isUpper : Nat → Bool) (bytes : List UInt8) : String :=
  String.ofList ('0' :: 'x' :: spelledDigits isUpper bytes)

/-- Lower case at every position. -/
def lower : Nat → Bool := fun _ => false

variable {isUpper : Nat → Bool} {b : UInt8} {bytes : List UInt8}

/-- Behind the digits of a byte stand those of the next ones. -/
lemma nibble_cons_add_two (i : Nat) : nibble (b :: bytes) (i + 2) = nibble bytes i := by
  rw [nibble, nibble, Nat.add_div_right i (by decide), Nat.add_mod_right, List.getD_cons_succ]

lemma spelledDigits_cons : spelledDigits isUpper (b :: bytes) =
    spelledDigit (isUpper 0) (b.toNat / 16) :: spelledDigit (isUpper 1) (b.toNat % 16) ::
      spelledDigits (fun i => isUpper (i + 2)) bytes := by
  have hrange : List.range (2 * (b :: bytes).length) =
      0 :: 1 :: (List.range (2 * bytes.length)).map (· + 2) := by
    rw [List.length_cons, Nat.mul_succ, List.range_succ_eq_map, List.range_succ_eq_map,
      List.map_cons, List.map_map]
    rfl
  rw [spelledDigits, hrange, List.map_cons, List.map_cons, List.map_map, spelledDigits]
  refine congrArg₂ _ rfl (congrArg₂ _ rfl (List.map_congr_left fun i _ => ?_))
  rw [Function.comp_apply, nibble_cons_add_two]

/-! ### Reading -/

lemma nibble_lt (bytes : List UInt8) (i : Nat) : nibble bytes i < 16 := by
  have hbyte := (bytes.getD (i / 2) 0).toNat_lt
  rw [nibble]
  split_ifs <;> omega

/-- A digit in either case stands for its half byte. -/
lemma value?_spelledDigit : ∀ isUpper, ∀ n < 16, value? (spelledDigit isUpper n) = some n := by
  decide

/-- Spelled digits are read as the bytes that they spell. -/
theorem decode?_spelledDigits : decode? (spelledDigits isUpper bytes) = some bytes := by
  induction bytes generalizing isUpper with
  | nil => rfl
  | cons b bytes ih =>
    have hb := b.toNat_lt
    have hhigh := value?_spelledDigit (isUpper 0) (b.toNat / 16) (by omega)
    have hlow := value?_spelledDigit (isUpper 1) (b.toNat % 16) (by omega)
    rw [spelledDigits_cons, decode?, hhigh, hlow, ih]
    simp only [Option.bind_eq_bind, Option.bind_some, Option.pure_def, Nat.div_add_mod',
      UInt8.ofNat_toNat]

/-- Nothing but digits is spelled. -/
lemma notMem_spelledDigits {c : Char} (h : value? c = none) : c ∉ spelledDigits isUpper bytes := by
  intro hmem
  obtain ⟨i, -, rfl⟩ := List.mem_map.mp hmem
  rw [value?_spelledDigit _ _ (nibble_lt bytes i)] at h
  cases h

/-! ### Lower case -/

lemma digit_eq_spelledDigit : ∀ n < 16, digit n = spelledDigit false n := by decide

/-- The digits as they are written are those of the spelling in lower case. -/
lemma encode_eq_spelledDigits (bytes : List UInt8) : encode bytes = spelledDigits lower bytes := by
  induction bytes with
  | nil => rfl
  | cons b rest ih =>
    have hb := b.toNat_lt
    rw [encode, spelledDigits_cons, ih, digit_eq_spelledDigit _ (by omega),
      digit_eq_spelledDigit _ (by omega)]
    rfl

end Hex

/-- Bytes are written in lower case. -/
theorem Bytes.hex_eq_spelled {n : Nat} (b : Bytes n) : b.hex = Hex.spelled Hex.lower b.toList := by
  rw [hex, Hex.text, Hex.spelled, Hex.encode_eq_spelledDigits]

/-! ### The case of an address -/

namespace Address

open Hex

lemma toUpper_digit : ∀ n < 16, (digit n).toUpper = spelledDigit true n := by decide

/-- A digit takes the case that a digit of the hash asks for. -/
lemma applyCase_cons {n h : Nat} (hn : n < 16) (hh : h < 16) (cs hs : List Char) :
    applyCase (digit n :: cs) (digit h :: hs) =
      spelledDigit (decide (8 ≤ h)) n :: applyCase cs hs := by
  rw [applyCase, value?_digit h hh, Option.getD_some]
  by_cases hupper : 8 ≤ h
  · rw [if_pos hupper, decide_eq_true hupper, toUpper_digit n hn]
  · rw [if_neg hupper, decide_eq_false hupper, digit_eq_spelledDigit n hn]

/-- Digits take their case from a hash that has as many. -/
lemma applyCase_encode {bytes hash : List UInt8} (h : bytes.length ≤ hash.length) :
    applyCase (encode bytes) (encode hash) =
      spelledDigits (fun i => decide (8 ≤ nibble hash i)) bytes := by
  induction bytes generalizing hash with
  | nil => cases hash <;> rfl
  | cons b bytes ih =>
    cases hash with
    | nil => exact absurd h (Nat.not_succ_le_zero _)
    | cons x hash =>
      have hb := b.toNat_lt
      have hx := x.toNat_lt
      rw [encode, encode, applyCase_cons (by omega) (by omega),
        applyCase_cons (by omega) (by omega), ih (Nat.le_of_succ_le_succ h), spelledDigits_cons]
      simp only [nibble_cons_add_two]
      rfl

/-- The hash whose half bytes decide the case of the digits of an address: that of its lower-case
digits. -/
def caseHash (a : Address) : List UInt8 :=
  Keccak.hash256 ((spelledDigits lower a.toList).map fun c => UInt8.ofNat c.toNat)

/-- Upper case where the hash has a half byte of eight or more. -/
def isUpper (a : Address) (i : Nat) : Bool := decide (8 ≤ nibble a.caseHash i)

lemma caseHash_eq (a : Address) :
    a.caseHash = Keccak.hash256 ((encode a.toList).map fun c => UInt8.ofNat c.toNat) := by
  rw [caseHash, encode_eq_spelledDigits]

lemma length_caseHash (a : Address) : a.caseHash.length = 32 := by
  simp [caseHash, Keccak.hash256, Keccak.bytesOfWord]

/-- The checksum of an address is the case of its digits. -/
theorem checksummed_eq_spelled (a : Address) : a.checksummed = spelled a.isUpper a.toList := by
  have hlength : a.toList.length ≤ a.caseHash.length := by
    rw [a.length_eq, length_caseHash]
    decide
  rw [checksummed, ← caseHash_eq, applyCase_encode hlength]
  rfl

lemma toList_checksummed (a : Address) :
    a.checksummed.toList = '0' :: 'x' :: spelledDigits a.isUpper a.toList := by
  rw [checksummed_eq_spelled, spelled, String.toList_ofList]

/-- An address is read back from its text. -/
theorem parse_checksummed (a : Address) (what : String) : parse a.checksummed what = .ok a := by
  have hread : Bytes.ofHex? 20 a.checksummed = some a := by
    rw [Bytes.ofHex?, ofText?, toList_checksummed, bare, decode?_spelledDigits, Option.bind_some,
      Bytes.ofList?, dif_pos a.length_eq]
  rw [parse, hread]

/-- Different addresses have different texts. -/
lemma checksummed_inj {a b : Address} : a.checksummed = b.checksummed ↔ a = b := by
  refine ⟨fun h => ?_, congrArg checksummed⟩
  have hread := parse_checksummed a ""
  rw [h, parse_checksummed] at hread
  exact (Except.ok.inj hread).symm

end Address

end ComputeExchange
