/-!
# Clamping between integer widths

Counts from a chain, from a database and from a listing meet in 64-bit words.  A value that does not
fit the target is replaced by the nearest one that does.
-/

namespace ComputeExchange.Clamp

/-- The greatest 64-bit word. -/
def greatest : UInt64 := 0xFFFFFFFFFFFFFFFF

@[simp] theorem toNat_greatest : greatest.toNat = UInt64.size - 1 := by decide

/-- A natural number as a word, the greatest word if it is too large. -/
def word (n : Nat) : UInt64 := if n < UInt64.size then UInt64.ofNat n else greatest

/-- An integer as a signed word, the nearest end of the range if it lies outside. -/
def signed (i : Int) : Int64 :=
  if i < Int64.minValue.toInt then Int64.minValue
  else if Int64.maxValue.toInt < i then Int64.maxValue
  else Int64.ofInt i

/-- A word as a signed word, the greatest one if it is too large. -/
def signedOfWord (w : UInt64) : Int64 := signed w.toNat

/-- A signed word as a word, zero if it is negative. -/
def wordOfSigned (w : Int64) : UInt64 := UInt64.ofNat w.toInt.toNat

/-- Addition of words that stops at the greatest one. -/
def add (a b : UInt64) : UInt64 := word (a.toNat + b.toNat)

/-- Subtraction of words that stops at zero. -/
def sub (a b : UInt64) : UInt64 := word (a.toNat - b.toNat)

theorem toNat_word (n : Nat) : (word n).toNat = min n (UInt64.size - 1) := by
  unfold word
  split
  · next h =>
    rw [UInt64.toNat_ofNat_of_lt' h]
    exact (Nat.min_eq_left (Nat.le_sub_one_of_lt h)).symm
  · next h =>
    rw [toNat_greatest]
    exact (Nat.min_eq_right (Nat.le_trans (Nat.sub_le ..) (Nat.le_of_not_lt h))).symm

theorem toNat_add (a b : UInt64) : (add a b).toNat = min (a.toNat + b.toNat) (UInt64.size - 1) :=
  toNat_word _

theorem toNat_sub (a b : UInt64) : (sub a b).toNat = a.toNat - b.toNat := by
  rw [sub, toNat_word]
  exact Nat.min_eq_left (Nat.le_trans (Nat.sub_le ..) (Nat.le_sub_one_of_lt a.toNat_lt))

theorem toInt_signed (i : Int) :
    (signed i).toInt = max Int64.minValue.toInt (min i Int64.maxValue.toInt) := by
  have hmin := Int64.toInt_minValue
  have hmax := Int64.toInt_maxValue
  unfold signed
  split
  · omega
  · split
    · omega
    · rw [Int64.toInt_ofInt_of_le (by omega) (by omega)]; omega

end ComputeExchange.Clamp
