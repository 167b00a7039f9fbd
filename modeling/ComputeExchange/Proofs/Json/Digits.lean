import ComputeExchange.Json.Reader
import Mathlib.Tactic

/-!
# Decimal digits

The digits of a number are read back as the number (`Json.ofDigits_digits`), wherever they stand as
long as no digit follows (`Json.spanDigits_digits`).  They are the one canonical text of the number
(`Json.isDecimal_digits`).
-/

namespace ComputeExchange.Json

/-- What decimal digits stand for, as the standard library has it. -/
lemma ofDigits_eq (ds : List Char) : ofDigits ds = Nat.ofDigitChars 10 ds 0 := by
  rw [ofDigits, Nat.ofDigitChars_eq_foldl]
  congr 1
  funext n d
  rw [Nat.mul_comm]
  rfl

/-- The digits of a number stand for it. -/
theorem ofDigits_digits (n : Nat) : ofDigits (digits n) = n := by
  rw [ofDigits_eq, digits, Nat.ofDigitChars_ten_toDigits]

/-- Zeros in front do not count. -/
lemma ofDigits_replicate_append (k : Nat) (ds : List Char) :
    ofDigits (List.replicate k '0' ++ ds) = ofDigits ds := by
  induction k with
  | zero => rfl
  | succ k ih => exact ih

lemma isDigit_of_mem_digits {n : Nat} {c : Char} (h : c ∈ digits n) : c.isDigit = true :=
  Nat.isDigit_of_mem_toDigits (by decide) (by decide) h

lemma digits_ne_nil (n : Nat) : digits n ≠ [] := Nat.toDigits_ne_nil

/-- A number other than zero does not start with a zero. -/
lemma head?_digits {n : Nat} (h : n ≠ 0) : (digits n).head? ≠ some '0' := by
  induction n using Nat.strongRecOn with
  | ind n ih =>
    rw [digits, Nat.toDigits_eq_if (by decide)]
    split_ifs with hlt
    · rw [List.head?_cons, ne_eq, Option.some.injEq, Nat.digitChar_eq_zero]
      exact h
    · rw [List.head?_append_of_ne_nil _ Nat.toDigits_ne_nil]
      exact ih (n / 10) (Nat.div_lt_self (by omega) (by decide)) (by omega)

/-- The canonical decimal text of a number has digits only and no superfluous zero in front. -/
structure IsDecimal (n : Nat) (s : String) : Prop where
  ne_nil : s.toList ≠ []
  isDigit : ∀ c ∈ s.toList, c.isDigit = true
  head?_ne : 1 < s.toList.length → s.toList.head? ≠ some '0'
  value_eq : ofDigits s.toList = n

/-- The digits of a number are its canonical text. -/
theorem isDecimal_digits (n : Nat) : IsDecimal n (String.ofList (digits n)) where
  ne_nil := String.toList_ofList.symm ▸ digits_ne_nil n
  isDigit := fun c hc => isDigit_of_mem_digits (String.toList_ofList ▸ hc)
  head?_ne := by
    rw [String.toList_ofList]
    rintro hlong
    rcases Nat.eq_zero_or_pos n with rfl | hpos
    · exact absurd hlong (by decide)
    · exact head?_digits hpos.ne'
  value_eq := by rw [String.toList_ofList, ofDigits_digits]

/-- Digits that no digit follows. -/
lemma span_digits {ds rest : List Char} (hds : ∀ c ∈ ds, c.isDigit = true)
    (hrest : ∀ c ∈ rest.head?, c.isDigit = false) : spanDigits (ds ++ rest) = (ds, rest) := by
  have hnone : rest.takeWhile Char.isDigit = [] ∧ rest.dropWhile Char.isDigit = rest := by
    cases rest with
    | nil => exact ⟨rfl, rfl⟩
    | cons c rest => simp [hrest c rfl]
  rw [spanDigits, List.span_eq_takeWhile_dropWhile, List.takeWhile_append_of_pos hds,
    List.dropWhile_append_of_pos hds, hnone.1, hnone.2, List.append_nil]

/-- The digits of a number that no digit follows. -/
theorem spanDigits_digits (n : Nat) {rest : List Char}
    (hrest : ∀ c ∈ rest.head?, c.isDigit = false) :
    spanDigits (digits n ++ rest) = (digits n, rest) :=
  span_digits (fun _ => isDigit_of_mem_digits) hrest

end ComputeExchange.Json
