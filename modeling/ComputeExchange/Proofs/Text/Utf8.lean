import ComputeExchange.Text.Utf8
import Mathlib.Tactic

/-!
# Texts are read back from their bytes

The bytes of a text are well formed, so reading them finds nothing to replace and gives the text
back (`Utf8.decode_encode`).  A character takes between one and four bytes; the first of them
says how many, and the bounds that it sets for the second one hold because the character needs this
many bytes and is no surrogate.
-/

namespace ComputeExchange.Utf8

/-! ### The bytes of a text -/

/-- The bytes of an array in order, put before those that are there. -/
lemma toList_loop (bs : ByteArray) (i : Nat) (r : List UInt8) :
    ByteArray.toList.loop bs i r = r.reverse ++ bs.data.toList.drop i := by
  rw [ByteArray.toList.loop]
  split_ifs with h
  · have hdata : i < bs.data.toList.length := h
    have hget : bs.get! i = bs.data.toList[i] := getElem!_pos bs.data i h
    rw [toList_loop bs (i + 1), List.drop_eq_getElem_cons hdata, hget, List.reverse_cons,
      List.append_assoc, List.singleton_append]
  · have hend : bs.data.toList.length ≤ i := Nat.le_of_not_lt h
    rw [List.drop_eq_nil_of_le hend, List.append_nil]
termination_by bs.size - i

/-- The bytes of a text are those of its characters. -/
lemma encode_eq (s : String) : encode s = s.toList.flatMap String.utf8EncodeChar := by
  rw [encode, ByteArray.toList, toList_loop, List.drop_zero, List.reverse_nil, List.nil_append,
    String.toUTF8_eq_toByteArray, ← String.utf8Encode_toList, List.utf8Encode,
    List.toList_data_toByteArray]

/-! ### Reading a character -/

/-- A byte stands for its number. -/
lemma toNat_byte {n : Nat} (h : n < 256) : (UInt8.ofNat n).toNat = n := by
  rw [UInt8.toNat_ofNat', Nat.mod_eq_of_lt h]

section Read

variable {instead : List Char} {bits owed least greatest m : Nat} (rest : List UInt8)

/-- The first byte of a character of several bytes. -/
lemma readFrom_first {b : UInt8} {p : Partial} (h : start b.toNat = .first p) :
    readFrom instead none (b :: rest) = readFrom instead (some p) rest := by
  rw [readFrom, h]

/-- A byte within a character, after which more are owed. -/
lemma readFrom_next (hm : m < 64) (h : least ≤ m + 128 ∧ m + 128 ≤ greatest) (howed : 1 < owed) :
    readFrom instead (some ⟨bits, owed, least, greatest⟩) (UInt8.ofNat (m + 128) :: rest) =
      readFrom instead (some ⟨bits * 64 + m, owed - 1, 0x80, 0xBF⟩) rest := by
  rw [readFrom]
  simp only [toNat_byte (show m + 128 < 256 by omega), if_pos h, if_neg (Nat.not_le.mpr howed),
    Nat.add_sub_cancel]

/-- The last byte of a character. -/
lemma readFrom_last (hm : m < 64) :
    readFrom instead (some ⟨bits, 1, 0x80, 0xBF⟩) (UInt8.ofNat (m + 128) :: rest) =
      Char.ofNat (bits * 64 + m) :: readFrom instead none rest := by
  rw [readFrom]
  simp only [toNat_byte (show m + 128 < 256 by omega),
    if_pos (show 0x80 ≤ m + 128 ∧ m + 128 ≤ 0xBF by omega), if_pos (le_refl 1),
    Nat.add_sub_cancel]

end Read

/-- The first byte of a character of two bytes. -/
lemma start_two {n : Nat} (h : 2 ≤ n) (hlt : n < 32) :
    start (UInt8.ofNat (n + 192)).toNat = .first ⟨n, 1, 0x80, 0xBF⟩ := by
  rw [toNat_byte (by omega), start, if_neg (by omega), if_neg (by omega), if_pos (by omega),
    Nat.add_sub_cancel]

/-- The first byte of a character of three bytes, with bounds for the second one that leave out what
needs fewer bytes and the surrogates. -/
lemma start_three {n : Nat} (h : n < 16) :
    ∃ least greatest, start (UInt8.ofNat (n + 224)).toNat = .first ⟨n, 2, least, greatest⟩ ∧
      (∀ m, m < 64 → (n = 0 → 32 ≤ m) → (n = 13 → m < 32) →
        least ≤ m + 128 ∧ m + 128 ≤ greatest) := by
  rw [toNat_byte (by omega)]
  by_cases hzero : n = 0
  · subst hzero
    refine ⟨0xA0, 0xBF, rfl, fun m hm hfirst _ => ?_⟩
    have := hfirst rfl
    omega
  by_cases hsurrogate : n = 13
  · subst hsurrogate
    refine ⟨0x80, 0x9F, rfl, fun m hm _ hlast => ?_⟩
    have := hlast rfl
    omega
  · refine ⟨0x80, 0xBF, ?_, fun m hm _ _ => by omega⟩
    rw [start, if_neg (by omega), if_neg (by omega), if_neg (by omega), if_neg (by omega),
      if_neg (by omega), if_pos (by omega), Nat.add_sub_cancel]

/-- The first byte of a character of four bytes, with bounds for the second one that leave out what
needs fewer bytes and what is no character. -/
lemma start_four {n : Nat} (h : n < 5) :
    ∃ least greatest, start (UInt8.ofNat (n + 240)).toNat = .first ⟨n, 3, least, greatest⟩ ∧
      (∀ m, m < 64 → (n = 0 → 16 ≤ m) → (n = 4 → m < 16) →
        least ≤ m + 128 ∧ m + 128 ≤ greatest) := by
  rw [toNat_byte (by omega)]
  by_cases hzero : n = 0
  · subst hzero
    refine ⟨0x90, 0xBF, rfl, fun m hm hfirst _ => ?_⟩
    have := hfirst rfl
    omega
  by_cases hlast : n = 4
  · subst hlast
    refine ⟨0x80, 0x8F, rfl, fun m hm _ hend => ?_⟩
    have := hend rfl
    omega
  · refine ⟨0x80, 0xBF, ?_, fun m hm _ _ => by omega⟩
    rw [start, if_neg (by omega), if_neg (by omega), if_neg (by omega), if_neg (by omega),
      if_neg (by omega), if_neg (by omega), if_neg (by omega), if_pos (by omega),
      Nat.add_sub_cancel]

/-- The number of a character is below the surrogates or above them. -/
lemma bounds_of_char (c : Char) :
    c.toNat < 0xD800 ∨ 0xDFFF < c.toNat ∧ c.toNat < 0x110000 := c.valid

/-- A character is read from its bytes, whatever follows. -/
lemma readFrom_utf8EncodeChar (instead : List Char) (c : Char) (rest : List UInt8) :
    readFrom instead none (String.utf8EncodeChar c ++ rest) = c :: readFrom instead none rest := by
  have hbounds := bounds_of_char c
  have hc : Char.ofNat c.toNat = c := Char.ofNat_toNat c
  have hval : c.val.toNat = c.toNat := rfl
  rw [String.utf8EncodeChar]
  simp only [hval]
  generalize c.toNat = n at hbounds hc
  split_ifs with hone htwo hthree
  · have hbyte : (UInt8.ofNat n).toNat = n := toNat_byte (by omega)
    rw [List.singleton_append, readFrom, hbyte, start, if_pos (by omega), hc]
  · have hbits : n / 64 % 32 * 64 + n % 64 = n := by omega
    rw [List.cons_append, List.singleton_append,
      readFrom_first _ (start_two (by omega) (by omega)), readFrom_last _ (by omega), hbits, hc]
  · have hbits : (n / 4096 % 16 * 64 + n / 64 % 64) * 64 + n % 64 = n := by omega
    obtain ⟨least, greatest, hstart, hwithin⟩ := start_three (n := n / 4096 % 16) (by omega)
    have hsecond := hwithin (n / 64 % 64) (by omega) (by omega) (by omega)
    rw [List.cons_append, List.cons_append, List.singleton_append, readFrom_first _ hstart,
      readFrom_next _ (by omega) hsecond (by decide), readFrom_last _ (by omega), hbits, hc]
  · have hbits :
        ((n / 262144 % 8 * 64 + n / 4096 % 64) * 64 + n / 64 % 64) * 64 + n % 64 = n := by
      omega
    obtain ⟨least, greatest, hstart, hwithin⟩ := start_four (n := n / 262144 % 8) (by omega)
    have hsecond := hwithin (n / 4096 % 64) (by omega) (by omega) (by omega)
    rw [List.cons_append, List.cons_append, List.cons_append, List.singleton_append,
      readFrom_first _ hstart, readFrom_next _ (by omega) hsecond (by decide),
      readFrom_next _ (by omega) (by omega) (by decide), readFrom_last _ (by omega), hbits, hc]

/-- A text is read back from its bytes. -/
theorem decode_encode (instead : List Char) (s : String) : decode instead (encode s) = s := by
  have hread : ∀ cs : List Char,
      readFrom instead none (cs.flatMap String.utf8EncodeChar) = cs := by
    intro cs
    induction cs with
    | nil => rw [List.flatMap_nil, readFrom]
    | cons c cs ih => rw [List.flatMap_cons, readFrom_utf8EncodeChar, ih]
  rw [decode, encode_eq, hread, String.ofList_toList]

end ComputeExchange.Utf8
