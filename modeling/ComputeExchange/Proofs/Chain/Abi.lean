import ComputeExchange.Chain.Abi
import ComputeExchange.Proofs.Text.Utf8

/-!
# Arguments are read back from their layout

Every argument of a layout is found in its place: a word where its turn is
(`Abi.wordAt?_encode`), and a string where the word in its turn points to (`Abi.string?_encode`),
whatever stands before and after.  For the latter the layout must be addressable, that is, its
length must be a machine word.
-/

namespace ComputeExchange

/-! ### Numbers in words -/

/-- A number that fits so many bytes is read back from them. -/
lemma natOfBytes_bytesOfNat {count n : Nat} (h : n < Nat.pow 256 count) :
    natOfBytes (bytesOfNat count n) = n := by
  induction count generalizing n with
  | zero =>
    obtain rfl : n = 0 := Nat.lt_one_iff.mp h
    rfl
  | succ count ih =>
    have hhigh : n / 256 < Nat.pow 256 count := Nat.div_lt_of_lt_mul ((Nat.mul_comm ..).trans_gt h)
    have hlow : (UInt8.ofNat (n % 256)).toNat = n % 256 :=
      Utf8.toNat_byte (Nat.mod_lt n (by decide))
    have hlast : ∀ bytes b, natOfBytes (bytes ++ [b]) = natOfBytes bytes * 256 + b.toNat :=
      fun bytes b => List.foldl_concat _ _ _ _
    rw [bytesOfNat, hlast, ih hhigh, hlow, Nat.div_add_mod']

/-- A number that fits a word is read back from it. -/
lemma Word.toNat_ofNat {n : Nat} (h : n < Nat.pow 256 32) : (Word.ofNat n).toNat = n :=
  natOfBytes_bytesOfNat h

/-- A number that fits a machine word fits a word. -/
lemma Word.toNat_ofNat_of_lt_size {n : Nat} (h : n < UInt64.size) : (Word.ofNat n).toNat = n :=
  toNat_ofNat (h.trans (by decide))

/-- An address is read back from its word. -/
lemma Word.toAddress_ofAddress (a : Address) : (Word.ofAddress a).toAddress = a := by
  have hdrop : (List.replicate 12 0 ++ a.toList).drop 12 = a.toList :=
    List.drop_left' List.length_replicate
  rw [toAddress, ofAddress]
  simp only [hdrop]

namespace Abi

variable (before after : List Part)

/-! ### The layout -/

/-- The words of the arguments take 32 bytes each. -/
lemma length_words (next : Nat) (parts : List Part) :
    (words next parts).length = 32 * parts.length := by
  induction parts generalizing next with
  | nil => rfl
  | cons part parts ih =>
    cases part with
    | word w =>
      rw [words, List.length_append, w.length_eq, ih, List.length_cons]
      omega
    | content bytes =>
      rw [words, List.length_append, length_bytesOfNat, ih, List.length_cons]
      omega

/-- The words of later arguments point behind the contents of earlier ones. -/
lemma words_append (next : Nat) : words next (before ++ after) =
    words next before ++ words (next + (contents before).length) after := by
  induction before generalizing next with
  | nil => rfl
  | cons part before ih =>
    cases part with
    | word w => rw [List.cons_append, words, words, ih, contents, List.append_assoc]
    | content bytes =>
      rw [List.cons_append, words, words, ih, contents, List.append_assoc, List.length_append,
        Nat.add_assoc]

lemma contents_append : contents (before ++ after) = contents before ++ contents after := by
  induction before with
  | nil => rfl
  | cons part before ih =>
    cases part with
    | word w => rw [List.cons_append, contents, contents, ih]
    | content bytes => rw [List.cons_append, contents, contents, ih, List.append_assoc]

/-- The length of a layout. -/
lemma length_encode_parts (parts : List Part) :
    (encode parts).length = 32 * parts.length + (contents parts).length := by
  rw [encode, List.length_append, length_words]

/-- The zeros that fill the bytes of a string up to whole words. -/
def padding (s : String) : List UInt8 :=
  List.replicate ((32 - (Utf8.encode s).length % 32) % 32) 0

/-- The content of a string as an argument: its length, its bytes, and the zeros. -/
def stringContent (s : String) : List UInt8 :=
  (Word.ofNat (Utf8.encode s).length).toList ++ (Utf8.encode s ++ padding s)

lemma string_eq (s : String) : Part.string s = .content (stringContent s) :=
  congrArg Part.content (List.append_assoc _ _ _)

lemma stringContent_append (s : String) (rest : List UInt8) : stringContent s ++ rest =
    (Word.ofNat (Utf8.encode s).length).toList ++ (Utf8.encode s ++ (padding s ++ rest)) := by
  rw [stringContent, List.append_assoc, List.append_assoc]

lemma length_encode_le_stringContent (s : String) :
    (Utf8.encode s).length ≤ (stringContent s).length := by
  rw [stringContent, List.length_append, List.length_append]
  omega

/-! ### Reading words -/

/-- A word is read where it stands. -/
lemma wordAt?_append {at_ : Nat} (front : List UInt8) (w : Word) (rest : List UInt8)
    (h : front.length = at_) : wordAt? (front ++ (w.toList ++ rest)) at_ = some w := by
  have htake : (w.toList ++ rest).take 32 = w.toList := List.take_left' w.length_eq
  rw [wordAt?, List.drop_left' h, htake, Bytes.ofList?, dif_pos w.length_eq]

lemma wordAt?_first (w : Word) (rest : List UInt8) :
    wordAt? (w.toList ++ rest) (32 * 0) = some w := wordAt?_append [] w rest rfl

/-- An argument that is a word is read in its turn. -/
theorem wordAt?_encode (w : Word) :
    wordAt? (encode (before ++ .word w :: after)) (32 * before.length) = some w := by
  rw [encode, words_append, words, List.append_assoc, List.append_assoc]
  exact wordAt?_append _ w _ (length_words _ before)

/-- The word in the turn of a dynamic argument is the distance to its content. -/
lemma wordAt?_encode_content (bytes : List UInt8) :
    wordAt? (encode (before ++ .content bytes :: after)) (32 * before.length) =
      some (Word.ofNat (32 * (before ++ .content bytes :: after).length +
        (contents before).length)) := by
  rw [encode, words_append, words, List.append_assoc, List.append_assoc]
  exact wordAt?_append _ (Word.ofNat _) _ (length_words _ before)

/-- Behind the distance stand the content and those of the later arguments. -/
lemma drop_encode (bytes : List UInt8) :
    (encode (before ++ .content bytes :: after)).drop
      (32 * (before ++ .content bytes :: after).length + (contents before).length) =
      bytes ++ contents after := by
  rw [encode, contents_append, contents, ← List.append_assoc]
  refine List.drop_left' ?_
  rw [List.length_append, length_words]

/-- The content of an argument lies within the layout. -/
lemma distance_add_length_le (bytes : List UInt8) :
    32 * (before ++ .content bytes :: after).length + (contents before).length + bytes.length ≤
      (encode (before ++ .content bytes :: after)).length := by
  have hcontents : (contents (before ++ .content bytes :: after)).length =
      (contents before).length + (bytes.length + (contents after).length) := by
    rw [contents_append, contents, List.length_append, List.length_append]
  rw [length_encode_parts, hcontents]
  omega

/-- A distance or a length is read from the word that holds it. -/
lemma size?_of_wordAt? {bytes : List UInt8} {i n : Nat}
    (h : wordAt? bytes (32 * i) = some (Word.ofNat n)) (hlt : n < UInt64.size) :
    size? bytes i = some n := by
  rw [size?, nat?, h, Option.map_some, Word.toNat_ofNat_of_lt_size hlt]
  exact Option.filter_some_pos (decide_eq_true hlt)

/-- The content of a dynamic argument of an addressable layout is read in its turn. -/
lemma content?_encode (bytes : List UInt8)
    (h : (encode (before ++ .content bytes :: after)).length < UInt64.size) :
    content? (encode (before ++ .content bytes :: after)) before.length =
      some (bytes ++ contents after) := by
  have hdrop := drop_encode before after bytes
  have hword := wordAt?_encode_content before after bytes
  have hlength := distance_add_length_le before after bytes
  generalize 32 * (before ++ .content bytes :: after).length + (contents before).length = distance
    at hdrop hword hlength
  have hwithin : distance ≤ (encode (before ++ .content bytes :: after)).length :=
    (Nat.le_add_right _ _).trans hlength
  have hsize := size?_of_wordAt? hword (hwithin.trans_lt h)
  rw [content?, hsize, Option.bind_eq_bind, Option.bind_some, if_pos hwithin, hdrop]

/-- A string of an addressable layout is read in its turn. -/
theorem string?_encode (s : String)
    (h : (encode (before ++ .string s :: after)).length < UInt64.size) :
    string? (encode (before ++ .string s :: after)) before.length = some s := by
  rw [string_eq] at h ⊢
  have hfits : (Utf8.encode s).length < UInt64.size :=
    (length_encode_le_stringContent s).trans_lt
      (((Nat.le_add_left _ _).trans (distance_add_length_le before after _)).trans_lt h)
  -- The content is a layout of its own that starts with the length.
  have hword : wordAt? (stringContent s ++ contents after) (32 * 0) =
      some (Word.ofNat (Utf8.encode s).length) := by
    rw [stringContent_append]
    exact wordAt?_first _ _
  have hsize := size?_of_wordAt? hword hfits
  have htext : (stringContent s ++ contents after).drop 32 =
      Utf8.encode s ++ (padding s ++ contents after) := by
    rw [stringContent_append]
    exact List.drop_left' (Word.ofNat _).length_eq
  have hwithin : (Utf8.encode s).length ≤ ((stringContent s ++ contents after).drop 32).length := by
    rw [htext, List.length_append]
    exact Nat.le_add_right _ _
  rw [string?, content?_encode before after _ h, Option.bind_eq_bind, Option.bind_some, hsize,
    Option.bind_eq_bind, Option.bind_some, if_pos hwithin, htext, List.take_left' rfl,
    Utf8.decodeLossy, Utf8.decode_encode]

end Abi

end ComputeExchange
