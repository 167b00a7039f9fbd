import ComputeExchange.Proofs.Json.Digits

/-!
# Reading a written text

The text of a value is read back as the value (`Json.parse?_compact`), whatever its strings and
numbers are.  The reader goes along the text as the writer has put it together, by the same
recursion over the value; `Ends` says that after a value nothing stands that could belong to it.
-/

namespace ComputeExchange.Json

/-- Whether a text does not go on with something that could belong to the value before it. -/
def Ends (rest : List Char) : Prop := ∀ c ∈ rest.head?, c = ',' ∨ c = ']' ∨ c = '}'

lemma ends_nil : Ends [] := by simp [Ends]

lemma ends_cons {c : Char} (h : c = ',' ∨ c = ']' ∨ c = '}') (rest : List Char) :
    Ends (c :: rest) := by
  simpa [Ends] using h

/-- Nothing that ends a value is a digit, a point or the mark of an exponent. -/
lemma Ends.not_number {rest : List Char} (h : Ends rest) :
    ∀ c ∈ rest.head?, c.isDigit = false ∧ c ≠ '.' ∧ c ≠ 'e' ∧ c ≠ 'E' := by
  intro c hc
  rcases h c hc with rfl | rfl | rfl <;> decide

/-! ### Strings -/

/-- What a character of a string is read as: a control character without an escape of its own is
written as a unit. -/
def pieceOf (c : Char) : Escape :=
  if c.toNat < 32 ∧ (escape c).length = 6 then .unit c.toNat else .char c

/-- A backslash is read together with what stands after it. -/
lemma readPieces_backslash {cs rest : List Char} {piece : Escape}
    (h : readEscape cs = some (piece, rest)) (fuel : Nat) :
    readPieces (fuel + 1) ('\\' :: cs) =
      (readPieces fuel rest).map fun (pieces, rest) => (piece :: pieces, rest) := by
  simp only [readPieces, h, Option.bind_eq_bind, Option.bind_some]
  cases readPieces fuel rest <;> rfl

/-- Four hexadecimal digits stand for a unit. -/
lemma readUnit_digits {a b c d : Char} {x y z w : Nat} (ha : Hex.value? a = some x)
    (hb : Hex.value? b = some y) (hc : Hex.value? c = some z) (hd : Hex.value? d = some w)
    (rest : List Char) :
    readUnit (a :: b :: c :: d :: rest) = some (((x * 16 + y) * 16 + z) * 16 + w, rest) := by
  simp [readUnit, ha, hb, hc, hd]

/-- A character that needs no escape is read as itself. -/
lemma readPieces_plain {c : Char} (hquote : c ≠ '"') (hbackslash : c ≠ '\\')
    (hcontrol : ¬ c.toNat < 32) (fuel : Nat) (rest : List Char) :
    readPieces (fuel + 1) (c :: rest) =
      (readPieces fuel rest).map fun (pieces, rest) => (.char c :: pieces, rest) := by
  rw [readPieces]
  · rw [if_neg hcontrol]
    cases readPieces fuel rest <;> rfl
  · exact fun h => hquote (h ▸ rfl)
  · exact fun h => hbackslash (h ▸ rfl)

/-- A character as it is written is read as one piece. -/
lemma readPieces_escape (c : Char) (fuel : Nat) (rest : List Char) :
    readPieces (fuel + 1) (escape c ++ rest) =
      (readPieces fuel rest).map fun (pieces, rest) => (pieceOf c :: pieces, rest) := by
  by_cases hquote : c = '"'
  · subst hquote
    exact readPieces_backslash rfl fuel
  by_cases hbackslash : c = '\\'
  · subst hbackslash
    exact readPieces_backslash rfl fuel
  by_cases hfeed : c = '\n'
  · subst hfeed
    exact readPieces_backslash rfl fuel
  by_cases hreturn : c = '\r'
  · subst hreturn
    exact readPieces_backslash rfl fuel
  by_cases htab : c = '\t'
  · subst htab
    exact readPieces_backslash rfl fuel
  by_cases hback : c.toNat = 8
  · obtain rfl : c = '\x08' := Char.toNat_inj.mp hback
    exact readPieces_backslash rfl fuel
  by_cases hform : c.toNat = 12
  · obtain rfl : c = '\x0c' := Char.toNat_inj.mp hform
    exact readPieces_backslash rfl fuel
  by_cases hcontrol : c.toNat < 32
  · have hescape : escape c =
        ['\\', 'u', '0', '0', Hex.digit (c.toNat / 16), Hex.digit (c.toNat % 16)] := by
      rw [escape, if_neg hquote, if_neg hbackslash, if_neg hfeed, if_neg hreturn, if_neg htab,
        if_neg hback, if_neg hform, if_pos hcontrol]
    rw [pieceOf, hescape, if_pos ⟨hcontrol, rfl⟩]
    refine readPieces_backslash ?_ fuel
    change (readUnit (_ :: _ :: _ :: _ :: rest)).map _ = _
    rw [readUnit_digits (x := 0) (y := 0) rfl rfl (Hex.value?_digit _ (by omega))
      (Hex.value?_digit _ (by omega)), Nat.zero_mul, Nat.zero_add, Nat.div_add_mod']
    rfl
  · have hescape : escape c = [c] := by
      rw [escape, if_neg hquote, if_neg hbackslash, if_neg hfeed, if_neg hreturn, if_neg htab,
        if_neg hback, if_neg hform, if_neg hcontrol]
    rw [pieceOf, hescape, if_neg fun h => hcontrol h.1]
    exact readPieces_plain hquote hbackslash hcontrol fuel rest

/-- The pieces of a string as it is written, one for each character. -/
lemma readPieces_quoted (cs : List Char) {fuel : Nat} (hfuel : cs.length < fuel)
    (rest : List Char) :
    readPieces fuel (cs.flatMap escape ++ '"' :: rest) = some (cs.map pieceOf, rest) := by
  induction cs generalizing fuel with
  | nil =>
    obtain ⟨fuel, rfl⟩ := Nat.exists_eq_succ_of_ne_zero (Nat.ne_of_gt hfuel)
    rfl
  | cons c cs ih =>
    obtain ⟨fuel, rfl⟩ := Nat.exists_eq_succ_of_ne_zero (Nat.ne_of_gt (Nat.zero_lt_of_lt hfuel))
    rw [List.flatMap_cons, List.append_assoc, readPieces_escape, ih (Nat.lt_of_succ_lt_succ hfuel)]
    rfl

/-- A unit that is no half of a surrogate pair means a character. -/
lemma meaning_unit {n : Nat} (hhigh : isHigh n = false) (hlow : isLow n = false)
    (rest : List Escape) : meaning (.unit n :: rest) = (meaning rest).map (Char.ofNat n :: ·) := by
  rw [meaning.eq_def]
  simp [hhigh, hlow]

/-- The pieces mean the characters. -/
lemma meaning_pieces (cs : List Char) : meaning (cs.map pieceOf) = some cs := by
  induction cs with
  | nil => rfl
  | cons c cs ih =>
    rw [List.map_cons, pieceOf]
    split_ifs with hunit
    · have hhigh : isHigh c.toNat = false := by
        simp only [isHigh, Bool.and_eq_false_iff, decide_eq_false_iff_not]
        omega
      have hlow : isLow c.toNat = false := by
        simp only [isLow, Bool.and_eq_false_iff, decide_eq_false_iff_not]
        omega
      rw [meaning_unit hhigh hlow, ih, Option.map_some, Char.ofNat_toNat]
    · rw [meaning, ih]
      rfl

/-- A character is written as one or more. -/
lemma length_le_length_escape (cs : List Char) : cs.length ≤ (cs.flatMap escape).length := by
  induction cs with
  | nil => exact Nat.le_refl 0
  | cons c cs ih =>
    have hpos : 0 < (escape c).length := by
      unfold escape
      split_ifs <;> exact Nat.succ_pos _
    rw [List.flatMap_cons, List.length_append, List.length_cons]
    omega

/-- A string is read as it is written. -/
theorem readString_quote (s : Option String) (rest : List Char) :
    ∃ cs, quote s ++ rest = '"' :: cs ∧ readString cs = some (s, rest) := by
  cases s with
  | none =>
    have hquote : quote none = ['"', '\\', 'u', 'd', '8', '0', '0', '"'] := by decide
    have hunit : readEscape ('u' :: 'd' :: '8' :: '0' :: '0' :: '"' :: rest) =
        some (.unit 0xD800, '"' :: rest) := by
      rw [readEscape, readUnit_digits (x := 13) (y := 8) (z := 0) (w := 0) rfl rfl rfl rfl]
      rfl
    have hmeaning : meaning [.unit 0xD800] = none := by
      rw [meaning.eq_def]
      simp [isHigh]
    refine ⟨'\\' :: 'u' :: 'd' :: '8' :: '0' :: '0' :: '"' :: rest, by rw [hquote]; rfl, ?_⟩
    rw [readString, readPieces_backslash hunit]
    simp [readPieces, hmeaning]
  | some s =>
    refine ⟨s.toList.flatMap escape ++ '"' :: rest, ?_, ?_⟩
    · change '"' :: (s.toList.flatMap escape ++ ['"'] ++ rest) = _
      rw [List.append_assoc, List.singleton_append]
    · have hlength := length_le_length_escape s.toList
      rw [readString, readPieces_quoted s.toList (by rw [List.length_append]; omega)]
      simp [meaning_pieces]

/-! ### Numbers -/

/-- Without a point there is no fraction. -/
lemma readFraction_none {rest : List Char} (h : ∀ c ∈ rest.head?, c ≠ '.') :
    readFraction rest = some ([], rest) := by
  unfold readFraction
  split
  · exact absurd rfl (h '.' rfl)
  · rfl

/-- Without its mark there is no exponent. -/
lemma readExponent_none {rest : List Char} (h : ∀ c ∈ rest.head?, c ≠ 'e' ∧ c ≠ 'E') :
    readExponent rest = some (none, rest) := by
  cases rest with
  | nil => rfl
  | cons c rest =>
    rw [readExponent.eq_def]
    exact if_neg (not_or.mpr (h c rfl))

/-- A sign is told from a digit. -/
lemma exists_digits_eq_cons (n : Nat) :
    ∃ d ds, digits n = d :: ds ∧ d ≠ '-' ∧ d ≠ '+' ∧ ofDigits (d :: ds) = n := by
  obtain ⟨d, ds, hdigits⟩ := List.exists_cons_of_ne_nil (digits_ne_nil n)
  have hd : d.isDigit = true := isDigit_of_mem_digits (hdigits ▸ List.mem_cons_self)
  refine ⟨d, ds, hdigits, ?_, ?_, hdigits ▸ ofDigits_digits n⟩ <;>
  · rintro rfl
    cases hd

/-- An exponent is read as it is written. -/
lemma readExponent_intDigits (e : Int) {rest : List Char}
    (hrest : ∀ c ∈ rest.head?, c.isDigit = false) :
    readExponent ('e' :: (intDigits e ++ rest)) = some (some e, rest) := by
  obtain ⟨d, ds, hdigits, hminus, hplus, hvalue⟩ := exists_digits_eq_cons e.natAbs
  have hspan := spanDigits_digits e.natAbs hrest
  rw [hdigits] at hspan
  by_cases hnegative : e < 0
  · rw [intDigits, if_pos hnegative, hdigits, List.cons_append, readExponent, if_pos (Or.inl rfl),
      hspan]
    simp only [hvalue, if_true, Option.some.injEq, Prod.mk.injEq, and_true]
    omega
  · rw [intDigits, if_neg hnegative, hdigits, readExponent, if_pos (Or.inl rfl), hspan]
    · simp only [hvalue, Bool.false_eq_true, if_false, Option.some.injEq, Prod.mk.injEq, and_true]
      omega
    · exact fun _ heq => hminus (List.cons.inj heq).1
    · exact fun _ heq => hplus (List.cons.inj heq).1

/-- Digits without a superfluous zero in front are read together, and then a fraction and an
exponent. -/
lemma readMagnitude_digits (negative : Bool) (n : Nat) {rest : List Char}
    (hrest : ∀ c ∈ rest.head?, c.isDigit = false) :
    readMagnitude negative (digits n ++ rest) = (do
      let (fraction, rest) ← readFraction rest
      let (exponent, rest) ← readExponent rest
      if fraction.isEmpty && exponent.isNone && !(negative && n == 0) then
        return (.whole (if negative then -(n : Int) else n), rest)
      else
        return (.decimal negative (ofDigits (digits n ++ fraction))
          (exponent.getD 0 - fraction.length), rest)) := by
  have hzero : ∀ c ds, digits n ≠ '0' :: c :: ds := by
    intro c ds heq
    by_cases hn : n = 0
    · subst hn
      cases heq
    · exact head?_digits hn (heq ▸ rfl)
  have hvalue := ofDigits_digits n
  rw [readMagnitude, spanDigits_digits n hrest]
  split
  · rename_i heq
    exact absurd (Prod.mk.inj heq).1 (digits_ne_nil n)
  · rename_i heq
    exact absurd (Prod.mk.inj heq).1 (hzero _ _)
  · rename_i heq
    obtain ⟨rfl, rfl⟩ := Prod.mk.inj heq
    rw [ofDigits_digits]

/-- A number without a sign. -/
lemma readNumber_digits (n : Nat) (rest : List Char) :
    readNumber (digits n ++ rest) = readMagnitude false (digits n ++ rest) := by
  obtain ⟨d, ds, hdigits, hminus, -⟩ := exists_digits_eq_cons n
  rw [hdigits, readNumber]
  exact fun _ heq => hminus (List.cons.inj heq).1

/-- A whole number is read without its sign. -/
lemma readMagnitude_whole (negative : Bool) (n : Nat) (hzero : negative = true → n ≠ 0)
    {rest : List Char} (hends : Ends rest) :
    readMagnitude negative (digits n ++ rest) =
      some (.whole (if negative then -(n : Int) else n), rest) := by
  have hrest := hends.not_number
  have hcondition : (negative && n == 0) = false := by
    cases negative with
    | false => rfl
    | true => simpa using hzero rfl
  rw [readMagnitude_digits negative n fun c hc => (hrest c hc).1,
    readFraction_none fun c hc => (hrest c hc).2.1]
  simp only [Option.bind_eq_bind, Option.bind_some, readExponent_none fun c hc => (hrest c hc).2.2,
    hcondition]
  rfl

/-- A decimal fraction is read without its sign. -/
lemma readMagnitude_decimal (negative : Bool) (n : Nat) (exponent : Int) {rest : List Char}
    (hends : Ends rest) :
    readMagnitude negative (digits n ++ 'e' :: (intDigits exponent ++ rest)) =
      some (.decimal negative n exponent, rest) := by
  have hdigit : ∀ c ∈ rest.head?, c.isDigit = false := fun c hc => (hends.not_number c hc).1
  rw [readMagnitude_digits negative n (by simp), readFraction_none (by simp)]
  simp only [Option.bind_eq_bind, Option.bind_some, readExponent_intDigits exponent hdigit]
  simp [ofDigits_digits]

/-- A number is read as it is written. -/
theorem readNumber_render (n : Number) {rest : List Char} (hends : Ends rest) :
    readNumber (n.render ++ rest) = some (n, rest) := by
  cases n with
  | whole i =>
    by_cases hnegative : i < 0
    · rw [Number.render, intDigits, if_pos hnegative, List.cons_append, readNumber,
        readMagnitude_whole true i.natAbs (fun _ => by omega) hends, if_pos rfl]
      congr 3
      omega
    · rw [Number.render, intDigits, if_neg hnegative, readNumber_digits,
        readMagnitude_whole false i.natAbs (by simp) hends, if_neg Bool.false_ne_true]
      congr 3
      omega
  | decimal negative significand exponent =>
    rw [Number.render]
    simp only [List.append_assoc, List.cons_append]
    cases negative with
    | true =>
      rw [if_pos rfl, List.singleton_append, readNumber, readMagnitude_decimal true _ _ hends]
    | false =>
      rw [if_neg Bool.false_ne_true, List.nil_append, readNumber_digits,
        readMagnitude_decimal false _ _ hends]

/-! ### Values -/

lemma render_null : render .null = ['n', 'u', 'l', 'l'] := rfl

lemma render_true : render (.bool true) = ['t', 'r', 'u', 'e'] := rfl

lemma render_false : render (.bool false) = ['f', 'a', 'l', 's', 'e'] := rfl

lemma render_number (n : Number) : render (.number n) = n.render := rfl

lemma render_string (s : Option String) : render (.string s) = quote s := rfl

lemma render_array (items : List Json) :
    render (.array items) = '[' :: (renderItems items ++ [']']) := rfl

lemma render_object (members : List (Option String × Json)) :
    render (.object members) = '\x7b' :: (renderMembers members ++ ['\x7d']) := rfl

section Reading

variable (fuel : Nat) (rest : List Char)

lemma readValue_null :
    readValue (fuel + 1) ('n' :: 'u' :: 'l' :: 'l' :: rest) = some (.null, rest) := rfl

lemma readValue_true :
    readValue (fuel + 1) ('t' :: 'r' :: 'u' :: 'e' :: rest) = some (.bool true, rest) := rfl

lemma readValue_false :
    readValue (fuel + 1) ('f' :: 'a' :: 'l' :: 's' :: 'e' :: rest) = some (.bool false, rest) := rfl

lemma readValue_string : readValue (fuel + 1) ('"' :: rest) =
    (readString rest).map fun (s, rest) => (.string s, rest) := rfl

lemma readValue_array : readValue (fuel + 1) ('[' :: rest) =
    match skipBlanks rest with
    | ']' :: rest => some (.array [], rest)
    | rest => (readItems fuel rest).map fun (items, rest) => (.array items, rest) := rfl

lemma readValue_object : readValue (fuel + 1) ('\x7b' :: rest) =
    match skipBlanks rest with
    | '\x7d' :: rest => some (.object [], rest)
    | rest => (readMembers fuel rest).map fun (members, rest) => (.object members, rest) := rfl

end Reading

/-- Whether a character can be the first of a value. -/
def Opens (c : Char) : Prop := c ≠ ' ' ∧ c ≠ '\t' ∧ c ≠ '\n' ∧ c ≠ '\r' ∧ c ≠ ']'

/-- There are no blanks before a value. -/
lemma Opens.skipBlanks {c : Char} (h : Opens c) (cs : List Char) :
    skipBlanks (c :: cs) = c :: cs := by
  rw [Json.skipBlanks, if_neg]
  rintro (hc | hc | hc | hc)
  exacts [h.1 hc, h.2.1 hc, h.2.2.1 hc, h.2.2.2.1 hc]

/-- A number starts with a digit or a sign. -/
lemma exists_render_number (n : Number) :
    ∃ c cs, n.render = c :: cs ∧ (c.isDigit = true ∨ c = '-') := by
  have hdigits : ∀ k, ∃ c cs, digits k = c :: cs ∧ c.isDigit = true := by
    intro k
    obtain ⟨c, cs, heq⟩ := List.exists_cons_of_ne_nil (digits_ne_nil k)
    exact ⟨c, cs, heq, isDigit_of_mem_digits (heq ▸ List.mem_cons_self)⟩
  cases n with
  | whole i =>
    obtain ⟨c, cs, heq, hc⟩ := hdigits i.natAbs
    rw [Number.render, intDigits]
    split_ifs
    · exact ⟨'-', _, rfl, Or.inr rfl⟩
    · exact ⟨c, cs, heq, Or.inl hc⟩
  | decimal negative significand exponent =>
    obtain ⟨c, cs, heq, hc⟩ := hdigits significand
    rw [Number.render, heq]
    cases negative with
    | true => exact ⟨'-', _, rfl, Or.inr rfl⟩
    | false => exact ⟨c, _, rfl, Or.inl hc⟩

/-- The first character of a number can be the first of a value. -/
lemma opens_of_number {c : Char} (h : c.isDigit = true ∨ c = '-') : Opens c := by
  rcases h with h | rfl
  · refine ⟨?_, ?_, ?_, ?_, ?_⟩ <;>
    · rintro rfl
      cases h
  · simp [Opens]

/-- A value starts with a character that is no blank and closes no array. -/
lemma exists_render (j : Json) : ∃ c cs, render j = c :: cs ∧ Opens c := by
  cases j with
  | null => exact ⟨'n', ['u', 'l', 'l'], render_null, by simp [Opens]⟩
  | bool value =>
    cases value with
    | true => exact ⟨'t', ['r', 'u', 'e'], render_true, by simp [Opens]⟩
    | false => exact ⟨'f', ['a', 'l', 's', 'e'], render_false, by simp [Opens]⟩
  | number n =>
    obtain ⟨c, cs, heq, hc⟩ := exists_render_number n
    exact ⟨c, cs, by rw [render_number, heq], opens_of_number hc⟩
  | string s =>
    obtain ⟨cs, heq, -⟩ := readString_quote s []
    rw [List.append_nil] at heq
    exact ⟨'"', cs, by rw [render_string, heq], by simp [Opens]⟩
  | array items => exact ⟨'[', _, render_array items, by simp [Opens]⟩
  | object members => exact ⟨'\x7b', _, render_object members, by simp [Opens]⟩

/-- Whether a value is read as it is written, as long as there is fuel for its text. -/
def ReadsBack (j : Json) : Prop :=
  ∀ (fuel : Nat) (rest : List Char), 2 * j.render.length ≤ fuel + 1 → Ends rest →
    readValue fuel (j.render ++ rest) = some (j, rest)

/-- Some fuel is left for a value, as its text is not empty. -/
lemma exists_fuel {j : Json} {fuel : Nat} (h : 2 * j.render.length ≤ fuel + 1) :
    ∃ fuel', fuel = fuel' + 1 := by
  obtain ⟨c, cs, heq, -⟩ := exists_render j
  rw [heq, List.length_cons] at h
  exact Nat.exists_eq_succ_of_ne_zero (by omega)

lemma readsBack_null : ReadsBack .null := by
  intro fuel rest hfuel _
  obtain ⟨fuel, rfl⟩ := exists_fuel hfuel
  exact readValue_null fuel rest

lemma readsBack_bool (value : Bool) : ReadsBack (.bool value) := by
  intro fuel rest hfuel _
  obtain ⟨fuel, rfl⟩ := exists_fuel hfuel
  cases value with
  | true => exact readValue_true fuel rest
  | false => exact readValue_false fuel rest

lemma readsBack_number (n : Number) : ReadsBack (.number n) := by
  intro fuel rest hfuel hends
  obtain ⟨fuel, rfl⟩ := exists_fuel hfuel
  have hread := readNumber_render n hends
  obtain ⟨c, cs, heq, hc⟩ := exists_render_number n
  rw [heq, List.cons_append] at hread
  rw [render_number, heq, List.cons_append, readValue, (opens_of_number hc).skipBlanks]
  split
  case h_7 => rw [hread]; rfl
  all_goals
    rename_i hfirst
    obtain ⟨rfl, -⟩ := List.cons.inj hfirst
    exact absurd hc (by decide)

lemma readsBack_string (s : Option String) : ReadsBack (.string s) := by
  intro fuel rest hfuel _
  obtain ⟨fuel, rfl⟩ := exists_fuel hfuel
  obtain ⟨cs, heq, hread⟩ := readString_quote s rest
  rw [render_string, heq, readValue_string, hread]
  rfl

/-- The items of an array are read as they are written, if each of them is. -/
lemma readItems_render {items : List Json} (hne : items ≠ []) (h : ∀ x ∈ items, ReadsBack x)
    (fuel : Nat) (rest : List Char) (hfuel : 2 * (renderItems items).length ≤ fuel) :
    readItems fuel (renderItems items ++ ']' :: rest) = some (items, rest) := by
  induction items generalizing fuel with
  | nil => exact absurd rfl hne
  | cons x items ih =>
    have hx := h x List.mem_cons_self
    obtain ⟨c, cs, heq, -⟩ := exists_render x
    have hpos : 0 < x.render.length := heq ▸ Nat.succ_pos _
    cases items with
    | nil =>
      rw [renderItems] at hfuel ⊢
      obtain ⟨fuel, rfl⟩ : ∃ fuel', fuel = fuel' + 1 := Nat.exists_eq_succ_of_ne_zero (by omega)
      rw [readItems, hx fuel _ hfuel (ends_cons (by simp) rest)]
      simp [skipBlanks]
    | cons y items =>
      rw [renderItems, List.length_append, List.length_cons] at hfuel
      obtain ⟨fuel, rfl⟩ : ∃ fuel', fuel = fuel' + 1 := Nat.exists_eq_succ_of_ne_zero (by omega)
      have hrest := ih (by simp) (fun x hmem => h x (List.mem_cons_of_mem _ hmem)) fuel (by omega)
      rw [renderItems, readItems, List.append_assoc, List.cons_append,
        hx fuel _ (by omega) (ends_cons (by simp) _)]
      simp [skipBlanks, hrest]

/-- The members of an object are read as they are written, if each of their values is. -/
lemma readMembers_render {members : List (Option String × Json)} (hne : members ≠ [])
    (h : ∀ m ∈ members, ReadsBack m.2) (fuel : Nat) (rest : List Char)
    (hfuel : 2 * (renderMembers members).length ≤ fuel) :
    readMembers fuel (renderMembers members ++ '\x7d' :: rest) = some (members, rest) := by
  induction members generalizing fuel with
  | nil => exact absurd rfl hne
  | cons m members ih =>
    obtain ⟨name, x⟩ := m
    have hx : ReadsBack x := h (name, x) List.mem_cons_self
    cases members with
    | nil =>
      obtain ⟨cs, hquote, hread⟩ := readString_quote name (':' :: (x.render ++ '\x7d' :: rest))
      rw [renderMembers, List.length_append, List.length_cons] at hfuel
      obtain ⟨fuel, rfl⟩ : ∃ fuel', fuel = fuel' + 1 := Nat.exists_eq_succ_of_ne_zero (by omega)
      rw [renderMembers, List.append_assoc, List.cons_append, hquote, readMembers,
        Opens.skipBlanks (by simp [Opens])]
      have hvalue := hx fuel ('\x7d' :: rest) (by omega) (ends_cons (by simp) rest)
      simp [hread, skipBlanks, hvalue]
    | cons m members =>
      obtain ⟨cs, hquote, hread⟩ := readString_quote name
        (':' :: (x.render ++ ',' :: (renderMembers (m :: members) ++ '\x7d' :: rest)))
      rw [renderMembers, List.length_append, List.length_cons, List.length_append,
        List.length_cons] at hfuel
      obtain ⟨fuel, rfl⟩ : ∃ fuel', fuel = fuel' + 1 := Nat.exists_eq_succ_of_ne_zero (by omega)
      have hrest := ih (by simp) (fun m hmem => h m (List.mem_cons_of_mem _ hmem)) fuel (by omega)
      rw [renderMembers, List.append_assoc, List.cons_append, List.append_assoc, List.cons_append,
        hquote, readMembers, Opens.skipBlanks (by simp [Opens])]
      have hvalue := hx fuel (',' :: (renderMembers (m :: members) ++ '\x7d' :: rest)) (by omega)
        (ends_cons (by simp) _)
      simp [hread, skipBlanks, hvalue, hrest]

/-- Items start as the first of them does. -/
lemma exists_renderItems (x : Json) (items : List Json) :
    ∃ c cs, renderItems (x :: items) = c :: cs ∧ Opens c := by
  obtain ⟨c, cs, heq, hc⟩ := exists_render x
  cases items with
  | nil => exact ⟨c, cs, by rw [renderItems, heq], hc⟩
  | cons y items => exact ⟨c, _, by rw [renderItems, heq, List.cons_append], hc⟩

/-- Members start with a quote. -/
lemma exists_renderMembers (m : Option String × Json) (members : List (Option String × Json)) :
    ∃ cs, renderMembers (m :: members) = '"' :: cs := by
  obtain ⟨name, x⟩ := m
  obtain ⟨cs, heq, -⟩ := readString_quote name []
  rw [List.append_nil] at heq
  cases members with
  | nil => exact ⟨_, by rw [renderMembers, heq, List.cons_append]⟩
  | cons m members => exact ⟨_, by rw [renderMembers, heq, List.cons_append]⟩

lemma readsBack_array {items : List Json} (h : ∀ x ∈ items, ReadsBack x) :
    ReadsBack (.array items) := by
  intro fuel rest hfuel _
  obtain ⟨fuel, rfl⟩ := exists_fuel hfuel
  rw [render_array, List.length_cons, List.length_append, List.length_singleton] at hfuel
  rw [render_array, List.cons_append, List.append_assoc, List.singleton_append, readValue_array]
  cases items with
  | nil => simp [renderItems, skipBlanks]
  | cons x items =>
    have hread := readItems_render (by simp) h fuel rest (by omega)
    obtain ⟨c, cs, heq, hc⟩ := exists_renderItems x items
    rw [heq, List.cons_append] at hread ⊢
    simp only [hc.skipBlanks]
    split
    · rename_i hfirst
      exact absurd (List.cons.inj hfirst).1 hc.2.2.2.2
    · simp only [hread, Option.map_some]

lemma readsBack_object {members : List (Option String × Json)} (h : ∀ m ∈ members, ReadsBack m.2) :
    ReadsBack (.object members) := by
  intro fuel rest hfuel _
  obtain ⟨fuel, rfl⟩ := exists_fuel hfuel
  rw [render_object, List.length_cons, List.length_append, List.length_singleton] at hfuel
  rw [render_object, List.cons_append, List.append_assoc, List.singleton_append, readValue_object]
  cases members with
  | nil => simp [renderMembers, skipBlanks]
  | cons m members =>
    have hread := readMembers_render (by simp) h fuel rest (by omega)
    obtain ⟨cs, heq⟩ := exists_renderMembers m members
    rw [heq, List.cons_append] at hread ⊢
    simp [skipBlanks, hread]

/-- Every value is read as it is written. -/
theorem readsBack : ∀ j : Json, ReadsBack j
  | .null => readsBack_null
  | .bool value => readsBack_bool value
  | .number n => readsBack_number n
  | .string s => readsBack_string s
  | .array items => readsBack_array fun x _ => readsBack x
  | .object members => readsBack_object fun m _ => readsBack m.2
termination_by j => sizeOf j
decreasing_by
  · decreasing_tactic
  · have hlt := List.sizeOf_lt_of_mem ‹m ∈ members›
    obtain ⟨name, x⟩ := m
    rw [Prod.mk.sizeOf_spec] at hlt
    change sizeOf x < _
    rw [object.sizeOf_spec]
    omega

/-- The compact text of a value is read back as the value. -/
theorem parse?_compact (j : Json) : parse? j.compact = some j := by
  have hread := readsBack j (2 * j.render.length + 2) [] (by omega) ends_nil
  rw [List.append_nil] at hread
  rw [parse?, compact, String.toList_ofList, hread]
  rfl

end ComputeExchange.Json
