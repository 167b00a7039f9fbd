import ComputeExchange.Time.Rfc3339
import ComputeExchange.Proofs.Json.Digits
import ComputeExchange.Proofs.Json.Fields
import ComputeExchange.Proofs.Time.Calendar

/-!
# Instants are read as they are written

Every instant that can be represented, leap seconds included, is read back from its text to the
nanosecond (`Rfc3339.read?_write`, `Timestamp.ofJson?_toJson`).  Each part of the text ends before a
character that is no digit, so it is read without what follows.
-/

namespace ComputeExchange

namespace Rfc3339

open Text

/-! ### Numbers of a fixed width -/

lemma isDigit_of_mem_padded {width n : Nat} {c : Char} (h : c ∈ padded width n) :
    c.isDigit = true := by
  rcases List.mem_append.mp h with h | h
  · rw [List.eq_of_mem_replicate h]
    rfl
  · exact Json.isDigit_of_mem_digits h

lemma padded_ne_nil (width n : Nat) : padded width n ≠ [] :=
  List.append_ne_nil_of_right_ne_nil _ (Json.digits_ne_nil n)

lemma ofDigits_padded (width n : Nat) : Json.ofDigits (padded width n) = n := by
  rw [padded, Json.ofDigits_replicate_append, Json.ofDigits_digits]

/-- A number that is small enough has exactly so many digits. -/
lemma length_padded {width n : Nat} (hpos : 0 < width) (h : n < Nat.pow 10 width) :
    (padded width n).length = width := by
  have hlength : (Json.digits n).length ≤ width := Nat.toDigits_length 10 n width hpos h
  rw [padded, List.length_append, List.length_replicate, Nat.sub_add_cancel hlength]

lemma isBlank_of_isDigit {c : Char} (h : c.isDigit = true) : isBlank c = false := by
  simp only [Char.isDigit, Bool.and_eq_true, decide_eq_true_eq] at h
  have hbounds : 48 ≤ c.toNat ∧ c.toNat ≤ 57 := h
  simp only [isBlank, Bool.or_eq_false_iff, Bool.and_eq_false_iff, decide_eq_false_iff_not,
    beq_eq_false_iff_ne]
  omega

/-- No blank is dropped in front of a character that is none. -/
lemma trimStart_cons {c : Char} (h : isBlank c = false) (rest : List Char) :
    trimStart (c :: rest) = c :: rest := by
  rw [trimStart, List.dropWhile_cons_of_neg (by simp [h])]

section Digits

variable {ds rest : List Char} (hds : ∀ c ∈ ds, c.isDigit = true)
  (hrest : ∀ c ∈ rest.head?, c.isDigit = false)

include hds

/-- Digits are no blanks. -/
lemma trimStart_append (hne : ds ≠ []) : trimStart (ds ++ rest) = ds ++ rest := by
  obtain ⟨d, ds, rfl⟩ := List.exists_cons_of_ne_nil hne
  exact trimStart_cons (isBlank_of_isDigit (hds d List.mem_cons_self)) _

include hrest

/-- The digits at the start of a text end where no digit follows. -/
lemma takeWhile_isDigit : (ds ++ rest).takeWhile Char.isDigit = ds := by
  have hspan := Json.span_digits hds hrest
  rw [Json.spanDigits, List.span_eq_takeWhile_dropWhile] at hspan
  exact congrArg Prod.fst hspan

/-- Digits that no digit follows are read as a number if they are not too many. -/
lemma readDigits_append {most : Nat} (hne : ds ≠ []) (hmost : ds.length ≤ most) :
    readDigits most (ds ++ rest) = some (Json.ofDigits ds, rest) := by
  have hend : ∀ c ∈ (rest.take (most - ds.length)).head?, c.isDigit = false := by
    intro c hc
    rw [List.head?_take] at hc
    split_ifs at hc
    · cases hc
    · exact hrest c hc
  rw [readDigits, List.take_append, List.take_of_length_le hmost, takeWhile_isDigit hds hend]
  cases ds with
  | nil => exact absurd rfl hne
  | cons d ds => simp

end Digits

/-- A number of two digits is read as it is written. -/
lemma readTwo_padded {n : Nat} (h : n < 100) {rest : List Char}
    (hrest : ∀ c ∈ rest.head?, c.isDigit = false) :
    readTwo (padded 2 n ++ rest) = some (n, rest) := by
  have hds : ∀ c ∈ padded 2 n, c.isDigit = true := fun _ => isDigit_of_mem_padded
  rw [readTwo, trimStart_append hds (padded_ne_nil 2 n), readDigits_append hds hrest
    (padded_ne_nil 2 n) (length_padded (by decide) h).le, ofDigits_padded]

/-- A mark is found where it is written. -/
lemma afterMark_cons {mark : Char} (h : isBlank mark = false) (rest : List Char) :
    afterMark mark (mark :: rest) = some rest := by
  rw [afterMark, trimStart_cons h]
  exact if_pos rfl

/-! ### The parts of a text -/

/-- A year is read as it is written, with its sign or without. -/
lemma readYear_writeYear (year : Int) {rest : List Char}
    (hrest : ∀ c ∈ rest.head?, c.isDigit = false) :
    readYear (writeYear year ++ rest) = some (year, rest) := by
  have hds : ∀ n, ∀ c ∈ padded 4 n, c.isDigit = true := fun _ _ => isDigit_of_mem_padded
  have hsigned : ∀ n, readDigits (padded 4 n ++ rest).length (padded 4 n ++ rest) =
      some (n, rest) := fun n => by
    have hlength : (padded 4 n).length ≤ (padded 4 n ++ rest).length := by simp
    rw [readDigits_append (hds n) hrest (padded_ne_nil 4 n) hlength, ofDigits_padded]
  rw [writeYear]
  split_ifs with hplain hneg
  · have hlength : (padded 4 year.toNat).length ≤ 4 :=
      (length_padded (by decide) (show year.toNat < 10000 by omega)).le
    obtain ⟨d, ds, hcons⟩ := List.exists_cons_of_ne_nil (padded_ne_nil 4 year.toNat)
    have hd : d.isDigit = true := hds _ d (hcons ▸ List.mem_cons_self)
    have hread := readDigits_append (hds _) hrest (padded_ne_nil 4 year.toNat) hlength
    rw [ofDigits_padded] at hread
    rw [readYear, trimStart_append (hds _) (padded_ne_nil 4 year.toNat)]
    split
    · rename_i heq
      rw [hcons] at heq
      obtain ⟨rfl, -⟩ := List.cons.inj heq
      cases hd
    · rename_i heq
      rw [hcons] at heq
      obtain ⟨rfl, -⟩ := List.cons.inj heq
      cases hd
    · rw [hread, Option.map_some]
      exact congrArg (fun y => some (y, rest)) (Int.toNat_of_nonneg hplain.1)
  · rw [List.cons_append, readYear, trimStart_cons (by decide)]
    simp only [hsigned, Option.map_some]
    rw [Int.ofNat_natAbs_of_nonpos hneg.le, Int.neg_neg]
  · rw [List.cons_append, readYear, trimStart_cons (by decide)]
    simp only [hsigned, Option.map_some]
    rw [Int.natAbs_of_nonneg (by omega)]

/-- A fraction is read from as many digits as are written. -/
lemma readFraction_padded {width n nanos : Nat} (hpos : 0 < width) (hwidth : width ≤ 9)
    (h : n < Nat.pow 10 width) (hnanos : n * Nat.pow 10 (9 - width) = nanos) {rest : List Char}
    (hrest : ∀ c ∈ rest.head?, c.isDigit = false) :
    readFraction ('.' :: padded width n ++ rest) = some (nanos, rest) := by
  have hlength := length_padded hpos h
  have hne := padded_ne_nil width n
  have hvalue := ofDigits_padded width n
  have hds : ∀ c ∈ padded width n, c.isDigit = true := fun _ => isDigit_of_mem_padded
  generalize padded width n = ds at hlength hne hvalue hds
  rw [List.cons_append, readFraction, takeWhile_isDigit hds hrest]
  split
  · contradiction
  · simp only [List.take_of_length_le (hlength.trans_le hwidth), hvalue, hlength, hnanos,
      List.drop_left' hlength]

/-- A fraction is read as it is written. -/
lemma readFraction_writeFraction {nanos : Nat} (h : nanos < nanosPerSecond) :
    readFraction (writeFraction nanos ++ ['Z']) = some (nanos, ['Z']) := by
  have hend : ∀ c ∈ ['Z'].head?, c.isDigit = false := by simp
  have hmillis : nanos / 1000000 < 1000 := Nat.div_lt_of_lt_mul h
  have hmicros : nanos / 1000 < 1000000 := Nat.div_lt_of_lt_mul h
  rw [writeFraction]
  split_ifs with hzero hwhole hwhole
  · rw [hzero]
    rfl
  · exact readFraction_padded (by decide) (by decide) hmillis
      (Nat.div_mul_cancel (Nat.dvd_of_mod_eq_zero hwhole)) hend
  · exact readFraction_padded (by decide) (by decide) hmicros
      (Nat.div_mul_cancel (Nat.dvd_of_mod_eq_zero hwhole)) hend
  · exact readFraction_padded (by decide) (by decide) h (Nat.mul_one nanos) hend

/-! ### Instants -/

/-- A text of parts that are in their bounds is read as the instant of these parts. -/
lemma read?_parts {date : Calendar.Date} {hour minute second nanos : Nat} {t : Timestamp}
    (hyear : -262143 ≤ date.year ∧ date.year ≤ 262142) (hdate : date.isValid = true)
    (hhour : hour ≤ 23) (hminute : minute ≤ 59) (hsecond : second ≤ 60)
    (hnanos : nanos < nanosPerSecond)
    (h : Timestamp.ofParts? (Calendar.dayNumber date * 86400 +
        ((hour * 3600 + minute * 60 + (if second = 60 then 59 else second) : Nat) : Int) - 0)
      (if second = 60 then nanos + nanosPerSecond else nanos) = some t) :
    read? (writeYear date.year ++ '-' :: (padded 2 date.month ++ '-' :: (padded 2 date.day ++
      'T' :: (padded 2 hour ++ ':' :: (padded 2 minute ++ ':' :: (padded 2 second ++
      (writeFraction nanos ++ ['Z']))))))) = some t := by
  obtain ⟨hmonth, hday⟩ := Calendar.Date.lt_of_isValid hdate
  have hfraction : ∀ c ∈ (writeFraction nanos ++ ['Z']).head?, c.isDigit = false := by
    rw [writeFraction]
    split_ifs <;> simp
  have hbounds : (decide (date.year < -262143) || decide (262142 < date.year) || !date.isValid ||
      decide (hour > 23) || decide (minute > 59) || decide (second > 60) ||
      decide ((0 : Int).natAbs ≥ 86400)) = false := by
    simp [hdate]
    omega
  refine Option.bind_eq_some_iff.mpr ⟨_, readYear_writeYear _ (by simp), ?_⟩
  refine Option.bind_eq_some_iff.mpr ⟨_, afterMark_cons (by decide) _, ?_⟩
  refine Option.bind_eq_some_iff.mpr ⟨_, readTwo_padded (by omega) (by simp), ?_⟩
  refine Option.bind_eq_some_iff.mpr ⟨_, afterMark_cons (by decide) _, ?_⟩
  refine Option.bind_eq_some_iff.mpr ⟨_, readTwo_padded (by omega) (by simp), ?_⟩
  refine Option.bind_eq_some_iff.mpr ⟨_, rfl, ?_⟩
  refine Option.bind_eq_some_iff.mpr ⟨_, readTwo_padded (by omega) (by simp), ?_⟩
  refine Option.bind_eq_some_iff.mpr ⟨_, afterMark_cons (by decide) _, ?_⟩
  refine Option.bind_eq_some_iff.mpr ⟨_, readTwo_padded (by omega) (by simp), ?_⟩
  refine Option.bind_eq_some_iff.mpr ⟨_, afterMark_cons (by decide) _, ?_⟩
  refine Option.bind_eq_some_iff.mpr ⟨_, readTwo_padded (by omega) hfraction, ?_⟩
  refine Option.bind_eq_some_iff.mpr ⟨_, readFraction_writeFraction hnanos, ?_⟩
  refine Option.bind_eq_some_iff.mpr ⟨(0, []), by decide, ?_⟩
  exact (if_neg (by decide)).trans ((if_neg (Bool.eq_false_iff.mp hbounds)).trans h)

/-- An instant is read back from its text. -/
theorem read?_write (t : Timestamp) : read? (write t) = some t := by
  obtain ⟨seconds, nanos, hfirst, hlast, hnanos, hleap⟩ := t
  obtain ⟨date, hofDay⟩ : ∃ date, Calendar.ofDayNumber (seconds / 86400) = date := ⟨_, rfl⟩
  obtain ⟨time, htime⟩ : ∃ time, (seconds % 86400).toNat = time := ⟨_, rfl⟩
  have hyear := Calendar.year_ofDayNumber (n := seconds / 86400) (by omega) (by omega)
  have hdate := Calendar.isValid_ofDayNumber (seconds / 86400)
  have hnumber := Calendar.dayNumber_ofDayNumber (seconds / 86400)
  rw [hofDay] at hyear hdate hnumber
  simp only [write, hofDay, htime, List.append_assoc, List.cons_append]
  by_cases hsecond : nanosPerSecond ≤ nanos
  · -- The last second of a minute is written as the sixtieth, and read as the last one again.
    have hminute : time % 60 + 1 = 60 := by
      have hmod := hleap hsecond
      omega
    rw [if_pos hsecond, if_pos hsecond, hminute]
    refine read?_parts hyear hdate (by omega) (by omega) (by omega) (by omega) ?_
    rw [if_pos rfl, if_pos rfl, Nat.sub_add_cancel hsecond, hnumber]
    have hseconds : seconds / 86400 * 86400 +
        ((time / 3600 * 3600 + time / 60 % 60 * 60 + 59 : Nat) : Int) - 0 = seconds := by omega
    rw [hseconds]
    exact dif_pos ⟨⟨hfirst, hlast⟩, hnanos, hleap⟩
  · have hminute : time % 60 ≠ 60 := by omega
    rw [if_neg hsecond, if_neg hsecond, Nat.add_zero]
    refine read?_parts hyear hdate (by omega) (by omega) (by omega) (by omega) ?_
    rw [if_neg hminute, if_neg hminute, hnumber]
    have hseconds : seconds / 86400 * 86400 +
        ((time / 3600 * 3600 + time / 60 % 60 * 60 + time % 60 : Nat) : Int) - 0 = seconds := by
      omega
    rw [hseconds]
    exact dif_pos ⟨⟨hfirst, hlast⟩, hnanos, hleap⟩

end Rfc3339

/-- An instant is read back from its JSON string. -/
@[simp] theorem Timestamp.ofJson?_toJson (t : Timestamp) : ofJson? t.toJson = some t := by
  rw [ofJson?, toJson, Json.asText_text, Option.bind_some, String.toList_ofList,
    Rfc3339.read?_write]

end ComputeExchange
