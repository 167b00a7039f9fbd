import ComputeExchange.Time.Calendar
import Mathlib.Tactic

/-!
# Days and dates

The date of a day exists and has the number of the day (`Calendar.isValid_ofDayNumber`,
`Calendar.dayNumber_ofDayNumber`).  A day of an era of 400 years is told by its century, the four
years in it, the year of these and the day of the year (`Calendar.exists_eraDay`); from then on all
is linear.
-/

namespace ComputeExchange.Calendar

/-- A day of an era: the last century of the era and the last of four years have a day more, other
than the last four years of a century that is not the last. -/
structure EraDay where
  century : Int
  fours : Int
  rest : Int
  day : Int
  century_mem : 0 ≤ century ∧ century ≤ 3
  fours_mem : 0 ≤ fours ∧ fours ≤ 24
  rest_mem : 0 ≤ rest ∧ rest ≤ 3
  day_mem : 0 ≤ day ∧ day ≤ 365
  leap : day = 365 → rest = 3 ∧ (fours = 24 → century = 3)

namespace EraDay

/-- The number of a day in its era. -/
def number (e : EraDay) : Int := 36524 * e.century + 1461 * e.fours + 365 * e.rest + e.day

/-- The year of a day in its era. -/
def year (e : EraDay) : Int := 100 * e.century + 4 * e.fours + e.rest

end EraDay

/-- Every number of a day in its era belongs to a day. -/
lemma exists_eraDay {n : Int} (hfirst : 0 ≤ n) (hlast : n < 146097) :
    ∃ e : EraDay, e.number = n := by
  obtain ⟨c, hc⟩ : ∃ c, c = min (n / 36524) 3 := ⟨_, rfl⟩
  obtain ⟨q, hq⟩ : ∃ q, q = (n - 36524 * c) / 1461 := ⟨_, rfl⟩
  obtain ⟨s, hs⟩ : ∃ s, s = min ((n - 36524 * c - 1461 * q) / 365) 3 := ⟨_, rfl⟩
  refine ⟨⟨c, q, s, n - 36524 * c - 1461 * q - 365 * s, ?_, ?_, ?_, ?_, ?_⟩, ?_⟩
  · omega
  · omega
  · omega
  · omega
  · omega
  · simp only [EraDay.number]
    omega

/-- The year of a day in its era is the one that is reckoned. -/
lemma EraDay.reckoned_year (e : EraDay) :
    (e.number - e.number / 1460 + e.number / 36524 - e.number / 146096) / 365 = e.year := by
  obtain ⟨c, q, s, d, hc, hq, hs, hd, hleap⟩ := e
  obtain ⟨n, hn⟩ : ∃ n, n = 36524 * c + 1461 * q + 365 * s + d := ⟨_, rfl⟩
  simp only [number, year, ← hn]
  by_cases hlast : 1461 * q + 365 * s + d = 36524
  · -- The last day of the era.
    obtain ⟨rfl, rfl, rfl, rfl⟩ : q = 24 ∧ s = 3 ∧ d = 365 ∧ c = 3 := by omega
    subst hn
    decide
  · have hcentury : n / 36524 = c := by omega
    have hera : n / 146096 = 0 := by omega
    have hfours : n / 1460 = 25 * c + q ∨ n / 1460 = 25 * c + q + 1 := by omega
    rw [hcentury, hera]
    rcases hfours with hfours | hfours
    · rw [hfours]
      omega
    · rw [hfours]
      omega

/-- The day of the year is the one that is reckoned. -/
lemma EraDay.reckoned_day (e : EraDay) :
    e.number - (365 * e.year + e.year / 4 - e.year / 100) = e.day := by
  obtain ⟨c, q, s, d, hc, hq, hs, hd, hleap⟩ := e
  simp only [number, year]
  omega

/-- A year of the count has 366 days if the year in which it ends is a leap year. -/
lemma EraDay.isLeap_of_day (e : EraDay) (h : e.day = 365) (era : Int) :
    isLeap (e.year + era * 400 + 1) = true := by
  obtain ⟨c, q, s, d, hc, hq, hs, hd, hleap⟩ := e
  simp only at h
  simp only [year, isLeap, Bool.and_eq_true, Bool.or_eq_true, beq_iff_eq, bne_iff_ne]
  omega

/-- The month of a day, where March is the first of its year. -/
def EraDay.month (e : EraDay) : Int := (5 * e.day + 2) / 153

/-- The date of a day of an era.  January and February are the last months of the count, and belong
to the next year. -/
def EraDay.date (e : EraDay) (era : Int) : Date where
  year := e.year + era * 400 + (if e.month < 10 then 0 else 1)
  month := (if e.month < 10 then e.month + 3 else e.month - 9).toNat
  day := (e.day - (153 * e.month + 2) / 5 + 1).toNat

lemma EraDay.year_mem (e : EraDay) : 0 ≤ e.year ∧ e.year < 400 := by
  obtain ⟨c, q, s, d, hc, hq, hs, hd, hleap⟩ := e
  simp only [year]
  omega

lemma EraDay.month_mem (e : EraDay) : 0 ≤ e.month ∧ e.month ≤ 11 := by
  have hday := e.day_mem
  rw [month]
  omega

/-- A date is reckoned from the day in its era. -/
lemma exists_date (n : Int) :
    ∃ (era : Int) (e : EraDay), ofDayNumber n = e.date era ∧
      n + 719468 = era * 146097 + e.number := by
  obtain ⟨e, he⟩ := exists_eraDay (n := (n + 719468) % 146097) (by omega) (by omega)
  refine ⟨(n + 719468) / 146097, e, ?_, by omega⟩
  have hmonth := e.month_mem
  have hreckoned : (5 * e.day + 2) / 153 = e.month := rfl
  simp only [ofDayNumber, ← he, e.reckoned_year, e.reckoned_day, hreckoned, EraDay.date,
    Date.mk.injEq, and_true]
  by_cases hspring : e.month < 10
  · rw [if_pos hspring, if_pos hspring, if_neg (by omega)]
  · rw [if_neg hspring, if_neg hspring, if_pos (by omega)]

/-- The date of a day of an era has the number of this day. -/
lemma EraDay.dayNumber_date (e : EraDay) (era : Int) :
    dayNumber (e.date era) = era * 146097 + e.number - 719468 := by
  have hday := e.day_mem
  have hmonth := e.month_mem
  have hyear := e.year_mem
  have hnumber := e.reckoned_day
  have hstart : 0 ≤ e.day - (153 * e.month + 2) / 5 := by
    rw [month]
    omega
  by_cases hspring : e.month < 10
  · have hlate : ¬ (e.month + 3).toNat ≤ 2 := by omega
    simp only [dayNumber, date, if_pos hspring, if_neg hlate]
    omega
  · have hearly : (e.month - 9).toNat ≤ 2 := by omega
    simp only [dayNumber, date, if_neg hspring, if_pos hearly]
    omega

/-- A month is at least as long as it is in other years than leap years. -/
lemma monthLength_february (year : Int) : 28 ≤ monthLength year 2 := by
  rw [monthLength]
  split_ifs <;> decide

/-- The date of a day of an era exists. -/
lemma EraDay.isValid_date (e : EraDay) (era : Int) : (e.date era).isValid = true := by
  have hday := e.day_mem
  obtain ⟨hfirst, hlast⟩ := e.month_mem
  have hwithin : 153 * e.month ≤ 5 * e.day + 2 ∧ 5 * e.day + 2 < 153 * e.month + 153 := by
    rw [month]
    omega
  have hmonth : e.day - (153 * e.month + 2) / 5 + 1 ≤
      monthLength (e.year + era * 400 + (if e.month < 10 then 0 else 1))
        (if e.month < 10 then e.month + 3 else e.month - 9).toNat := by
    by_cases hfebruary : e.month = 11
    · rw [hfebruary, if_neg (by decide), if_neg (by decide)]
      have hshort := monthLength_february (e.year + era * 400 + 1)
      by_cases hlong : e.day = 365
      · have hlength : monthLength (e.year + era * 400 + 1) 2 = 29 := by
          rw [monthLength, e.isLeap_of_day hlong, if_pos rfl]
        rw [hlong]
        exact Int.le_of_eq (congrArg Nat.cast hlength).symm
      · change _ ≤ ((monthLength (e.year + era * 400 + 1) 2 : Nat) : Int)
        omega
    · generalize e.month = m at hfirst hlast hwithin hfebruary ⊢
      interval_cases m <;> simp [monthLength] <;> omega
  have hpos : 1 ≤ e.day - (153 * e.month + 2) / 5 + 1 := by omega
  refine Bool.and_eq_true_iff.mpr ⟨decide_eq_true ?_, decide_eq_true ?_⟩
  · simp only [date]
    omega
  · simp only [date]
    omega

/-- The date of a day has its number. -/
theorem dayNumber_ofDayNumber (n : Int) : dayNumber (ofDayNumber n) = n := by
  obtain ⟨era, e, hdate, hn⟩ := exists_date n
  rw [hdate, e.dayNumber_date]
  omega

/-- The date of a day exists. -/
theorem isValid_ofDayNumber (n : Int) : (ofDayNumber n).isValid = true := by
  obtain ⟨era, e, hdate, -⟩ := exists_date n
  rw [hdate]
  exact e.isValid_date era

/-- A date that exists has a month of the year and a day of a month. -/
lemma Date.lt_of_isValid {d : Date} (h : d.isValid = true) : d.month < 13 ∧ d.day < 32 := by
  obtain ⟨hfirst, hlast⟩ := Bool.and_eq_true_iff.mp h
  replace hfirst := of_decide_eq_true hfirst
  replace hlast := of_decide_eq_true hlast
  unfold monthLength at hlast
  split at hlast <;> try split_ifs at hlast
  all_goals omega

/-- The years of the days from the first to the last that an instant can have. -/
lemma year_ofDayNumber {n : Int} (hfirst : -96465292 ≤ n) (hlast : n ≤ 95026236) :
    -262143 ≤ (ofDayNumber n).year ∧ (ofDayNumber n).year ≤ 262142 := by
  obtain ⟨era, e, hdate, hn⟩ := exists_date n
  have hday := e.day_mem
  have hyear := e.year_mem
  have hnumber := e.reckoned_day
  have hera : -656 ≤ era ∧ era ≤ 655 := by omega
  have hold : era = -656 → 256 ≤ e.year ∧ (e.year = 256 → 306 ≤ e.day) := by omega
  have hyoung : era = 655 → e.year ≤ 142 ∧ (e.year = 142 → e.day ≤ 305) := by omega
  rw [hdate]
  simp only [EraDay.date, EraDay.month]
  split_ifs <;> omega

end ComputeExchange.Calendar
