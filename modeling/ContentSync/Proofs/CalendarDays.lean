import ContentSync.Time.Calendar
import Mathlib.Tactic.Lemma

/-!
# Days and dates

An era of 400 years consists of centuries, those of spans of four years, and those of years that
begin in March; whatever is left over at the end of the larger unit belongs to its last smaller one.
A day of an era is followed down these units (`EraDay`), and both conversions are read off where it
ends up.

* `EraDay` — a day of an era as century, span, year and day of the year; every day is one.
* `YearDay` — a day of a year as month and day of the month.
* `isDate_dateOfDays` — a day number has a date.
* `daysOfDate_dateOfDays` — and it is the day number of its date.
-/

namespace ContentSync.Time

/-! ## Days of an era -/

/-- **A day of an era** in its century, its span of four years, its year and its day of the year.
Only a leap year has the last day. -/
structure EraDay (day century span year n : Int) : Prop where
  eq : day = 36524 * century + 1461 * span + 365 * year + n
  century_le : 0 ≤ century ∧ century ≤ 3
  span_le : 0 ≤ span ∧ span ≤ 24
  year_le : 0 ≤ year ∧ year ≤ 3
  n_le : 0 ≤ n ∧ n ≤ 365
  leap : n = 365 → year = 3 ∧ (span = 24 → century = 3)

lemma exists_eraDay {day : Int} (h : 0 ≤ day ∧ day < 146097) :
    ∃ century span year n, EraDay day century span year n := by
  -- the last century has a day more, which is no century of its own
  obtain ⟨century, rest, hcentury, hday, hrest⟩ : ∃ century rest : Int,
      (0 ≤ century ∧ century ≤ 3) ∧ day = 36524 * century + rest ∧
        0 ≤ rest ∧ (rest ≤ 36523 ∨ century = 3 ∧ rest = 36524) := by
    rcases (by omega : day / 36524 ≤ 3 ∨ day = 146096) with hcentury | hlast
    · exact ⟨day / 36524, day % 36524, by omega, by omega, by omega⟩
    · exact ⟨3, 36524, by omega, by omega, by omega⟩
  obtain ⟨span, left, hspan⟩ : ∃ span left : Int,
      rest = 1461 * span + left ∧ 0 ≤ left ∧ left ≤ 1460 :=
    ⟨rest / 1461, rest % 1461, by omega, by omega⟩
  -- and neither is the leap day a year of its own
  rcases (by omega : left / 365 ≤ 3 ∨ left = 1460) with hyear | hlast
  · exact ⟨century, span, left / 365, left % 365, by omega, hcentury, by omega, by omega,
      by omega, by omega⟩
  · exact ⟨century, span, 3, 365, by omega, hcentury, by omega, by omega, by omega, by omega⟩

section EraDay

variable {day century span year n : Int}

/-- The year of the era is found by leaving out the leap days. -/
lemma EraDay.yearOfEra_eq (h : EraDay day century span year n) :
    (day - day / 1460 + day / 36524 - day / 146096) / 365 = 100 * century + 4 * span + year := by
  obtain ⟨hday, hcentury, hspan, hyear, hn, hleap⟩ := h
  have heras : day / 146096 = if day = 146096 then 1 else 0 := by
    split <;> omega
  have hcenturies : day / 36524 = century + if day = 146096 then 1 else 0 := by
    split <;> omega
  have hspans : day / 1460 = 25 * century + span +
      if 1460 ≤ 24 * century + span + 365 * year + n then 1 else 0 := by
    split <;> omega
  rw [heras, hcenturies, hspans]
  split <;> split <;> omega

/-- The days of the era before the year. -/
lemma EraDay.daysBefore_eq (h : EraDay day century span year n) :
    365 * (100 * century + 4 * span + year) + (100 * century + 4 * span + year) / 4 -
      (100 * century + 4 * span + year) / 100 = day - n := by
  have := h.eq
  have := h.span_le
  have := h.year_le
  omega

/-- The leap day falls into a leap year, which is the one that the next calendar year is. -/
lemma EraDay.isLeapYear (h : EraDay day century span year n) (hn : n = 365) (era : Int) :
    isLeapYear (100 * century + 4 * span + year + era * 400 + 1) = true := by
  obtain ⟨hyear, hlast⟩ := h.leap hn
  have := h.century_le
  have := h.span_le
  simp only [Time.isLeapYear, Bool.and_eq_true, Bool.or_eq_true, beq_iff_eq, bne_iff_ne]
  omega

end EraDay

/-! ## Days of a year -/

/-- **A day of a year** that begins in March, as month and day of the month.  All months but the
last have 31 days or, four of them, 30. -/
structure YearDay (n month day : Nat) : Prop where
  eq : n = (153 * month + 2) / 5 + day
  month_le : month ≤ 11
  day_le : day ≤ if month = 11 then 28 else if month = 1 ∨ month = 3 ∨ month = 6 ∨ month = 8 then 29
    else 30

lemma yearDay_of_le {n : Nat} (h : n ≤ 365) :
    YearDay n ((5 * n + 2) / 153) (n - (153 * ((5 * n + 2) / 153) + 2) / 5) := by
  have hmonth : (5 * n + 2) / 153 ≤ 11 := by omega
  refine ⟨by omega, hmonth, ?_⟩
  split
  · omega
  · split <;> omega

/-- The months as they are counted from January. -/
def calendarMonth (month : Nat) : Nat := if month < 10 then month + 3 else month - 9

/-- January and February belong to the next calendar year. -/
def calendarYear (year : Int) (month : Nat) : Int :=
  if calendarMonth month ≤ 2 then year + 1 else year

lemma calendarMonth_bounds {month : Nat} (h : month ≤ 11) :
    1 ≤ calendarMonth month ∧ calendarMonth month ≤ 12 := by
  rw [calendarMonth]
  split <;> omega

/-- A day of a year is one of its month, if the last day of February falls into a leap year. -/
lemma YearDay.le_daysInMonth {n month day : Nat} (h : YearDay n month day) {year : Int}
    (hleap : n = 365 → isLeapYear (year + 1) = true) :
    day + 1 ≤ daysInMonth (calendarYear year month) (calendarMonth month) := by
  obtain ⟨hn, hmonth, hday⟩ := h
  by_cases hlast : month = 11
  · subst hlast
    have hyear : calendarYear year 11 = year + 1 := rfl
    have hfebruary : daysInMonth (year + 1) (calendarMonth 11) =
      if isLeapYear (year + 1) = true then 29 else 28 := rfl
    rw [hyear, hfebruary]
    rw [if_pos rfl] at hday
    cases hcommon : isLeapYear (year + 1) with
    | true =>
        rw [if_pos rfl]
        omega
    | false =>
        have hne : n ≠ 365 := fun heq => by simp [hleap heq] at hcommon
        rw [if_neg Bool.false_ne_true]
        omega
  · have hne : calendarMonth month ≠ 2 := by
      rw [calendarMonth]
      split <;> omega
    rw [if_neg hlast] at hday
    rw [daysInMonth, if_neg hne, calendarMonth]
    split at hday <;> split <;> split <;> omega

/-! ## Both conversions -/

/-- The units that a day number is followed down. -/
structure Place where
  era : Int
  century : Int
  span : Int
  year : Int
  month : Nat
  day : Nat

/-- The year of a place, counted from March. -/
def Place.marchYear (p : Place) : Int :=
  100 * p.century + 4 * p.span + p.year + p.era * 400

/-- Where a day number ends up, and the date that it has there. -/
structure Place.Of (p : Place) (days : Int) (n : Nat) : Prop where
  eraDay : EraDay (days + 719468 - p.era * 146097) p.century p.span p.year n
  yearDay : YearDay n p.month p.day
  date : dateOfDays days =
    ⟨calendarYear p.marchYear p.month, calendarMonth p.month, p.day + 1⟩

theorem exists_place (days : Int) : ∃ p n, Place.Of p days n := by
  have hday : 0 ≤ (days + 719468) % 146097 ∧ (days + 719468) % 146097 < 146097 := by omega
  obtain ⟨century, span, year, n, hera⟩ := exists_eraDay hday
  obtain ⟨m, rfl⟩ : ∃ m : Nat, n = m := ⟨n.toNat, by have := hera.n_le; omega⟩
  have hrest : (days + 719468) % 146097 = days + 719468 - (days + 719468) / 146097 * 146097 := by
    omega
  have hyearDay := yearDay_of_le (n := m) (by have := hera.n_le; omega)
  refine ⟨⟨(days + 719468) / 146097, century, span, year, _, _⟩, m, hrest ▸ hera, hyearDay, ?_⟩
  have hn : ((days + 719468) % 146097 -
      (365 * (100 * century + 4 * span + year) + (100 * century + 4 * span + year) / 4 -
        (100 * century + 4 * span + year) / 100)).toNat = m := by
    rw [hera.daysBefore_eq]
    omega
  simp only [dateOfDays, Int.fdiv_eq_ediv_of_nonneg _ (by decide : (0 : Int) ≤ 146097),
    Int.fmod_eq_emod_of_nonneg _ (by decide : (0 : Int) ≤ 146097), hera.yearOfEra_eq, hn]
  rfl

/-- **A day number has a date.** -/
theorem isDate_dateOfDays (days : Int) : isDate (dateOfDays days) = true := by
  obtain ⟨p, n, hera, hyear, hdate⟩ := exists_place days
  have hmonth := calendarMonth_bounds hyear.month_le
  have hleap : n = 365 → isLeapYear (p.marchYear + 1) = true := fun hn =>
    hera.isLeapYear (by omega) p.era
  have hday := hyear.le_daysInMonth hleap
  rw [hdate]
  simp only [isDate, Bool.and_eq_true, decide_eq_true_eq]
  exact ⟨⟨hmonth, by omega⟩, hday⟩

/-- The month and year of a date lead back to those that begin in March. -/
lemma march_of_calendar {month : Nat} (h : month ≤ 11) (year : Int) :
    (calendarMonth month + 9) % 12 = month ∧
      (if calendarMonth month ≤ 2 then calendarYear year month - 1
        else calendarYear year month) = year := by
  rw [calendarYear]
  constructor
  · rw [calendarMonth]
    split <;> omega
  · split <;> omega

/-- **A day number is the day number of its date.** -/
theorem daysOfDate_dateOfDays (days : Int) : daysOfDate (dateOfDays days) = days := by
  obtain ⟨p, n, hera, hyear, hdate⟩ := exists_place days
  obtain ⟨hmonth, hmarch⟩ := march_of_calendar hyear.month_le p.marchYear
  have hbefore := hera.daysBefore_eq
  have hyears : p.marchYear / 400 = p.era ∧
      p.marchYear % 400 = 100 * p.century + 4 * p.span + p.year := by
    have := hera.century_le
    have := hera.span_le
    have := hera.year_le
    rw [Place.marchYear]
    omega
  have hn : ((n : Nat) : Int) = (153 * p.month + 2) / 5 + p.day := by
    have := hyear.eq
    omega
  rw [hdate]
  simp only [daysOfDate, hmonth, hmarch,
    Int.fdiv_eq_ediv_of_nonneg _ (by decide : (0 : Int) ≤ 400),
    Int.fmod_eq_emod_of_nonneg _ (by decide : (0 : Int) ≤ 400), hyears]
  push_cast
  omega

end ContentSync.Time
