/-!
# The Gregorian calendar

Days are counted from 1 January 1970; the calendar is extended without end in both directions.

* `daysOfDate` — the day number of a date.
* `dateOfDays` — the date of a day number.
* `isDate` — whether year, month and day name a day.

Both conversions count years from 1 March, so that the leap day is the last day of its year, and
work in eras of 400 years, which all have 146097 days.
-/

namespace ContentSync.Time

/-- A year, month and day. -/
structure Date where
  year : Int
  month : Nat
  day : Nat
  deriving DecidableEq

/-- Whether the year has a 29 February. -/
def isLeapYear (y : Int) : Bool := y % 4 == 0 && (y % 100 != 0 || y % 400 == 0)

/-- Number of days of a month. -/
def daysInMonth (y : Int) (m : Nat) : Nat :=
  if m = 2 then (if isLeapYear y then 29 else 28)
  else if m = 4 ∨ m = 6 ∨ m = 9 ∨ m = 11 then 30
  else 31

/-- Whether these numbers name a day. -/
def isDate (d : Date) : Bool :=
  1 ≤ d.month && d.month ≤ 12 && 1 ≤ d.day && d.day ≤ daysInMonth d.year d.month

/-- The day number of a date. -/
def daysOfDate (d : Date) : Int :=
  let y := if d.month ≤ 2 then d.year - 1 else d.year
  let era := y.fdiv 400
  let yearOfEra := y.fmod 400
  let month := (d.month + 9) % 12
  let dayOfYear : Int := (153 * month + 2) / 5 + d.day - 1
  era * 146097 + (yearOfEra * 365 + yearOfEra / 4 - yearOfEra / 100 + dayOfYear) - 719468

/-- The date of a day number. -/
def dateOfDays (n : Int) : Date :=
  let z := n + 719468
  let era := z.fdiv 146097
  let dayOfEra := z.fmod 146097
  let yearOfEra :=
    (dayOfEra - dayOfEra / 1460 + dayOfEra / 36524 - dayOfEra / 146096) / 365
  let dayOfYear := (dayOfEra - (365 * yearOfEra + yearOfEra / 4 - yearOfEra / 100)).toNat
  let month := (5 * dayOfYear + 2) / 153
  let day := dayOfYear - (153 * month + 2) / 5 + 1
  let m := if month < 10 then month + 3 else month - 9
  let y := yearOfEra + era * 400
  ⟨if m ≤ 2 then y + 1 else y, m, day⟩

example : daysOfDate ⟨1970, 1, 1⟩ = 0 := by decide
example : daysOfDate ⟨2000, 2, 29⟩ = 11016 := by decide
example : dateOfDays 11016 = ⟨2000, 2, 29⟩ := by decide
example : dateOfDays (daysOfDate ⟨-262143, 1, 1⟩) = ⟨-262143, 1, 1⟩ := by decide

end ContentSync.Time
