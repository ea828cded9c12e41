/-!
# The calendar

Days counted from 1 January 1970 in the Gregorian calendar, extended to all years. Years begin in
March here, so that the day that leap years add is the last of its year; `dayNumber` and `date`
are the two directions.
-/

namespace EdgeFleet.Time

/-- A day of the calendar. -/
structure Date where
  year : Int
  month : Nat
  day : Nat
  deriving Repr, DecidableEq

/-- Whether a year has 366 days. -/
def isLeap (year : Int) : Bool :=
  year % 4 == 0 && (year % 100 != 0 || year % 400 == 0)

/-- The number of days of a month. -/
def monthLength (year : Int) (month : Nat) : Nat :=
  if month == 2 then (if isLeap year then 29 else 28)
  else if month == 4 || month == 6 || month == 9 || month == 11 then 30
  else 31

namespace Date

/-- Whether the month and the day exist. -/
def isValid (date : Date) : Bool :=
  1 ≤ date.month && date.month ≤ 12 && 1 ≤ date.day && date.day ≤ monthLength date.year date.month

/-- The number of days from 1 January 1970 to a date. -/
def dayNumber (date : Date) : Int :=
  let year := if date.month ≤ 2 then date.year - 1 else date.year
  let month := if date.month ≤ 2 then date.month + 9 else date.month - 3
  let dayOfYear : Int := (153 * month + 2) / 5 + date.day - 1
  year * 365 + year.fdiv 4 - year.fdiv 100 + year.fdiv 400 + dayOfYear - 719468

/-- The date of a day number. -/
def ofDayNumber (number : Int) : Date :=
  let shifted := number + 719468
  let era := shifted.fdiv 146097
  let dayOfEra := (shifted - era * 146097).toNat
  let yearOfEra := (dayOfEra - dayOfEra / 1460 + dayOfEra / 36524 - dayOfEra / 146096) / 365
  let dayOfYear := dayOfEra - (365 * yearOfEra + yearOfEra / 4 - yearOfEra / 100)
  let month := (5 * dayOfYear + 2) / 153
  let day := dayOfYear - (153 * month + 2) / 5 + 1
  let year := era * 400 + yearOfEra
  if month < 10 then ⟨year, month + 3, day⟩ else ⟨year + 1, month - 9, day⟩

end Date

example : (Date.mk 1970 1 1).dayNumber = 0 := rfl

example : (Date.mk 2000 2 29).dayNumber = 11016 := rfl

example : Date.ofDayNumber 11016 = ⟨2000, 2, 29⟩ := rfl

example : Date.ofDayNumber (-1) = ⟨1969, 12, 31⟩ := rfl

end EdgeFleet.Time
