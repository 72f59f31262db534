/-!
# The calendar

Dates are those of the Gregorian calendar, which is extended to all years before and after. There is
a year 0, and the years before it are negative.

A year is counted from March, so that the leap day is its last day and the days before a month do
not depend on the year.
-/

namespace MeshSurvey.Calendar

/-- Whether a year has a leap day. -/
def isLeapYear (year : Int) : Bool :=
  year % 4 = 0 && (year % 100 ≠ 0 || year % 400 = 0)

/-- The number of days of a month. -/
def daysInMonth (year : Int) (month : Nat) : Nat :=
  if month = 2 then (if isLeapYear year then 29 else 28)
  else if [4, 6, 9, 11].contains month then 30
  else 31

/-- The number of days from the first of March of the year 0 to the beginning of 1970. -/
def epochDays : Int := 719468

/-- The number of days from the beginning of 1970 to a date. -/
def daysOfDate (year : Int) (month day : Nat) : Int :=
  let y := if month ≤ 2 then year - 1 else year
  let m : Int := (month + 9) % 12
  365 * y + y / 4 - y / 100 + y / 400 + (153 * m + 2) / 5 + (day - 1) - epochDays

/-- The date a number of days after the beginning of 1970: year, month and day. -/
def dateOfDays (days : Int) : Int × Nat × Nat :=
  let z := days + epochDays
  let era := z / 146097
  let dayOfEra := (z % 146097).toNat
  let yearOfEra := (dayOfEra - dayOfEra / 1460 + dayOfEra / 36524 - dayOfEra / 146096) / 365
  let dayOfYear := dayOfEra - (365 * yearOfEra + yearOfEra / 4 - yearOfEra / 100)
  let m := (5 * dayOfYear + 2) / 153
  let month := if m < 10 then m + 3 else m - 9
  let year := era * 400 + yearOfEra + (if month ≤ 2 then 1 else 0)
  (year, month, dayOfYear - (153 * m + 2) / 5 + 1)

end MeshSurvey.Calendar
