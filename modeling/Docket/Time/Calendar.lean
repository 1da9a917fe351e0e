/-
The proleptic Gregorian calendar: leap years, lengths of months, and the
number of days between a date and the first of January 1970.

Main statements: consecutive days of a month, of months and of years have
consecutive day numbers.
-/

namespace Docket

/-- A year with a twenty-ninth of February. -/
def isLeapYear (year : Int) : Bool :=
  year % 4 = 0 && (year % 100 ≠ 0 || year % 400 = 0)

/-- The number of days of a month, counted from 1. -/
def daysInMonth (year : Int) (month : Nat) : Nat :=
  if month = 2 then if isLeapYear year then 29 else 28
  else if month = 4 || month = 6 || month = 9 || month = 11 then 30
  else 31

/-- The number of days in the months before `month`. -/
def daysBeforeMonth (year : Int) : Nat → Nat
  | 0 => 0
  | 1 => 0
  | month + 1 => daysBeforeMonth year month + daysInMonth year month

/-- The number of days from the first of January of year 1 to that of
`year`. -/
def daysBeforeYear (year : Int) : Int :=
  let y := year - 1
  365 * y + y / 4 - y / 100 + y / 400

/-- A date: a year, a month of it and a day of that month, both counted
from 1. -/
structure Date where
  year : Int
  month : Nat
  day : Nat
deriving DecidableEq, Repr

namespace Date

/-- The years a date may have. -/
def firstYear : Int := -262143

/-- The last of those years. -/
def lastYear : Int := 262142

/-- The date exists. -/
def isValid (d : Date) : Bool :=
  firstYear ≤ d.year && d.year ≤ lastYear && 1 ≤ d.month && d.month ≤ 12
    && 1 ≤ d.day && d.day ≤ daysInMonth d.year d.month

/-- The number of days since the first of January 1970. -/
def dayNumber (d : Date) : Int :=
  daysBeforeYear d.year - daysBeforeYear 1970 + (daysBeforeMonth d.year d.month + (d.day - 1) : Nat)

/-- The day numbers of a month are consecutive. -/
theorem dayNumber_succ_day (y : Int) (m d : Nat) :
    dayNumber ⟨y, m, d + 2⟩ = dayNumber ⟨y, m, d + 1⟩ + 1 := by
  simp only [dayNumber]
  omega

/-- A month starts on the day after the month before it ends. -/
theorem dayNumber_succ_month (y : Int) (m : Nat) :
    dayNumber ⟨y, m + 2, 1⟩ = dayNumber ⟨y, m + 1, daysInMonth y (m + 1)⟩ + 1 := by
  have hpos : 1 ≤ daysInMonth y (m + 1) := by
    unfold daysInMonth
    repeat' split
    all_goals omega
  simp only [dayNumber, daysBeforeMonth]
  omega

/-- A year starts on the day after the year before it ends. -/
theorem dayNumber_succ_year (y : Int) :
    dayNumber ⟨y + 1, 1, 1⟩ = dayNumber ⟨y, 12, 31⟩ + 1 := by
  simp only [dayNumber, daysBeforeMonth, daysInMonth, daysBeforeYear, isLeapYear]
  by_cases h4 : y % 4 = 0 <;> by_cases h100 : y % 100 = 0 <;> by_cases h400 : y % 400 = 0 <;>
    simp [h4, h100, h400] <;> omega

end Date

end Docket
