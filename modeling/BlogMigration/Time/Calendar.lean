/-!
# The calendar

The proleptic Gregorian calendar. Days are counted from the first day of the year 1, which is day 1
and a Monday. Four centuries have 146097 days, the first three of them 36524 days each, and four
years have 1461 days unless the last of them is a common year.
-/

namespace BlogMigration
namespace Time

def isLeapYear (year : Int) : Bool :=
  year % 4 == 0 && (year % 100 != 0 || year % 400 == 0)

def yearLength (year : Int) : Int :=
  if isLeapYear year then 366 else 365

def monthLength (leap : Bool) : Nat → Nat
  | 1 | 3 | 5 | 7 | 8 | 10 | 12 => 31
  | 4 | 6 | 9 | 11 => 30
  | 2 => if leap then 29 else 28
  | _ => 0

def daysBeforeMonth (leap : Bool) : Nat → Nat
  | 0 | 1 => 0
  | month + 1 => daysBeforeMonth leap month + monthLength leap month

/-- The number of days before the first day of a year, counted from the year 1. -/
def daysBeforeYear (year : Int) : Int :=
  let past := year - 1
  365 * past + past / 4 - past / 100 + past / 400

/-- A day by its year and its place in the year, from 1 on. -/
structure YearDay where
  year : Int
  ordinal : Int
  deriving DecidableEq, Repr

namespace YearDay

def dayNumber (date : YearDay) : Int :=
  daysBeforeYear date.year + date.ordinal

def ofDayNumber (number : Int) : YearDay :=
  let past := number - 1
  let cycle := past / 146097
  let inCycle := past % 146097
  let century := min 3 (inCycle / 36524)
  let inCentury := inCycle - century * 36524
  let quad := inCentury / 1461
  let inQuad := inCentury % 1461
  let year := min 3 (inQuad / 365)
  ⟨400 * cycle + 100 * century + 4 * quad + year + 1, inQuad - year * 365 + 1⟩

end YearDay

structure Date where
  year : Int
  month : Nat
  day : Nat
  deriving DecidableEq, Repr

namespace Date

/-- The month of a day of the year and its place in the month, searching from `month` on. -/
def splitYear (leap : Bool) (month : Nat) (ordinal : Nat) : Nat → Nat × Nat
  | 0 => (month, ordinal)
  | fuel + 1 =>
    let length := monthLength leap month
    if ordinal ≤ length then (month, ordinal)
    else splitYear leap (month + 1) (ordinal - length) fuel

def ofYearDay (date : YearDay) : Date :=
  let (month, day) := splitYear (isLeapYear date.year) 1 date.ordinal.toNat 11
  ⟨date.year, month, day⟩

def toYearDay (date : Date) : YearDay :=
  ⟨date.year, daysBeforeMonth (isLeapYear date.year) date.month + date.day⟩

def dayNumber (date : Date) : Int :=
  date.toYearDay.dayNumber

def ofDayNumber (number : Int) : Date :=
  ofYearDay (.ofDayNumber number)

end Date

/-- The number of days after a Monday, from 0 to 6. -/
def daysFromMonday (number : Int) : Int :=
  (number - 1) % 7

/-- The number of days after the weekday `start`, itself given by the days after Monday. -/
def daysFrom (start : Int) (number : Int) : Int :=
  (daysFromMonday number - start) % 7

/-- The week of the year of a day, when weeks begin on the weekday `start` and the days before the
first such weekday are in week 0. -/
def weekFrom (start : Int) (number : Int) : Int :=
  ((YearDay.ofDayNumber number).ordinal - daysFrom start number + 6) / 7

/-- The Thursday of the week of a day; it decides to which year the week belongs. -/
def thursdayOf (number : Int) : Int :=
  number - daysFromMonday number + 3

def weekYear (number : Int) : Int :=
  (YearDay.ofDayNumber (thursdayOf number)).year

def weekOfWeekYear (number : Int) : Int :=
  ((YearDay.ofDayNumber (thursdayOf number)).ordinal - 1) / 7 + 1

def firstYear : Int := -262143

def lastYear : Int := 262142

def isYear (year : Int) : Bool :=
  firstYear ≤ year && year ≤ lastYear

/-- The number of the day of a date, if there is such a date. -/
def dayOfDate? (year month day : Int) : Option Int :=
  if isYear year ∧ 1 ≤ month ∧ month ≤ 12 ∧ 1 ≤ day ∧
      day ≤ monthLength (isLeapYear year) month.toNat then
    some (Date.dayNumber ⟨year, month.toNat, day.toNat⟩)
  else none

/-- The number of the day at a place of a year, if there is such a day. -/
def dayOfYear? (year ordinal : Int) : Option Int :=
  if isYear year ∧ 1 ≤ ordinal ∧ ordinal ≤ yearLength year then
    some (YearDay.dayNumber ⟨year, ordinal⟩)
  else none

/-- The number of the day of a week of a year, when weeks begin on the weekday `start`. The weekday
is given by the days after Monday. -/
def dayOfWeek? (start year week weekday : Int) : Option Int := do
  let newYear ← dayOfYear? year 1
  let firstStart := 1 + (start - daysFromMonday newYear) % 7
  dayOfYear? year (firstStart + (week - 1) * 7 + (weekday - start) % 7)

/-- The number of the day of a week, in the numbering in which a week belongs to the year of its
Thursday. -/
def dayOfWeekYear? (year week weekday : Int) : Option Int :=
  let fourth := daysBeforeYear year + 4
  let number := fourth - daysFromMonday fourth + (week - 1) * 7 + weekday
  if 1 ≤ week ∧ weekYear number = year ∧ isYear (YearDay.ofDayNumber number).year then some number
  else none

end Time
end BlogMigration
