import BlogMigration.Time.Clock

/-!
# Fields of a date and time

What a text says about a time is gathered field by field. A field may be given twice if both times
with the same value. The clock time, or the timestamp, is then worked out from the fields that are
known; the others have to agree with it.
-/

namespace BlogMigration
namespace Time

/-- A field. The half of the day and the hour of the half together make the hour; a weekday counts
from Monday on as 0. -/
inductive Slot where
  | year
  | century
  | yearOfCentury
  | weekYear
  | weekCentury
  | weekYearOfCentury
  | quarter
  | month
  | day
  | weekFromSunday
  | weekFromMonday
  | weekOfWeekYear
  | weekday
  | ordinal
  | halfDay
  | hourOfHalf
  | minute
  | second
  | nanosecond
  | epochSeconds
  | offset
  deriving DecidableEq, Repr

namespace Slot

def bounds : Slot → Int × Int
  | year | weekYear | offset => (-0x80000000, 0x7FFFFFFF)
  | century | weekCentury => (0, 0x7FFFFFFF)
  | yearOfCentury | weekYearOfCentury => (0, 99)
  | quarter => (1, 4)
  | month => (1, 12)
  | day => (1, 31)
  | weekFromSunday | weekFromMonday => (0, 53)
  | weekOfWeekYear => (1, 53)
  | weekday => (0, 6)
  | ordinal => (1, 366)
  | halfDay => (0, 1)
  | hourOfHalf => (0, 11)
  | minute => (0, 59)
  | second => (0, 60)
  | nanosecond => (0, 999999999)
  | epochSeconds => (-0x8000000000000000, 0x7FFFFFFFFFFFFFFF)

end Slot

/-- The fields that are known. -/
abbrev Fields := Slot → Option Int

namespace Fields

def unknown : Fields := fun _ => none

/-- Sets a field, unless the value is out of bounds or another value is known. -/
def put? (slot : Slot) (value : Int) (fields : Fields) : Option Fields :=
  if value < slot.bounds.1 ∨ slot.bounds.2 < value then none
  else
    match fields slot with
    | some known => if known = value then some fields else none
    | none => some fun other => if other = slot then some value else fields other

def putHour? (hour : Int) (fields : Fields) : Option Fields :=
  (fields.put? .halfDay (hour / 12)).bind (put? .hourOfHalf (hour % 12))

/-- Sets the hour of the half of the day, in which twelve comes before one. -/
def putHalfHour? (hour : Int) (fields : Fields) : Option Fields :=
  if 1 ≤ hour ∧ hour ≤ 12 then fields.put? .hourOfHalf (hour % 12) else none

/-- Why fields do not make a date or a time: too few are known, or they contradict each other. -/
inductive Gap where
  | missing
  | invalid
  deriving DecidableEq, Repr

def need (slot : Slot) (fields : Fields) : Except Gap Int :=
  match fields slot with
  | some value => .ok value
  | none => .error .missing

def agrees (slot : Slot) (value : Int) (fields : Fields) : Bool :=
  match fields slot with
  | some known => known == value
  | none => true

/-- Two digits of a year are read as a year from 1970 to 2069. -/
def nearCentury (yearOfCentury : Int) : Int :=
  if yearOfCentury < 70 then 2000 + yearOfCentury else 1900 + yearOfCentury

def resolveYear (year century yearOfCentury : Option Int) : Except Gap (Option Int) :=
  match year, century, yearOfCentury with
  | year, none, none => .ok year
  | some year, century, yearOfCentury =>
    if 0 ≤ year ∧ century.getD (year / 100) = year / 100 ∧
        yearOfCentury.getD (year % 100) = year % 100 then
      .ok (some year)
    else .error .invalid
  | none, some century, some yearOfCentury =>
    let year := century * 100 + yearOfCentury
    if year ≤ Slot.year.bounds.2 then .ok (some year) else .error .invalid
  | none, none, some yearOfCentury => .ok (some (nearCentury yearOfCentury))
  | none, some _, none => .error .missing

/-- Whether the fields of a year agree with it. Years before the year 0 have no century. -/
def yearAgrees (whole hundreds rest : Slot) (value : Int) (fields : Fields) : Bool :=
  fields.agrees whole value &&
    if 0 ≤ value then fields.agrees hundreds (value / 100) && fields.agrees rest (value % 100)
    else (fields hundreds).isNone && (fields rest).isNone

def dateAgrees (number : Int) (fields : Fields) : Bool :=
  let date := Date.ofDayNumber number
  fields.yearAgrees .year .century .yearOfCentury date.year && fields.agrees .month date.month &&
    fields.agrees .day date.day

/-- Whether the weekday and the week of the year of weeks agree with a day. -/
def weekDateAgrees (number : Int) (fields : Fields) : Bool :=
  fields.yearAgrees .weekYear .weekCentury .weekYearOfCentury (weekYear number) &&
    fields.agrees .weekOfWeekYear (weekOfWeekYear number) &&
    fields.agrees .weekday (daysFromMonday number)

def sunday : Int := 6

def monday : Int := 0

def ordinalAgrees (number : Int) (fields : Fields) : Bool :=
  fields.agrees .ordinal (YearDay.ofDayNumber number).ordinal &&
    fields.agrees .weekFromSunday (weekFrom sunday number) &&
    fields.agrees .weekFromMonday (weekFrom monday number)

def quarterAgrees (number : Int) (fields : Fields) : Bool :=
  fields.agrees .quarter (((Date.ofDayNumber number).month + 2) / 3 : Nat)

def orInvalid (number : Option Int) : Except Gap Int :=
  match number with
  | some number => .ok number
  | none => .error .invalid

/-- The day, if the other fields agree with it. -/
def verified (fields : Fields) (agree : Bool) (number : Int) : Except Gap Int :=
  if agree && fields.quarterAgrees number then .ok number else .error .invalid

/-- The number of the day. It is found from the first of these that is known: the month and its
day, the day of the year, a weekday of a week from Sunday or from Monday, or a weekday of a week of
the year of weeks. -/
def resolveDay (fields : Fields) : Except Gap Int := do
  let year ← resolveYear (fields .year) (fields .century) (fields .yearOfCentury)
  let weekYear ← resolveYear (fields .weekYear) (fields .weekCentury) (fields .weekYearOfCentury)
  match year, fields .month, fields .day with
  | some year, some month, some day =>
    let number ← orInvalid (dayOfDate? year month day)
    verified fields (fields.weekDateAgrees number && fields.ordinalAgrees number) number
  | _, _, _ =>
  let allAgree (number : Int) : Bool :=
    fields.dateAgrees number && fields.weekDateAgrees number && fields.ordinalAgrees number
  match year, fields .ordinal with
  | some year, some ordinal =>
    let number ← orInvalid (dayOfYear? year ordinal)
    verified fields (allAgree number) number
  | _, _ =>
  match year, fields .weekFromSunday, fields .weekday with
  | some year, some week, some weekday =>
    let number ← orInvalid (dayOfWeek? sunday year week weekday)
    verified fields (allAgree number) number
  | _, _, _ =>
  match year, fields .weekFromMonday, fields .weekday with
  | some year, some week, some weekday =>
    let number ← orInvalid (dayOfWeek? monday year week weekday)
    verified fields (allAgree number) number
  | _, _, _ =>
  match weekYear, fields .weekOfWeekYear, fields .weekday with
  | some weekYear, some week, some weekday =>
    let number ← orInvalid (dayOfWeekYear? weekYear week weekday)
    verified fields (fields.dateAgrees number && fields.ordinalAgrees number) number
  | _, _, _ => .error .missing

/-- The second of the day and the nanoseconds. The second 60 is a leap second after second 59. A
fraction needs a second, and seconds may be left out. -/
def resolveTime (fields : Fields) : Except Gap (Int × Nat) := do
  let half ← fields.need .halfDay
  let hour ← fields.need .hourOfHalf
  let minute ← fields.need .minute
  let start := (half * 12 + hour) * 3600 + minute * 60
  match fields .second, fields .nanosecond with
  | none, some _ => .error .missing
  | none, none => .ok (start, 0)
  | some second, nanos =>
    let nanos := (nanos.getD 0).toNat
    if second = 60 then .ok (start + 59, nanosPerSecond + nanos) else .ok (start + second, nanos)

/-- Whether the seconds since 1970 agree with a clock time of an offset. In a leap second they may
count the next second. -/
def epochAgrees (offset : Int) (time : Clock) (fields : Fields) : Bool :=
  match fields .epochSeconds with
  | none => true
  | some given =>
    given == time.seconds - offset ||
      (decide (nanosPerSecond ≤ time.nanos) && given == time.seconds - offset + 1)

/-- The fields completed by the clock time that seconds since 1970 give. When a leap second is
known, the clock has to be at the second before it, or at the start of the next minute. -/
def completeFrom (time : Clock) (fields : Fields) : Except Gap Fields := do
  let second := time.seconds % 60
  let (time, fields) ←
    if fields .second = some 60 then
      if second = 59 then .ok (time, fields)
      else if second = 0 then .ok (time.shift (-1), fields)
      else .error .invalid
    else
      match fields.put? .second second with
      | some fields => .ok (time, fields)
      | none => .error .invalid
  let date := YearDay.ofDayNumber time.dayNumber
  let completed := do
    let fields ← fields.put? .year date.year
    let fields ← fields.put? .ordinal date.ordinal
    let fields ← fields.putHour? (time.secondOfDay / 3600)
    fields.put? .minute (time.secondOfDay / 60 % 60)
  match completed with
  | some fields => .ok fields
  | none => .error .invalid

/-- The clock time on a clock of the given offset. Seconds since 1970 complete what is missing. -/
def resolveClock (offset : Int) (fields : Fields) : Except Gap Clock := do
  match fields.resolveDay, fields.resolveTime with
  | .ok day, .ok (second, nanos) =>
    let time := Clock.ofDay day second nanos
    if fields.epochAgrees offset time then .ok time else .error .invalid
  | day, time =>
    match fields .epochSeconds with
    | none => .error .missing
    | some given =>
      if day matches .error .invalid || time matches .error .invalid then .error .invalid
      else
        let start : Clock := ⟨given + offset, 0⟩
        if start.isDated then
          let fields ← fields.completeFrom start
          let day ← fields.resolveDay
          let (second, nanos) ← fields.resolveTime
          .ok (Clock.ofDay day second nanos)
        else .error .invalid

/-- The clock time, whatever the offset says. -/
def clock? (fields : Fields) : Option Clock :=
  (fields.resolveClock 0).toOption

/-- An offset is less than a day. -/
def isOffset (offset : Int) : Bool :=
  -secondsPerDay < offset && offset < secondsPerDay

/-- The timestamp. Without an offset, seconds since 1970 are taken at offset zero. -/
def timestamp? (fields : Fields) : Option Timestamp := do
  let offset ← (fields .offset).or ((fields .epochSeconds).map fun _ => 0)
  let time ← (fields.resolveClock offset).toOption
  if isOffset offset then Timestamp.ofLocal? offset time else none

end Fields
end Time
end BlogMigration
