import BlogMigration.Time.Calendar

/-!
# Days and dates

Every number of a day is that of exactly one place in a year, and every such place that of exactly
one day of a month. So a day is found again by its date.
-/

namespace BlogMigration
namespace Time

theorem isLeapYear_iff (year : Int) :
    isLeapYear year = true ↔ year % 4 = 0 ∧ (year % 100 ≠ 0 ∨ year % 400 = 0) := by
  simp [isLeapYear]

/-! ## Places in years -/

/-- Days as cycles of four centuries, centuries, spans of four years, years and days that are left.
The last year of a span has a day more, and the last span of a century only if the century is the
last of its cycle. -/
structure DayParts (cycle century span year day : Int) : Prop where
  centuries : 0 ≤ century ∧ century ≤ 3
  spans : 0 ≤ span ∧ span ≤ 24
  years : 0 ≤ year ∧ year ≤ 3
  days : 0 ≤ day ∧ day ≤ 365
  longYear : day = 365 → year = 3 ∧ (span = 24 → century = 3)

namespace DayParts

variable {cycle century span year day : Int}

theorem isLeapYear_iff (parts : DayParts cycle century span year day) :
    isLeapYear (400 * cycle + 100 * century + 4 * span + year + 1) = true ↔
      year = 3 ∧ (span = 24 → century = 3) := by
  obtain ⟨centuries, spans, years, -, -⟩ := parts
  rw [Time.isLeapYear_iff]
  omega

/-- No year is too short for its days. -/
theorem day_lt_yearLength (parts : DayParts cycle century span year day) :
    day < yearLength (400 * cycle + 100 * century + 4 * span + year + 1) := by
  have leap := parts.isLeapYear_iff
  have days := parts.days
  have long := parts.longYear
  unfold yearLength
  split
  · omega
  · next common =>
      have short : day ≠ 365 := fun last => common (leap.mpr (long last))
      omega

theorem daysBeforeYear_eq (parts : DayParts cycle century span year day) :
    daysBeforeYear (400 * cycle + 100 * century + 4 * span + year + 1) =
      146097 * cycle + 36524 * century + 1461 * span + 365 * year := by
  obtain ⟨centuries, spans, years, -, -⟩ := parts
  unfold daysBeforeYear
  dsimp only
  omega

end DayParts

namespace YearDay

theorem exists_parts (number : Int) :
    ∃ cycle century span year day, DayParts cycle century span year day ∧
      number = 146097 * cycle + 36524 * century + 1461 * span + 365 * year + day + 1 ∧
      ofDayNumber number = ⟨400 * cycle + 100 * century + 4 * span + year + 1, day + 1⟩ := by
  refine ⟨_, _, _, _, _, ?_, ?_, rfl⟩
  · constructor <;> omega
  · omega

/-- The place of a day is in its year, and the day is found again from it. -/
theorem ofDayNumber_spec (number : Int) :
    (ofDayNumber number).dayNumber = number ∧ 1 ≤ (ofDayNumber number).ordinal ∧
      (ofDayNumber number).ordinal ≤ yearLength (ofDayNumber number).year := by
  obtain ⟨cycle, century, span, year, day, parts, sum, place⟩ := exists_parts number
  have short := parts.day_lt_yearLength
  have days := parts.days
  rw [place, dayNumber, parts.daysBeforeYear_eq]
  dsimp only
  omega

end YearDay

/-! ## Days of months -/

theorem daysBeforeMonth_succ (leap : Bool) {month : Nat} (first : 1 ≤ month) :
    daysBeforeMonth leap (month + 1) = daysBeforeMonth leap month + monthLength leap month := by
  cases month with
  | zero => cases first
  | succ month => rfl

theorem daysBeforeMonth_thirteen (leap : Bool) :
    daysBeforeMonth leap 13 = if leap then 366 else 365 := by
  cases leap <;> rfl

theorem monthLength_le (leap : Bool) (month : Nat) : monthLength leap month ≤ 31 := by
  unfold monthLength
  cases leap <;> split <;> decide

/-- A day of the year lies in the month that is found, at the place that is found. -/
structure IsInMonth (leap : Bool) (ordinal month day : Nat) : Prop where
  months : 1 ≤ month ∧ month ≤ 12
  days : 1 ≤ day ∧ day ≤ monthLength leap month
  sum : daysBeforeMonth leap month + day = ordinal

/-- The search goes from month to month. The days of the months behind it are taken off, and what is
left is never beyond the end of the year. -/
theorem isInMonth_splitYear (leap : Bool) {month ordinal fuel : Nat} (first : 1 ≤ month)
    (left : month + fuel = 12) (positive : 1 ≤ ordinal)
    (inside : daysBeforeMonth leap month + ordinal ≤ daysBeforeMonth leap 13) :
    IsInMonth leap (daysBeforeMonth leap month + ordinal)
      (Date.splitYear leap month ordinal fuel).1 (Date.splitYear leap month ordinal fuel).2 := by
  induction fuel generalizing month ordinal with
  | zero =>
      obtain rfl : month = 12 := left
      rw [daysBeforeMonth_succ leap first] at inside
      have short : ordinal ≤ monthLength leap 12 := by omega
      exact ⟨⟨first, Nat.le_refl 12⟩, ⟨positive, short⟩, rfl⟩
  | succ fuel ih =>
      have next := daysBeforeMonth_succ leap first
      simp only [Date.splitYear]
      split
      · next short => exact ⟨⟨first, by omega⟩, ⟨positive, short⟩, rfl⟩
      · have later := @ih (month + 1) (ordinal - monthLength leap month) (by omega) (by omega)
          (by omega) (by omega)
        have same : daysBeforeMonth leap (month + 1) + (ordinal - monthLength leap month) =
            daysBeforeMonth leap month + ordinal := by omega
        rwa [same] at later

namespace Date

/-- The date of a day has its year, and a month and a day of the calendar. -/
theorem ofDayNumber_spec (number : Int) :
    (ofDayNumber number).dayNumber = number ∧
      IsInMonth (isLeapYear (ofDayNumber number).year)
        (YearDay.ofDayNumber number).ordinal.toNat
        (ofDayNumber number).month (ofDayNumber number).day := by
  obtain ⟨same, positive, inside⟩ := YearDay.ofDayNumber_spec number
  generalize place : YearDay.ofDayNumber number = day at same positive inside
  have date : ofDayNumber number = ofYearDay day := by rw [ofDayNumber, place]
  have length : (daysBeforeMonth (isLeapYear day.year) 13 : Int) = yearLength day.year := by
    rw [daysBeforeMonth_thirteen, yearLength]
    split <;> rfl
  have first : daysBeforeMonth (isLeapYear day.year) 1 = 0 := rfl
  have found := @isInMonth_splitYear (isLeapYear day.year) 1 day.ordinal.toNat 11 (Nat.le_refl 1)
    rfl (by omega) (by omega)
  rw [first, Nat.zero_add] at found
  rw [date]
  refine ⟨?_, found⟩
  have sum := found.sum
  have days : (daysBeforeMonth (isLeapYear day.year) (ofYearDay day).month : Int) +
      (ofYearDay day).day = day.ordinal := by
    have back : (day.ordinal.toNat : Int) = day.ordinal := Int.toNat_of_nonneg (by omega)
    rw [← back, ← sum]
    rfl
  rw [← same, dayNumber, toYearDay, YearDay.dayNumber, YearDay.dayNumber]
  exact congrArg _ days

end Date

/-- A day is found by the year, the month and the day of its date. -/
theorem dayOfDate?_ofDayNumber {number : Int}
    (dated : isYear (Date.ofDayNumber number).year = true) :
    dayOfDate? (Date.ofDayNumber number).year (Date.ofDayNumber number).month
      (Date.ofDayNumber number).day = some number := by
  obtain ⟨same, month⟩ := Date.ofDayNumber_spec number
  generalize Date.ofDayNumber number = date at *
  have months := month.months
  have days := month.days
  have asked : isYear date.year = true ∧ 1 ≤ (date.month : Int) ∧ (date.month : Int) ≤ 12 ∧
      1 ≤ (date.day : Int) ∧
      (date.day : Int) ≤ monthLength (isLeapYear date.year) (date.month : Int).toNat := by
    rw [Int.toNat_natCast]
    exact ⟨dated, by omega, by omega, by omega, by omega⟩
  rw [dayOfDate?, if_pos asked, Int.toNat_natCast, Int.toNat_natCast, same]

end Time
end BlogMigration
