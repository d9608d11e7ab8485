import BlogMigration.Time.Calendar

/-!
# Clock times and timestamps

A clock time counts the seconds that a clock and a calendar show since the start of 1970. A leap
second is shown as a second whose nanoseconds go on beyond a whole second. A timestamp is an
instant, given by the clock time at offset zero, together with the offset of a local clock.
-/

namespace BlogMigration
namespace Time

/-- What a clock and a calendar show. -/
structure Clock where
  seconds : Int
  nanos : Nat
  deriving DecidableEq, Repr

def epochDay : Int := 719163

def secondsPerDay : Int := 86400

def nanosPerSecond : Nat := 1000000000

namespace Clock

def dayNumber (time : Clock) : Int :=
  epochDay + time.seconds / secondsPerDay

def secondOfDay (time : Clock) : Int :=
  time.seconds % secondsPerDay

def ofDay (dayNumber secondOfDay : Int) (nanos : Nat) : Clock :=
  ⟨(dayNumber - epochDay) * secondsPerDay + secondOfDay, nanos⟩

/-- Whether the day shown belongs to a year that dates may have. -/
def isDated (time : Clock) : Bool :=
  daysBeforeYear firstYear < time.dayNumber && time.dayNumber ≤ daysBeforeYear (lastYear + 1)

def shift (seconds : Int) (time : Clock) : Clock :=
  ⟨time.seconds + seconds, time.nanos⟩

@[simp] theorem shift_zero (time : Clock) : time.shift 0 = time := by
  simp [shift]

@[simp] theorem shift_shift (a b : Int) (time : Clock) :
    (time.shift a).shift b = time.shift (a + b) := by
  simp [shift, Int.add_assoc]

/-- The clock time of a number of milliseconds since the start of 1970, within the years that dates
may have. -/
def ofMillis? (millis : Int) : Option Clock :=
  let time : Clock := ⟨millis / 1000, (millis % 1000).toNat * 1000000⟩
  if time.isDated then some time else none

end Clock

/-- An instant and the offset of the local clock from offset zero, in seconds to the east. -/
structure Timestamp where
  utc : Clock
  offset : Int
  deriving DecidableEq, Repr

namespace Timestamp

def localTime (stamp : Timestamp) : Clock :=
  stamp.utc.shift stamp.offset

/-- The timestamp at which a clock of the given offset shows a time, if its instant has a date. -/
def ofLocal? (offset : Int) (time : Clock) : Option Timestamp :=
  let utc := time.shift (-offset)
  if utc.isDated then some ⟨utc, offset⟩ else none

def withOffset (offset : Int) (stamp : Timestamp) : Timestamp :=
  ⟨stamp.utc, offset⟩

theorem localTime_ofLocal?
    {offset : Int}
    {time : Clock}
    {stamp : Timestamp}
    (h : ofLocal? offset time = some stamp) :
    stamp.localTime = time ∧ stamp.offset = offset := by
  simp only [ofLocal?, Option.ite_none_right_eq_some, Option.some.injEq] at h
  obtain ⟨-, rfl⟩ := h
  exact ⟨by rw [localTime, Clock.shift_shift, Int.add_left_neg, Clock.shift_zero], rfl⟩

end Timestamp

end Time
end BlogMigration
