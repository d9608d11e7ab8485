import BlogMigration.Time.Location

/-!
# RFC 3339 texts

The text of a timestamp in dates and front matter. Years outside four digits carry a sign, the
fraction of a second has as many places as it needs out of none, three, six and nine, and the offset
is always given in hours and minutes.
-/

namespace BlogMigration
namespace Time

open Text (paddedText)

def yearText (year : Int) : String :=
  if 0 ≤ year ∧ year ≤ 9999 then paddedText 4 year.toNat
  else (if year < 0 then "-" else "+") ++ paddedText 4 year.natAbs

def fractionText (nanos : Nat) : String :=
  if nanos = 0 then ""
  else if nanos % 1000000 = 0 then "." ++ paddedText 3 (nanos / 1000000)
  else if nanos % 1000 = 0 then "." ++ paddedText 6 (nanos / 1000)
  else "." ++ paddedText 9 nanos

def Clock.text (time : Clock) : String :=
  let date := Date.ofDayNumber time.dayNumber
  let second := time.secondOfDay.toNat
  let leap := nanosPerSecond ≤ time.nanos
  yearText date.year ++ "-" ++ paddedText 2 date.month ++ "-" ++ paddedText 2 date.day ++ "T" ++
    paddedText 2 (second / 3600) ++ ":" ++ paddedText 2 (second / 60 % 60) ++ ":" ++
    paddedText 2 (second % 60 + if leap then 1 else 0) ++
    fractionText (if leap then time.nanos - nanosPerSecond else time.nanos)

def Timestamp.text (stamp : Timestamp) : String :=
  stamp.localTime.text ++ offsetText stamp.offset

end Time
end BlogMigration
