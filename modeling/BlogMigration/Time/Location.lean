import BlogMigration.Text.Case
import BlogMigration.Text.Numeral
import BlogMigration.Text.Quoted
import BlogMigration.Text.Split
import BlogMigration.Time.Clock

/-!
# Locations

The zone in which timestamps are shown, and in which times without a zone are understood. The clocks
of the machine are not known here: they are a parameter of whatever reads timestamps.
-/

namespace BlogMigration
namespace Time

/-- The clocks of a place: their offset at an instant, and the one at which they first show a time.
Clocks that are put forward leave times out. Offsets are in seconds to the east. -/
structure Zone where
  offsetAt : Clock → Int
  offsetFor? : Clock → Option Int

namespace Zone

def steady (offset : Int) : Zone where
  offsetAt _ := offset
  offsetFor? _ := some offset

def utc : Zone :=
  steady 0

def convert (zone : Zone) (stamp : Timestamp) : Timestamp :=
  stamp.withOffset (zone.offsetAt stamp.utc)

/-- The timestamp at which the clocks first show a time. -/
def localize? (zone : Zone) (time : Clock) : Option Timestamp :=
  (zone.offsetFor? time).bind fun offset => Timestamp.ofLocal? offset time

end Zone

inductive Location where
  | machine
  | utc
  | fixed (offset : Int)
  deriving DecidableEq, Repr

/-- An offset as sign, hours and minutes, to the nearest minute. -/
def offsetText (offset : Int) : String :=
  let minutes := (offset.natAbs + 30) / 60
  (if offset < 0 then "-" else "+") ++ Text.paddedText 2 (minutes / 60) ++ ":" ++
    Text.paddedText 2 (minutes % 60)

/-- The texts of the hours and the minutes of an offset: parted by a colon, or two digits each, or
hours alone. -/
def offsetParts (cs : List Char) : List Char × List Char :=
  match Text.splitFirst? ':' cs with
  | some parts => parts
  | none =>
    match cs with
    | [a, b, c, d] => ([a, b], [c, d])
    | cs => (cs, ['0'])

def magnitude? (cs : List Char) : Option Int := do
  let (hoursText, minutesText) := offsetParts cs
  let hours ← Text.signedNumeral? hoursText
  let minutes ← Text.signedNumeral? minutesText
  if 0 ≤ hours ∧ hours < 24 ∧ 0 ≤ minutes ∧ minutes < 60 then some (hours * 3600 + minutes * 60)
  else none

def offset? : List Char → Option Int
  | '+' :: rest => magnitude? rest
  | '-' :: rest => (magnitude? rest).map fun seconds => -seconds
  | _ => none

namespace Location

/-- The location of a name, or of an offset such as `+02:00`, in any case of its letters. -/
def parse? (text : String) : Option Location :=
  match Text.asciiLowercase text with
  | "local" => some .machine
  | "utc" | "z" => some .utc
  | other => (offset? other.toList).map .fixed

def invalidMessage (text : String) : String :=
  "invalid location " ++ Text.quoted text ++ ", expected local, utc or ±HH:MM"

def describe : Location → String
  | .machine => "local"
  | .utc => "utc"
  | .fixed offset => offsetText offset

/-- The clocks of the location, on a machine with clocks of its own. -/
def zone (location : Location) (machine : Zone) : Zone :=
  match location with
  | .machine => machine
  | .utc => .utc
  | .fixed offset => .steady offset

/-- The offset of the clocks of the location, where those of the machine show UTC. -/
def offset : Location → Int
  | .fixed offset => offset
  | _ => 0

end Location
end Time
end BlogMigration
