import BlogMigration.Json.Value
import BlogMigration.Time.Location
import BlogMigration.Time.Reading

/-!
# Timestamps in exports

A timestamp is a number of milliseconds since 1970 or a text. Texts come in many forms: a form that
the user gives is tried first, then RFC 3339, the forms with an offset, the forms without one, and
these once more with the abbreviation of a zone after them.
-/

namespace BlogMigration
namespace Time

def zonedForms : List String :=
  ["%a %b %e %H:%M:%S %Y %z", "%Y-%m-%d %H:%M:%S%#z", "%Y-%m-%d %H:%M:%S%.f%#z"]

def localForms : List String :=
  ["%Y-%m-%d %H:%M:%S", "%Y-%m-%d %H:%M:%S%.f", "%Y-%m-%dT%H:%M:%S", "%a %b %e %H:%M:%S %Y",
    "%m/%d/%Y %H:%M:%S%.f"]

def utcAbbreviations : List String := ["UTC", "GMT", "Z"]

def longestAbbreviation : Nat := 5

def splitAbbreviation? (cs : List Char) : Option (List Char × String) := do
  let (rest, zone) ← Text.splitLast? ' ' cs
  if 1 ≤ zone.length ∧ zone.length ≤ longestAbbreviation ∧ zone.all Char.isAlpha then
    some (Text.trimEnd rest, String.ofList zone)
  else none

def readZoned? (cs : List Char) : Option Timestamp :=
  zonedForms.findSome? fun form => (Pattern.parse form).timestamp? cs

def readLocal? (zone : Zone) (cs : List Char) : Option Timestamp :=
  (localForms.findSome? fun form => (Pattern.parse form).clock? cs).bind zone.localize?

/-- How timestamps are read: the clocks that show them, and a form to try first. -/
structure Reader where
  zone : Zone
  form : Option String

namespace Reader

/-- The reader of a location, with a form unless it is empty. -/
def make (location : Location) (form : Option String) (machine : Zone := .utc) : Reader :=
  ⟨location.zone machine, form.filter fun text => !text.isEmpty⟩

/-- The timestamp of a text in a form, with an offset or on the clocks of the zone. -/
def readForm? (reader : Reader) (form : String) (cs : List Char) : Option Timestamp :=
  let pattern := Pattern.parse form
  match pattern.timestamp? cs with
  | some stamp => some (reader.zone.convert stamp)
  | none => (pattern.clock? cs).bind reader.zone.localize?

def readAbbreviated? (reader : Reader) (cs : List Char) : Option Timestamp := do
  let (rest, zone) ← splitAbbreviation? cs
  if utcAbbreviations.any (Text.sameIgnoringAsciiCase zone) then
    (readLocal? .utc rest).map reader.zone.convert
  else readLocal? reader.zone rest

def readUsual? (reader : Reader) (cs : List Char) : Option Timestamp :=
  match (Pattern.rfc3339.timestamp? cs).or (readZoned? cs) with
  | some stamp => some (reader.zone.convert stamp)
  | none => (readLocal? reader.zone cs).or (reader.readAbbreviated? cs)

def readText? (reader : Reader) (text : String) : Option Timestamp :=
  let cs := Text.trim text.toList
  if cs.isEmpty then none
  else (reader.form.bind fun form => reader.readForm? form cs).or (reader.readUsual? cs)

/-- The timestamp of a value; only numbers and texts are timestamps. -/
def read? (reader : Reader) : Json → Option Timestamp
  | .string text => reader.readText? text
  | value => do
    let millis ← value.signed?
    let time ← Clock.ofMillis? millis
    return reader.zone.convert ⟨time, 0⟩

end Reader
end Time
end BlogMigration
