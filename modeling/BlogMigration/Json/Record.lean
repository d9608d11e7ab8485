import BlogMigration.Json.Parser

/-!
# Records

A record has fields in a fixed order. It is written as an object, whose members carry the names of
the fields, or as an array, which lists the fields by position and may leave out the last ones. A
record is given here by one optional value for each of its field names.
-/

namespace BlogMigration
namespace Json

/-- The fields of a record in the order of its names. -/
abbrev Record := List (Option Json)

namespace Record

/-- The items of an array as the first fields of a record, if there are not too many. -/
def ofItems? (names : List String) (items : List Json) : Option Record :=
  if items.length ≤ names.length then
    some (items.map some ++ List.replicate (names.length - items.length) none)
  else none

def ofJson? (names : List String) : Json → Option Record
  | .object fields => some (names.map (Fields.get? · fields))
  | .array items => ofItems? names items
  | _ => none

def required? {α : Type} (read : Json → Option α) (field : Option Json) : Option α :=
  field.bind read

/-- A field that has a default when it is absent, but not when it is null. -/
def orElse? {α : Type} (default : α) (read : Json → Option α) : Option Json → Option α
  | none => some default
  | some value => read value

def nullable? {α : Type} (read : Json → Option α) : Option Json → Option (Option α)
  | none => some none
  | some .null => some none
  | some value => (read value).map some

/-- Members of an object text of which only the named ones are kept. -/
abbrev Members := List (String × Option Json)

def valuesOf (name : String) (members : Members) : List Json :=
  members.filterMap fun (key, value) => if key = name then value else none

/-- The record given by members, if no field is given twice. -/
def ofMembers? (names : List String) (members : Members) : Option Record :=
  names.mapM fun name =>
    match valuesOf name members with
    | [] => some none
    | [value] => some (some value)
    | _ => none

/-- Reads the value of a named member, or passes over that of another one. -/
def readMember (names : List String) (name : String) (cs : List Char) :
    Option (Option Json × List Char) :=
  if name ∈ names then
    (Parser.value (depthLimit - 1) cs).map fun (value, rest) => (some value, rest)
  else
    (Parser.passValue (cs.length + 1) cs).map fun (_, rest) => (none, rest)

/-- The record written by a JSON text. A field that is given twice is an error; members with other
names are passed over, however often they come. -/
def parse? (names : List String) (text : String) : Option Record :=
  match Parser.skipSpace text.toList with
  | '{' :: rest => do
    let members ← Parser.complete (Parser.bracketed '}' (Parser.member (readMember names)) rest)
    ofMembers? names members
  | '[' :: rest => do
    let items ← Parser.complete (Parser.bracketed ']' (Parser.value (depthLimit - 1)) rest)
    ofItems? names items
  | _ => none

end Record

end Json
end BlogMigration
