import BlogMigration.Migration

/-!
# What a command line gives

A command line names the export and sets options. Each may be given once; what is not given has a
default, apart from the export.
-/

namespace BlogMigration
namespace CommandLine

inductive Stop where
  | help
  | version
  | unknownArgument
  | needlessValue
  | repeatedArgument
  | invalidValue
  | invalidLocation
  | missingSource
  deriving DecidableEq, Repr

inductive Key where
  | source
  | target
  | location
  | timeForm
  | format
  | dialect
  | address
  deriving DecidableEq, Repr

structure Given where
  source : Option String
  target : Option String
  force : Bool
  location : Option Time.Location
  timeForm : Option String
  format : Option FrontMatter.Format
  dialect : Option Cards.Dialect
  address : Option String
  deriving DecidableEq, Repr

namespace Given

def nothing : Given := ⟨none, none, false, none, none, none, none, none⟩

def has (given : Given) : Key → Bool
  | .source => given.source.isSome
  | .target => given.target.isSome
  | .location => given.location.isSome
  | .timeForm => given.timeForm.isSome
  | .format => given.format.isSome
  | .dialect => given.dialect.isSome
  | .address => given.address.isSome

def pathValue (value : String) : Except Stop String :=
  if value.isEmpty then .error .invalidValue else .ok value

def namedValue {α : Type} (names : List (String × α)) (value : String) : Except Stop α :=
  match names.lookup value with
  | some found => .ok found
  | none => .error .invalidValue

def locationValue (value : String) : Except Stop Time.Location :=
  match Time.Location.parse? value with
  | some location => .ok location
  | none => .error .invalidLocation

def formats : List (String × FrontMatter.Format) := [("toml", .toml), ("yaml", .yaml)]

def dialects : List (String × Cards.Dialect) := [("html", .html), ("shortcode", .shortcode)]

def record (key : Key) (value : String) (given : Given) : Except Stop Given := do
  match key with
  | .source => return { given with source := some (← pathValue value) }
  | .target => return { given with target := some (← pathValue value) }
  | .location => return { given with location := some (← locationValue value) }
  | .timeForm => return { given with timeForm := some value }
  | .format => return { given with format := some (← namedValue formats value) }
  | .dialect => return { given with dialect := some (← namedValue dialects value) }
  | .address => return { given with address := some value }

/-- Records a value, which may be missing, unless there is one already. -/
def put (key : Key) (value : Option String) (given : Given) : Except Stop Given :=
  match value with
  | none => .error .invalidValue
  | some value => if given.has key then .error .repeatedArgument else given.record key value

def putForce (given : Given) : Except Stop Given :=
  if given.force then .error .repeatedArgument else .ok { given with force := true }

def defaultTarget : String := "newhugosite"

def job (given : Given) : Except Stop Job :=
  match given.source with
  | none => .error .missingSource
  | some source =>
    .ok {
      source
      target := given.target.getD defaultTarget
      force := given.force
      location := given.location.getD .machine
      timeForm := given.timeForm
      format := given.format.getD .toml
      dialect := given.dialect.getD .html
      address := given.address }

end Given
end CommandLine
end BlogMigration
