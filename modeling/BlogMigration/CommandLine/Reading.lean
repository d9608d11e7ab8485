import BlogMigration.CommandLine.Given

/-!
# Reading command lines

Arguments are read from left to right. A value is looked at only when the next option or the next
path comes, or at the end; until then an argument that is not known, or a path too many, goes before
what may be wrong with the value.
-/

namespace BlogMigration
namespace CommandLine

inductive Action where
  | value (key : Key)
  | force
  | help
  | version
  deriving DecidableEq, Repr

def longOptions : List (String × Action) :=
  [("hugo", .value .target), ("force", .force), ("location", .value .location),
    ("dateformat", .value .timeForm), ("front-matter", .value .format),
    ("dialect", .value .dialect), ("url", .value .address), ("help", .help),
    ("version", .version)]

def shortOptions : List (Char × Action) :=
  [('f', .force), ('h', .help), ('V', .version)]

structure Progress where
  given : Given
  /-- What the next value is for, or the last value that has not been looked at. -/
  pending : Option (Key × Option String)
  /-- Whether there has been a path. -/
  sourceSeen : Bool
  /-- Whether the rest are paths, whatever they look like. -/
  onlyPaths : Bool
  deriving DecidableEq, Repr

namespace Progress

def start : Progress := ⟨.nothing, none, false, false⟩

/-- What has been given, the pending value included. -/
def settle (progress : Progress) : Except Stop Given :=
  match progress.pending with
  | none => .ok progress.given
  | some (key, value) => progress.given.put key value

def readPath (progress : Progress) (path : String) : Except Stop Progress := do
  if progress.sourceSeen then throw .unknownArgument
  let given ← progress.settle
  return { progress with given, pending := some (.source, some path), sourceSeen := true }

def readFlag (progress : Progress) (action : Action) : Except Stop Progress := do
  let given ← progress.settle
  match action with
  | .value key => return { progress with given, pending := some (key, none) }
  | .force => return { progress with given := ← given.putForce, pending := none }
  | .help => throw .help
  | .version => throw .version

/-- An option with its value in the same argument. -/
def readAttached (progress : Progress) (action : Action) (value : String) :
    Except Stop Progress :=
  match action with
  | .value key => do
    let given ← progress.settle
    return { progress with given := ← given.put key (some value), pending := none }
  | _ => .error .needlessValue

/-- An option by its long name, with a value after an equals sign or without one. -/
def readLong (progress : Progress) (text : List Char) : Except Stop Progress :=
  let (name, value) :=
    match Text.splitFirst? '=' text with
    | some (name, value) => (name, some (String.ofList value))
    | none => (text, none)
  match longOptions.lookup (String.ofList name), value with
  | none, _ => .error .unknownArgument
  | some action, none => progress.readFlag action
  | some action, some value => progress.readAttached action value

def readShort (progress : Progress) : List Char → Except Stop Progress
  | [] => .ok progress
  | letter :: rest =>
    match shortOptions.lookup letter with
    | none => .error .unknownArgument
    | some action => do (← progress.readFlag action).readShort rest

/-- An argument that is no option: the value of the option before it, or a path. -/
def readWord (progress : Progress) (word : String) : Except Stop Progress :=
  match progress.pending with
  | some (key, none) => .ok { progress with pending := some (key, some word) }
  | _ => progress.readPath word

def read (progress : Progress) (argument : String) : Except Stop Progress :=
  if progress.onlyPaths then progress.readPath argument
  else
    match argument.toList with
    | ['-', '-'] => .ok { progress with onlyPaths := true }
    | '-' :: '-' :: text => progress.readLong text
    | '-' :: letter :: rest => progress.readShort (letter :: rest)
    | _ => progress.readWord argument

end Progress

def read (arguments : List String) : Except Stop Job := do
  let progress ← arguments.foldlM Progress.read Progress.start
  (← progress.settle).job

end CommandLine
end BlogMigration
