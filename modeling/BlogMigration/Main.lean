import BlogMigration.CommandLine.Reading

/-!
# The program

The command line, run on the files of the machine.
-/

namespace BlogMigration

open Files (Storage Kind Entry)

def attempt? {α : Type} (action : IO α) : IO (Option α) := do
  try
    return some (← action)
  catch _ =>
    return none

/-- What a path leads to. A folder whose entries cannot be listed counts as filled. -/
def lookOnMachine? (path : String) : IO (Option Kind) := do
  let place := System.mkFilePath [path]
  match ← attempt? place.metadata with
  | none => return none
  | some found =>
    if found.type == .dir then
      match ← attempt? place.readDir with
      | some entries => return some (if entries.isEmpty then .emptyFolder else .filledFolder)
      | none => return some .filledFolder
    else return some .file

def readOnMachine? (path : String) : IO (Option Entry) := do
  match ← lookOnMachine? path with
  | none => return none
  | some .file => return (← attempt? (IO.FS.readBinFile path)).map Entry.file
  | some _ => return some .folder

instance : Storage IO where
  look? := lookOnMachine?
  read? := readOnMachine?
  makeFolder path := return (← attempt? (IO.FS.createDirAll path)).isSome
  write path bytes := return (← attempt? (IO.FS.writeBinFile path bytes)).isSome

def usage : String :=
  "Convert a Ghost blog export into a new Hugo site\n\n" ++
  "Usage: ghost2hugo [OPTIONS] <EXPORT>\n\n" ++
  "Options:\n" ++
  "  --hugo <HUGO>                  Path of the Hugo site to create [default: newhugosite]\n" ++
  "  -f, --force                    Write into an existing, non-empty directory\n" ++
  "  --location <LOCATION>          Timezone of the dates: local, utc or an offset like +02:00\n" ++
  "  --dateformat <DATEFORMAT>      Additional timestamp format, tried before the built-in ones\n" ++
  "  --front-matter <FRONT_MATTER>  Front matter syntax: toml (default) or yaml\n" ++
  "  --dialect <DIALECT>            Output for gallery and bookmark cards: html or shortcode\n" ++
  "  --url <URL>                    Blog URL, removed from image references\n" ++
  "  -h, --help                     Print help\n" ++
  "  -V, --version                  Print version\n"

def versionLine : String := "ghost2hugo 0.1.0\n"

def CommandLine.Stop.text : CommandLine.Stop → String
  | .help => usage
  | .version => versionLine
  | .unknownArgument => "error: unexpected argument\n"
  | .needlessValue => "error: unexpected value for a flag\n"
  | .repeatedArgument => "error: an argument cannot be used multiple times\n"
  | .invalidValue => "error: a value is missing or invalid\n"
  | .invalidLocation => "error: invalid location\n"
  | .missingSource => "error: the export was not provided\n"

def Failure.report (problem : Failure) : String :=
  "Error: " ++ problem.code ++ "\n" ++
    String.join ((problem.message?.toList ++ problem.help?.toList).map fun line => line ++ "\n")

/-- Carries out a command line on a machine with clocks of its own, and gives the exit code. -/
def carryOut (machine : Time.Zone) (arguments : List String) : IO UInt32 := do
  match CommandLine.read arguments with
  | .error stop =>
    if stop = .help ∨ stop = .version then
      IO.print stop.text
      return 0
    else
      IO.eprint stop.text
      return 2
  | .ok job =>
    let migration : ExceptT Failure IO Nat := Migration.run job machine
    match ← migration.run with
    | .ok _ => return 0
    | .error problem =>
      IO.eprint problem.report
      return 1

end BlogMigration

/-- Runs the program on its command line. The machine does not tell its zone, so that its clocks are
taken to show UTC. -/
def main (arguments : List String) : IO UInt32 :=
  BlogMigration.carryOut .utc arguments
