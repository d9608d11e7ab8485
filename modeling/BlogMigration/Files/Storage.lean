/-!
# Storage

What a program may ask of the files it works on. Every request names a path, and each can fail; a
failed request may leave some of the folders behind that it was to make.
-/

namespace BlogMigration
namespace Files

/-- What stands where a path leads to: a file with its bytes, or a folder. Where a disk has links,
they have been followed. -/
inductive Entry where
  | file (bytes : ByteArray)
  | folder

/-- What a path leads to, seen from outside. -/
inductive Kind where
  | file
  | emptyFolder
  | filledFolder
  deriving DecidableEq, Repr

class Storage (m : Type → Type) where
  look? : String → m (Option Kind)
  /-- What stands where a path leads to. -/
  read? : String → m (Option Entry)
  /-- Makes a folder and those above it that are missing, and says whether they are all there. -/
  makeFolder : String → m Bool
  /-- Writes a file into a folder that is there, and says whether that was possible. -/
  write : String → ByteArray → m Bool

end Files
end BlogMigration
