import BlogMigration.Text.Split

/-!
# Paths

A path is a text whose names are parted by slashes. It is followed name by name; empty names and
single dots lead nowhere, and two dots lead up. These are the paths of POSIX systems only: there are
no drives, and a backslash is a character like any other.
-/

namespace BlogMigration
namespace Files

/-- A place on a disk, by the names of the folders that lead to it from the top and its own. -/
abbrev Place := List String

/-- The number of bytes that a path may have. -/
def longestPath : Nat := 4095

/-- The number of bytes that a name may have. -/
def longestName : Nat := 255

def isPath (path : String) : Bool :=
  !path.isEmpty && path.utf8ByteSize ≤ longestPath && !path.toList.contains '\x00'

def isName (name : String) : Bool :=
  name.utf8ByteSize ≤ longestName

def pathNames (path : String) : List String :=
  (Text.splitAll '/' path.toList).map String.ofList

/-- Whether a path starts at the top. Only a slash marks that, as on POSIX systems. -/
def isAbsolute (path : String) : Bool :=
  path.toList.head? == some '/'

def startOf (workingFolder : Place) (path : String) : Place :=
  if isAbsolute path then [] else workingFolder

def Place.follow (place : Place) (name : String) : Place :=
  if name = "" ∨ name = "." then place
  else if name = ".." then place.dropLast
  else place ++ [name]

theorem Place.follow_eq_append
    {place : Place}
    {name : String}
    (proper : name ≠ "" ∧ name ≠ "." ∧ name ≠ "..") :
    place.follow name = place ++ [name] := by
  simp [Place.follow, proper]

def below (path name : String) : String :=
  if path.toList.getLast? = some '/' then path ++ name else path ++ "/" ++ name

end Files
end BlogMigration
