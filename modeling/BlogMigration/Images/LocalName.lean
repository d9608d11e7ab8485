import BlogMigration.Text.Split

/-!
# Local names of images

An image is kept under its own name, completed by an extension when it has none that is usable. Two
images of one name get different names, the later one with a number before its extension.
-/

namespace BlogMigration
namespace Images

/-- The last component of a path that names a file: components are parted by slashes, empty ones and
single dots after the start do not count, and two dots name no file. -/
def fileName? (path : List Char) : Option (List Char) :=
  let pieces := Text.splitAll '/' path
  match pieces.reverse.dropWhile fun piece => piece == [] || piece == ['.'] with
  | [] => none
  | piece :: _ => if piece = ['.', '.'] then none else some piece

/-- The extension of a path: what follows the last dot of the file name, unless that dot is its
first character. -/
def extension? (path : List Char) : Option (List Char) := do
  let name ← fileName? path
  let (stem, extension) ← Text.splitLast? '.' name
  if stem.isEmpty then none else some extension

def longestExtension : Nat := 4

/-- Whether a name ends in an extension of one to four bytes. -/
def hasExtension (name : String) : Bool :=
  match extension? name.toList with
  | some extension =>
    !extension.isEmpty && (String.ofList extension).utf8ByteSize ≤ longestExtension
  | none => false

def localName (name : String) : String :=
  if hasExtension name then name else name ++ ".jpg"

/-- A name with a number before its extension, or at its end if it has no extension. -/
def numberedName (name : String) (number : Nat) : String :=
  match Text.splitLast? '.' name.toList with
  | some (stem, extension) =>
    if stem.isEmpty then name ++ "-" ++ toString number
    else String.ofList stem ++ "-" ++ toString number ++ "." ++ String.ofList extension
  | none => name ++ "-" ++ toString number

/-- The first numbered name from `number` on that is free; `fuel` bounds the search. -/
def firstFree (taken : List String) (name : String) : Nat → Nat → String
  | 0, number => numberedName name number
  | fuel + 1, number =>
    let candidate := numberedName name number
    if candidate ∈ taken then firstFree taken name fuel (number + 1) else candidate

/-- The name that a request for `name` gets when other names are taken. There is a free one among
the first numbered names, one more than there are taken names. -/
def freeName (taken : List String) (name : String) : String :=
  if name ∈ taken then firstFree taken name taken.length 1 else name

/-- The names that successive requests get, beginning with the given names taken. -/
def claimAll (taken : List String) : List String → List String
  | [] => []
  | name :: rest =>
    let granted := freeName taken name
    granted :: claimAll (granted :: taken) rest

end Images
end BlogMigration
