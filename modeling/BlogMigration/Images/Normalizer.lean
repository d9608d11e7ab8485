import BlogMigration.Text.Split

/-!
# Normalizers of image paths

A normalizer turns the path of an image in a payload into its path in the new site. The usual ones
take a folder or an address off the front of the path.
-/

namespace BlogMigration
namespace Images

/-- Gives the path of an image in the new site. -/
abbrev Normalizer := String → String

def identity : Normalizer := fun path => path

def stripFront (front : String) : Normalizer := fun path =>
  (Text.strip? front path).getD path

def contentFolder : String := "/content"

def stripContent : Normalizer := stripFront contentFolder

def addressPlaceholder : String := "__GHOST_URL__"

def dropEndSlashes (address : String) : String :=
  String.ofList (address.toList.reverse.dropWhile (· == '/')).reverse

/-- The address of a blog, without slashes at its end, unless nothing is left of it. -/
def blogAddress? (address : Option String) : Option String :=
  (address.map dropEndSlashes).filter fun known => !known.isEmpty

/-- Takes an address off the paths that continue it with a slash. -/
def stripAddress (address : String) : Normalizer := fun path =>
  match Text.strip? address path with
  | some rest => if rest.toList.head? = some '/' then rest else path
  | none => path

/-- Takes the placeholder, the address of the blog and the folder of its files off the front. -/
def blogPaths (address : Option String) : Normalizer := fun path =>
  let path := stripFront addressPlaceholder path
  let path := match blogAddress? address with
    | some known => stripAddress known path
    | none => path
  stripContent path

theorem stripFront_append (front rest : String) : stripFront front (front ++ rest) = rest := by
  simp [stripFront, Text.strip?_eq_some_iff.mpr]

theorem stripFront_of_not {front path : String} (h : ∀ rest, path ≠ front ++ rest) :
    stripFront front path = path := by
  cases found : Text.strip? front path with
  | none => simp [stripFront, found]
  | some rest => exact absurd (Text.strip?_eq_some_iff.mp found) (h rest)

end Images
end BlogMigration
