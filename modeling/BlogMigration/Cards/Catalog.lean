import BlogMigration.Cards.Bookmark
import BlogMigration.Cards.Gallery
import BlogMigration.Cards.Image
import BlogMigration.Cards.Plain
import BlogMigration.Render.Document

/-!
# The catalogs of the two dialects

Both dialects know the same cards and atoms. They differ in how they show galleries and bookmarks.
-/

namespace BlogMigration
namespace Cards

open Render
open Images (Normalizer)

/-- How cards are shown that Markdown has no form for. -/
inductive Dialect where
  | html
  | shortcode
  deriving DecidableEq, Repr

def htmlCards (normalize : Normalizer) : CardRegistry :=
  Registry.ofList [
    ("markdown", markdown),
    ("card-markdown", markdown),
    ("html", html),
    ("embed", html),
    ("hr", thematicBreak),
    ("code", code),
    ("image", image normalize),
    ("gallery", htmlGallery normalize),
    ("bookmark", htmlBookmark normalize)]

def shortcodeCards (normalize : Normalizer) : CardRegistry :=
  (htmlCards normalize).register "gallery" (shortcodeGallery normalize)
    |>.register "bookmark" (shortcodeBookmark normalize)

def lineBreakAtoms : AtomRegistry :=
  Registry.ofList [("soft-break", lineBreak), ("soft-return", lineBreak)]

def catalog (dialect : Dialect) (normalize : Normalizer) : Catalog :=
  match dialect with
  | .html => ⟨htmlCards normalize, lineBreakAtoms⟩
  | .shortcode => ⟨shortcodeCards normalize, lineBreakAtoms⟩

end Cards
end BlogMigration
