import BlogMigration.Cards.Shortcode
import BlogMigration.Images.Normalizer
import BlogMigration.Render.Registry

/-!
# Image cards

An image becomes a `figure` shortcode with the path that it has in the new site.
-/

namespace BlogMigration
namespace Cards

open Render
open Images (Normalizer)

structure Image where
  src : String
  caption : Option String
  alt : Option String
  title : Option String
  href : Option String
  deriving DecidableEq, Repr

namespace Image

def read? (payload : Json) : Option Image := do
  let src ← stringField? "src" payload
  let caption ← optionalString? "caption" payload
  let alt ← optionalString? "alt" payload
  let title ← optionalString? "title" payload
  let href ← optionalString? "href" payload
  return ⟨src, caption, alt, title, href⟩

def figure (normalize : Normalizer) (image : Image) : Shortcode :=
  (Shortcode.named "figure").param "src" (normalize image.src)
    |>.optionalParam "link" image.href
    |>.optionalParam "alt" image.alt
    |>.optionalParam "title" image.title
    |>.optionalParam "caption" image.caption

end Image

def image (normalize : Normalizer) : CardRenderer := fun payload => do
  let image ← readPayload ["src"] Image.read? payload
  return (image.figure normalize).openingTag ++ "\n"

end Cards
end BlogMigration
