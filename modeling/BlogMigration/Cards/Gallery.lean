import BlogMigration.Cards.Html
import BlogMigration.Cards.Shortcode
import BlogMigration.Images.Normalizer
import BlogMigration.Render.Registry

/-!
# Gallery cards

A gallery is a sequence of images with an optional caption. Entries of the wrong shape are left out.
It is shown as HTML, with the images in rows, or by a pair of shortcode tags around the images.
-/

namespace BlogMigration
namespace Cards

open Render
open Images (Normalizer)
open Number (Binary64)

structure GalleryImage where
  src : String
  width : Binary64
  height : Binary64
  alt : Option String
  title : Option String
  deriving DecidableEq, Repr

namespace GalleryImage

def read? (payload : Json) : Option GalleryImage := do
  let src ← stringField? "src" payload
  let width ← (payload.field? "width").bind Json.double?
  let height ← (payload.field? "height").bind Json.double?
  let alt ← optionalString? "alt" payload
  let title ← optionalString? "title" payload
  return ⟨src, width, height, alt, title⟩

/-- An image with its normalized path, from an entry of the right shape. -/
def decode? (normalize : Normalizer) (entry : Json) : Option GalleryImage :=
  match readPayload ["src", "width", "height"] read? entry with
  | .ok image => some { image with src := normalize image.src }
  | .error _ => none

/-- The width in whole pixels. -/
def widthText (image : GalleryImage) : String := image.width.wholeText

def heightText (image : GalleryImage) : String := image.height.wholeText

end GalleryImage

/-- The images of a gallery and its caption, which is never empty. -/
structure Gallery where
  images : List GalleryImage
  caption : Option String
  deriving DecidableEq, Repr

namespace Gallery

def read? (payload : Json) : Option (List Json × Option String) := do
  let entries ← (payload.field? "images").bind Json.array?
  let caption ← optionalString? "caption" payload
  return (entries, caption)

def decode (normalize : Normalizer) (payload : Json) : Except RenderError Gallery := do
  let (entries, caption) ← readPayload ["images"] read? payload
  return ⟨entries.filterMap (GalleryImage.decode? normalize), nonEmpty caption⟩

def rowSize : Nat := 3

def optionalAttribute (name : String) (value : Option String) : String :=
  match nonEmpty value with
  | some value => " " ++ name ++ "=\"" ++ Html.escapeAttribute value ++ "\""
  | none => ""

def imageLine (image : GalleryImage) : String :=
  "      <div><img src=\"" ++ Html.escapeAttribute image.src ++ "\" width=\"" ++ image.widthText ++
    "\" height=\"" ++ image.heightText ++ "\"" ++ optionalAttribute "alt" image.alt ++
    optionalAttribute "title" image.title ++ "/></div>\n"

def rowStart : String := "    <div>\n"

def rowEnd : String := "    </div>\n"

/-- The lines of images from the one of number `index` on. A new row starts before every image
whose number is a multiple of the row size, except the first. -/
def imageLines (index : Nat) : List GalleryImage → String
  | [] => ""
  | image :: rest =>
    (if 0 < index ∧ index % rowSize = 0 then rowEnd ++ rowStart else "") ++ imageLine image ++
      imageLines (index + 1) rest

def captionLines (caption : Option String) : String :=
  match caption with
  | some caption => "  <figcaption>\n    " ++ caption ++ "\n  </figcaption>\n"
  | none => ""

def toHtml (gallery : Gallery) : String :=
  "<figure>\n  <div>\n" ++ rowStart ++ imageLines 0 gallery.images ++ rowEnd ++ "  </div>\n" ++
    captionLines gallery.caption ++ "</figure>\n"

def imageShortcode (image : GalleryImage) : Shortcode :=
  (Shortcode.named "galleryImg").param "src" image.src
    |>.param "width" image.widthText
    |>.param "height" image.heightText
    |>.optionalParam "alt" image.alt
    |>.optionalParam "title" image.title

def toShortcodes (gallery : Gallery) : String :=
  ((Shortcode.named "gallery").optionalParam "caption" gallery.caption).openingTag ++ "\n" ++
    String.join (gallery.images.map fun image => (imageShortcode image).openingTag ++ "\n") ++
    Shortcode.closingTag "gallery" ++ "\n"

end Gallery

def htmlGallery (normalize : Normalizer) : CardRenderer := fun payload => do
  let gallery ← Gallery.decode normalize payload
  return gallery.toHtml

def shortcodeGallery (normalize : Normalizer) : CardRenderer := fun payload => do
  let gallery ← Gallery.decode normalize payload
  return gallery.toShortcodes

end Cards
end BlogMigration
