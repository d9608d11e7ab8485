import BlogMigration.Cards.Catalog
import BlogMigration.Proofs.Cards.Entities
import BlogMigration.Proofs.Cards.GalleryEntries
import BlogMigration.Proofs.Cards.Parameters
import BlogMigration.Proofs.Render.Uses

/-!
# The images that galleries show

The two dialects print a gallery by different tags and with different escapes. Both outputs are read
back to the same images: those of the entries of the payload that have the right shape.
-/

namespace BlogMigration
namespace Cards

open Images (Normalizer)
open Mobiledoc (Picks)
open Number (Binary64)
open Render

/-! ## Shown images -/

/-- What a tag shows of an image. -/
structure ShownImage where
  src : String
  width : String
  height : String
  alt : Option String
  title : Option String
  deriving DecidableEq, Repr

def ShownImage.ofTag? (tag : Tag) : Option ShownImage := do
  let src ← tag.value? "src"
  let width ← tag.value? "width"
  let height ← tag.value? "height"
  return ⟨src, width, height, tag.value? "alt", tag.value? "title"⟩

/-- The tags of images among the tags of HTML, before a caption starts. -/
def Html.pictures (tags : List Tag) : List Tag :=
  (tags.takeWhile fun tag => tag.name != "figcaption").filter fun tag => tag.name == "img"

def Html.shownImages? (html : String) : Option (List ShownImage) :=
  (Html.pictures (Html.form.tags html)).mapM ShownImage.ofTag?

/-- The images of a gallery of shortcodes, each in a tag of its own. -/
def Shortcode.shownImages? (text : String) : Option (List ShownImage) :=
  ((Shortcode.form.tags text).filter fun tag => tag.name == "galleryImg").mapM ShownImage.ofTag?

/-- What a gallery shows of an image: an empty text is not shown. -/
def GalleryImage.shown (image : GalleryImage) : ShownImage :=
  ⟨image.src, image.widthText, image.heightText, nonEmpty image.alt, nonEmpty image.title⟩

/-! ## Tags of images -/

/-- The tag of a name that shows an image. -/
def ShownImage.tag (name : String) (image : ShownImage) : Tag :=
  ⟨name, [("src", image.src), ("width", image.width), ("height", image.height)] ++
    attributeOf "alt" image.alt ++ attributeOf "title" image.title⟩

theorem ShownImage.ofTag?_tag (name : String) (image : ShownImage) :
    ofTag? (image.tag name) = some image := by
  obtain ⟨src, width, height, alt, title⟩ := image
  cases alt <;> cases title <;> rfl

theorem ShownImage.mapM_ofTag?_tag (name : String) (images : List ShownImage) :
    (images.map (ShownImage.tag name)).mapM ofTag? = some images := by
  rw [List.mapM_map]
  induction images with
  | nil => rfl
  | cons image rest ih => simp [List.mapM_cons, ofTag?_tag, ih]

theorem ShownImage.named_tag {name : String} (named : isName name = true)
    (image : ShownImage) : (image.tag name).Named where
  name := named
  attributes := by
    have names : (image.tag name).attributes.map Prod.fst ⊆
        ["src", "width", "height", "alt", "title"] := by
      obtain ⟨src, width, height, alt, title⟩ := image
      cases alt <;> cases title <;> simp [tag, attributeOf]
    intro pair member
    have plain : ∀ key ∈ ["src", "width", "height", "alt", "title"], isName key = true := by decide
    exact plain pair.1 (names (List.mem_map_of_mem member))

/-- A size has no characters that are escaped. -/
theorem escapeAttribute_wholeText (x : Binary64) :
    Html.escapeAttribute x.wholeText = x.wholeText := by
  apply Html.escapeAttribute_of_plain
  intro c member
  rw [Binary64.wholeText, String.toList_append, List.mem_append] at member
  rcases member with sign | digits
  · split at sign
    · cases List.mem_singleton.mp sign
      rfl
    · cases sign
  · apply Html.attributeChar_of_isDigit
    have written : c ∈ Nat.toDigits 10 x.wholePart := by simpa using digits
    exact Nat.isDigit_of_mem_toDigits (by decide) (by decide) written

/-! ## The printers -/

namespace Gallery

theorem optionalAttribute_eq (name : String) (value : Option String) :
    optionalAttribute name value =
      String.join
        ((attributeOf name (nonEmpty value)).map (attributeText Html.escapeAttribute)) := by
  rw [optionalAttribute]
  cases nonEmpty value <;> simp [attributeOf, attributeText, String.join_cons]

/-- The line of an image holds its tag. -/
theorem imageLine_eq (image : GalleryImage) :
    imageLine image = "      <div>" ++
      (image.shown.tag "img").text Html.form.start "/>" Html.escapeAttribute ++ "</div>\n" := by
  unfold imageLine
  rw [optionalAttribute_eq, optionalAttribute_eq, Tag.text, ← String.toList_inj]
  simp only [ShownImage.tag, GalleryImage.shown, List.map_append, List.map_cons, List.map_nil,
    String.join_append, String.join_cons, String.join_nil, attributeText, GalleryImage.widthText,
    GalleryImage.heightText, escapeAttribute_wholeText]
  simp [Html.form]

theorem imageShortcode_tag (image : GalleryImage) :
    (imageShortcode image).tag = image.shown.tag "galleryImg" := by
  simp only [imageShortcode, Shortcode.optionalParam_eq]
  rfl

end Gallery

/-! ## Reading HTML -/

namespace Html

theorem readAll_div (rest : List Char) :
    form.readAll ('<' :: 'd' :: 'i' :: 'v' :: '>' :: rest) = plainTag "div" :: form.readAll rest :=
  readAll_plainTag "div" (by decide) rest

theorem readAll_rowStart (rest : List Char) :
    form.readAll (Gallery.rowStart.toList ++ rest) = plainTag "div" :: form.readAll rest := by
  simp (disch := decide) [Gallery.rowStart, readAll_cons_of_ne, readAll_div]

theorem readAll_rowEnd (rest : List Char) :
    form.readAll (Gallery.rowEnd.toList ++ rest) = form.readAll rest := by
  simp (disch := decide) [Gallery.rowEnd, readAll_cons_of_ne, readAll_closing]

theorem readAll_imageLine (image : GalleryImage) (rest : List Char) :
    form.readAll ((Gallery.imageLine image).toList ++ rest) =
      plainTag "div" :: image.shown.tag "img" :: form.readAll rest := by
  have undoes : form.Undoes escapeAttribute "/>" := form_undoes (by decide)
  have named : (image.shown.tag "img").Named := image.shown.named_tag (by decide)
  have closing : form.readAll ("</div>\n".toList ++ rest) = form.readAll rest := by
    simp (disch := decide) [readAll_cons_of_ne, readAll_closing]
  have img := undoes.readAll_text named ("</div>\n".toList ++ rest)
  rw [closing] at img
  rw [Gallery.imageLine_eq, String.toList_append, String.toList_append, List.append_assoc,
    List.append_assoc, ← img]
  generalize ((image.shown.tag "img").text form.start "/>" escapeAttribute).toList ++
    ("</div>\n".toList ++ rest) = more
  simp (disch := decide) [readAll_cons_of_ne, readAll_div]

/-! ## Pictures -/

theorem pictures_plainTag {name : String} (other : name ≠ "img") (outside : name ≠ "figcaption")
    (tags : List Tag) : pictures (plainTag name :: tags) = pictures tags := by
  simp [pictures, plainTag, other, outside]

theorem pictures_div (tags : List Tag) : pictures (plainTag "div" :: tags) = pictures tags :=
  pictures_plainTag (by decide) (by decide) tags

theorem pictures_caption (tags : List Tag) : pictures (plainTag "figcaption" :: tags) = [] := by
  simp [pictures, plainTag]

theorem pictures_image (image : ShownImage) (tags : List Tag) :
    pictures (image.tag "img" :: tags) = image.tag "img" :: pictures tags := by
  simp [pictures, ShownImage.tag]

/-- The lines of images show the images one after the other, whatever rows they stand in. -/
theorem pictures_imageLines (index : Nat) (images : List GalleryImage) (rest : List Char) :
    pictures (form.readAll ((Gallery.imageLines index images).toList ++ rest)) =
      images.map (fun image => image.shown.tag "img") ++ pictures (form.readAll rest) := by
  induction images generalizing index with
  | nil => simp [Gallery.imageLines]
  | cons image later ih =>
      have line (more : List Char) :
          pictures (form.readAll ((Gallery.imageLine image).toList ++ more)) =
            image.shown.tag "img" :: pictures (form.readAll more) := by
        rw [readAll_imageLine, pictures_div, pictures_image]
      rw [Gallery.imageLines, String.toList_append, String.toList_append, List.append_assoc,
        List.append_assoc, List.map_cons, List.cons_append]
      split
      · rw [String.toList_append, List.append_assoc, readAll_rowEnd, readAll_rowStart, pictures_div,
          line, ih]
      · rw [String.toList_empty, List.nil_append, line, ih]

/-- After the rows there are no pictures but those of a caption, which do not count. -/
theorem pictures_end (caption : Option String) :
    pictures (form.readAll ("  </div>\n".toList ++
      ((Gallery.captionLines caption).toList ++ "</figure>\n".toList))) = [] := by
  have done (more : List Char) : form.readAll ("  </div>\n".toList ++ more) = form.readAll more := by
    simp (disch := decide) [readAll_cons_of_ne, readAll_closing]
  rw [done]
  unfold Gallery.captionLines
  cases caption with
  | none =>
      simp (disch := decide) [readAll_cons_of_ne, readAll_closing, TagForm.readAll_nil, pictures]
  | some caption =>
      simp only [String.toList_append, List.append_assoc]
      generalize caption.toList ++ _ = rest
      have opening := readAll_plainTag "figcaption" (by decide) ("\n    ".toList ++ rest)
      simp (disch := decide) [readAll_cons_of_ne] at opening ⊢
      rw [opening, pictures_caption]

/-- The images of a gallery are read back from its HTML. -/
theorem shownImages?_toHtml (gallery : Gallery) :
    shownImages? gallery.toHtml = some (gallery.images.map GalleryImage.shown) := by
  have start (rest : List Char) :
      form.readAll ("<figure>\n  <div>\n".toList ++ rest) =
        plainTag "figure" :: plainTag "div" :: form.readAll rest := by
    have figure := readAll_plainTag "figure" (by decide) ("\n  <div>\n".toList ++ rest)
    simp (disch := decide) [readAll_cons_of_ne, readAll_div] at figure ⊢
    exact figure
  have read : pictures (form.tags gallery.toHtml) =
      (gallery.images.map GalleryImage.shown).map (ShownImage.tag "img") := by
    unfold Gallery.toHtml
    simp only [TagForm.tags, String.toList_append, List.append_assoc]
    rw [start, pictures_plainTag (by decide) (by decide), pictures_div, readAll_rowStart,
      pictures_div, pictures_imageLines, readAll_rowEnd, pictures_end, List.append_nil,
      List.map_map]
    rfl
  rw [shownImages?, read, ShownImage.mapM_ofTag?_tag]

end Html

/-! ## Reading shortcodes -/

namespace Shortcode

/-- The closing tag of a gallery is passed over. -/
theorem readAll_galleryEnd : form.readAll ((closingTag "gallery").toList ++ "\n".toList) = [] := by
  have unread : form.read? ('\x7b' :: '\x7b' :: "< /gallery >\x7d\x7d\n".toList) = none :=
    TagForm.read?_slash rfl
  have unstarted : form.read? ('\x7b' :: "< /gallery >\x7d\x7d\n".toList) = none := rfl
  calc form.readAll ((closingTag "gallery").toList ++ "\n".toList)
      = form.readAll ('\x7b' :: '\x7b' :: "< /gallery >\x7d\x7d\n".toList) := rfl
    _ = form.readAll ("< /gallery >\x7d\x7d\n".toList ++ []) := by
        rw [TagForm.readAll_cons_of_none unread, TagForm.readAll_cons_of_none unstarted,
          List.append_nil]
    _ = form.readAll [] := TagForm.readAll_append_of_not_mem rfl (by decide) []
    _ = [] := TagForm.readAll_nil

theorem readAll_imageShortcodes (images : List GalleryImage) (rest : List Char) :
    form.readAll ((String.join (images.map fun image =>
      (Gallery.imageShortcode image).openingTag ++ "\n")).toList ++ rest) =
        images.map (fun image => image.shown.tag "galleryImg") ++ form.readAll rest := by
  induction images with
  | nil => rfl
  | cons image later ih =>
      have named : (Gallery.imageShortcode image).tag.Named := by
        rw [Gallery.imageShortcode_tag]
        exact image.shown.named_tag (by decide)
      rw [List.map_cons, String.join_cons, String.toList_append, String.toList_append,
        List.append_assoc, List.append_assoc, readAll_openingTag named, readAll_feed, ih,
        Gallery.imageShortcode_tag, List.map_cons, List.cons_append]

/-- The images of a gallery are read back from its shortcodes. -/
theorem shownImages?_toShortcodes (gallery : Gallery) :
    shownImages? gallery.toShortcodes = some (gallery.images.map GalleryImage.shown) := by
  obtain ⟨images, caption⟩ := gallery
  have tag : ((Shortcode.named "gallery").optionalParam "caption" caption).tag =
      ⟨"gallery", attributeOf "caption" (nonEmpty caption)⟩ := by
    rw [optionalParam_eq]
    rfl
  have named : ((Shortcode.named "gallery").optionalParam "caption" caption).tag.Named := by
    rw [tag]
    have gallery : isName "gallery" = true := by decide
    exact ⟨gallery, named_attributeOf (by decide) (nonEmpty caption)⟩
  have all : (images.map fun image => image.shown.tag "galleryImg").filter
      (fun tag => tag.name == "galleryImg") =
        images.map fun image => image.shown.tag "galleryImg" := by
    rw [List.filter_eq_self]
    intro tag member
    obtain ⟨image, -, rfl⟩ := List.mem_map.mp member
    rfl
  have read : (form.tags (Gallery.toShortcodes ⟨images, caption⟩)).filter
      (fun tag => tag.name == "galleryImg") =
        (images.map GalleryImage.shown).map (ShownImage.tag "galleryImg") := by
    unfold Gallery.toShortcodes
    simp only [TagForm.tags, String.toList_append, List.append_assoc]
    rw [readAll_openingTag named, readAll_feed, readAll_imageShortcodes, readAll_galleryEnd, tag,
      List.append_nil, List.map_map, List.filter_cons_of_neg (by simp), all]
    rfl
  rw [shownImages?, read, ShownImage.mapM_ofTag?_tag]

end Shortcode

end Cards
end BlogMigration
