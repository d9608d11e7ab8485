import BlogMigration.Proofs.Cards.Figures

/-!
# Outlines of figures

The outline of a figure is the sequence of its tags with the names of their attributes. The strings
of a payload are escaped where they stand in a figure, so they never change its outline: it depends
on the number of images and on which optional details are there.
-/

namespace BlogMigration
namespace Cards

open Images (Normalizer)
open Render

namespace Html

/-- A tag with empty values. -/
def Mark.blank : Mark → Mark
  | .opening tag => .opening ⟨tag.name, tag.attributes.map fun pair => (pair.1, "")⟩
  | .closing name => .closing name

/-- The tags before the caption of a figure, without the values of their attributes. -/
def outline (html : String) : List Mark :=
  (content html).map fun piece => piece.mark.blank

end Html

open Html

/-! ## Galleries -/

/-- Whether an image of a gallery has an alternative text and a title. -/
def GalleryImage.details (image : GalleryImage) : Bool × Bool :=
  ((nonEmpty image.alt).isSome, (nonEmpty image.title).isSome)

namespace Gallery

theorem blank_attributeOf (name : String) (value : Option String) :
    (attributeOf name value).map (fun pair => (pair.1, "")) =
      if value.isSome then [(name, "")] else [] := by
  cases value <;> rfl

theorem blank_imagePieces {image other : GalleryImage} (alike : image.details = other.details) :
    (imagePieces image).map (fun piece => piece.mark.blank) =
      (imagePieces other).map fun piece => piece.mark.blank := by
  simp only [GalleryImage.details, Prod.mk.injEq] at alike
  simp only [imagePieces, GalleryImage.shown, ShownImage.tag, List.map_cons, Mark.blank,
    List.map_append, blank_attributeOf, alike]

/-- Images with the same details stand in the same tags, row by row. -/
theorem blank_rowPieces (index : Nat) {images others : List GalleryImage}
    (alike : images.map GalleryImage.details = others.map GalleryImage.details) :
    (rowPieces index images).map (fun piece => piece.mark.blank) =
      (rowPieces index others).map fun piece => piece.mark.blank := by
  induction images generalizing index others with
  | nil =>
      cases others with
      | nil => rfl
      | cons other more => cases alike
  | cons image later ih =>
      cases others with
      | nil => cases alike
      | cons other more =>
          rw [List.map_cons, List.map_cons, List.cons.injEq] at alike
          rw [rowPieces, rowPieces, List.map_append, List.map_append, List.map_append,
            List.map_append, blank_imagePieces alike.1, ih (index + 1) alike.2]

theorem htmlGallery_eq_ok {normalize : Normalizer} {payload : Json} {gallery : Gallery}
    (decoded : decode normalize payload = .ok gallery) :
    htmlGallery normalize payload = .ok gallery.toHtml := by
  rw [htmlGallery, decoded]
  rfl

theorem outline_toHtml_congr {gallery other : Gallery}
    (alike : gallery.images.map GalleryImage.details = other.images.map GalleryImage.details) :
    outline gallery.toHtml = outline other.toHtml := by
  rw [outline, outline, (isFigure_toHtml gallery).content_eq, (isFigure_toHtml other).content_eq]
  simp only [contentPieces, List.map_cons, List.map_append, blank_rowPieces 0 alike]

end Gallery

/-! ## Bookmarks -/

/-- Whether a bookmark has an icon, an author, a publisher and a thumbnail. -/
def Bookmark.details (bookmark : Bookmark) : Bool × Bool × Bool × Bool :=
  (bookmark.icon.isSome, bookmark.author.isSome, bookmark.publisher.isSome,
    bookmark.thumbnail.isSome)

namespace Bookmark

theorem blank_optionalPieces (shown : String → List Piece) {value other : Option String}
    (alike : value.isSome = other.isSome)
    (blank : ∀ value other, (shown value).map (fun piece => piece.mark.blank) =
      (shown other).map fun piece => piece.mark.blank) :
    (optionalPieces value shown).map (fun piece => piece.mark.blank) =
      (optionalPieces other shown).map fun piece => piece.mark.blank := by
  cases value with
  | none =>
      obtain rfl := Option.isNone_iff_eq_none.mp (Option.isSome_eq_false_iff.mp alike.symm)
      rfl
  | some value =>
      obtain ⟨other, rfl⟩ := Option.isSome_iff_exists.mp alike.symm
      exact blank value other

theorem htmlBookmark_eq_ok {normalize : Normalizer} {payload : Json} {bookmark : Bookmark}
    (decoded : decode normalize payload = .ok bookmark) :
    htmlBookmark normalize payload = .ok bookmark.toHtml := by
  rw [htmlBookmark, decoded]
  rfl

theorem outline_toHtml_congr {bookmark other : Bookmark}
    (alike : bookmark.details = other.details) :
    outline bookmark.toHtml = outline other.toHtml := by
  simp only [details, Prod.mk.injEq] at alike
  obtain ⟨icon, author, publisher, thumbnail⟩ := alike
  have icons := blank_optionalPieces (fun icon => [startWith "img" "src" icon "\n        "]) icon
    fun _ _ => rfl
  have authors := blank_optionalPieces namePieces author fun _ _ => rfl
  have publishers := blank_optionalPieces namePieces publisher fun _ _ => rfl
  have thumbnails := blank_optionalPieces thumbnailPieces thumbnail fun _ _ => rfl
  have site : (sitePieces bookmark).map (fun piece => piece.mark.blank) =
      (sitePieces other).map fun piece => piece.mark.blank := by
    rw [sitePieces, sitePieces, icon, author, publisher]
    split
    · simp only [List.map_cons, List.map_append, icons, authors, publishers]
    · rfl
  rw [outline, outline, (isFigure_toHtml bookmark).content_eq, (isFigure_toHtml other).content_eq]
  simp only [contentPieces, linkPieces, List.map_cons, List.map_append, site, thumbnails]
  rfl

end Bookmark

/-! ## Payloads -/

/-- Escapes are undone by decoding and write no character that starts or ends a tag or a value. So
two payloads of a gallery with the same details of their images, and two payloads of a bookmark with
the same details, are shown by the same tags up to the caption: their strings are read back as
values and texts. -/
theorem escapes_keep_outlines :
    (∀ value, decodeEntities (escapeAttribute value).toList = value.toList ∧
      decodeEntities (escapeText value).toList = value.toList) ∧
    (∀ value, (∀ special ∈ ['"', '<', '>'], special ∉ (escapeAttribute value).toList) ∧
      ∀ special ∈ ['<', '>'], special ∉ (escapeText value).toList) ∧
    (∀ (normalize : Normalizer) (payload other : Json) (gallery another : Gallery),
      Gallery.decode normalize payload = .ok gallery →
      Gallery.decode normalize other = .ok another →
      gallery.images.map GalleryImage.details = another.images.map GalleryImage.details →
      ∃ html otherHtml,
        cardResult? (catalog .html normalize).cards "gallery" payload = some (.ok html) ∧
        cardResult? (catalog .html normalize).cards "gallery" other = some (.ok otherHtml) ∧
        content html = gallery.contentPieces ∧ content otherHtml = another.contentPieces ∧
        outline html = outline otherHtml) ∧
    ∀ (normalize : Normalizer) (payload other : Json) (bookmark another : Bookmark),
      Bookmark.decode normalize payload = .ok bookmark →
      Bookmark.decode normalize other = .ok another →
      bookmark.details = another.details →
      ∃ html otherHtml,
        cardResult? (catalog .html normalize).cards "bookmark" payload = some (.ok html) ∧
        cardResult? (catalog .html normalize).cards "bookmark" other = some (.ok otherHtml) ∧
        content html = bookmark.contentPieces ∧ content otherHtml = another.contentPieces ∧
        outline html = outline otherHtml := by
  refine ⟨fun value => ⟨decodeEntities_escapeAttribute value, decodeEntities_escapeText value⟩,
    fun value => ⟨fun special listed => not_mem_escapeAttribute listed value,
      fun special listed => not_mem_escapeText listed value⟩, ?_, ?_⟩
  · intro normalize payload other gallery another decoded otherDecoded alike
    refine ⟨gallery.toHtml, another.toHtml, ?_, ?_, (Gallery.isFigure_toHtml gallery).content_eq,
      (Gallery.isFigure_toHtml another).content_eq, Gallery.outline_toHtml_congr alike⟩
    · exact congrArg some (Gallery.htmlGallery_eq_ok decoded)
    · exact congrArg some (Gallery.htmlGallery_eq_ok otherDecoded)
  · intro normalize payload other bookmark another decoded otherDecoded alike
    refine ⟨bookmark.toHtml, another.toHtml, ?_, ?_, (Bookmark.isFigure_toHtml bookmark).content_eq,
      (Bookmark.isFigure_toHtml another).content_eq, Bookmark.outline_toHtml_congr alike⟩
    · exact congrArg some (Bookmark.htmlBookmark_eq_ok decoded)
    · exact congrArg some (Bookmark.htmlBookmark_eq_ok otherDecoded)

def pictureEntry (src alt : String) : Json :=
  .object [("src", .string src), ("width", .integer 1), ("height", .integer 1),
    ("alt", .string alt)]

def galleryOf (entry : Json) : Json :=
  .object [("images", .array [entry])]

theorem decode_galleryOf {normalize : Normalizer} {entry : Json} {image : GalleryImage}
    (reads : GalleryImage.Reads normalize entry image) :
    Gallery.decode normalize (galleryOf entry) = .ok ⟨[image], none⟩ := by
  have listed : Gallery.decode normalize (galleryOf entry) =
      .ok ⟨[entry].filterMap (GalleryImage.decode? normalize), none⟩ := rfl
  rw [listed, List.filterMap_cons, GalleryImage.decode?_of_reads reads]
  rfl

/-- The payload of a bookmark that has only the fields it needs. -/
def plainPage (url title description : String) : Json :=
  .object [("metadata", .object [("url", .string url), ("title", .string title),
    ("description", .string description)])]

/-- Strings that look like the end of a value or of an element are shown by the same tags as plain
ones. -/
theorem escapes_keep_outlines_hostile :
    (∃ html otherHtml,
      cardResult? (catalog .html Images.identity).cards "gallery"
        (galleryOf (pictureEntry "\"/></div>" "<img src=\"\"/>")) = some (.ok html) ∧
      cardResult? (catalog .html Images.identity).cards "gallery"
        (galleryOf (pictureEntry "a.png" "A")) = some (.ok otherHtml) ∧
      outline html = outline otherHtml) ∧
    ∃ html otherHtml,
      cardResult? (catalog .html Images.identity).cards "bookmark"
        (plainPage "\"><script>" "</div>&lt;" "&") = some (.ok html) ∧
      cardResult? (catalog .html Images.identity).cards "bookmark" (plainPage "" "" "") =
        some (.ok otherHtml) ∧
      outline html = outline otherHtml := by
  obtain ⟨-, -, galleries, bookmarks⟩ := escapes_keep_outlines
  constructor
  · obtain ⟨one, rounded⟩ : ∃ one, Number.Binary64.ofInt? 1 = some one := ⟨_, rfl⟩
    have decoded (src alt : String) :
        Gallery.decode Images.identity (galleryOf (pictureEntry src alt)) =
          .ok ⟨[⟨src, one, one, some alt, none⟩], none⟩ :=
      decode_galleryOf (.intro rfl rfl rfl (.integer rounded) rfl (.integer rounded) (.text alt)
        .absent)
    obtain ⟨html, otherHtml, shown, otherShown, -, -, alike⟩ := galleries Images.identity _ _ _ _
      (decoded "\"/></div>" "<img src=\"\"/>") (decoded "a.png" "A") rfl
    exact ⟨html, otherHtml, shown, otherShown, alike⟩
  · have decoded (url title description : String) :
        Bookmark.decode Images.identity (plainPage url title description) =
          .ok ⟨url, title, description, none, none, none, none, none⟩ := rfl
    obtain ⟨html, otherHtml, shown, otherShown, -, -, alike⟩ := bookmarks Images.identity _ _ _ _
      (decoded "\"><script>" "</div>&lt;" "&") (decoded "" "" "") rfl
    exact ⟨html, otherHtml, shown, otherShown, alike⟩

end Cards
end BlogMigration
