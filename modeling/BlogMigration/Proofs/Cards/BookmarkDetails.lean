import BlogMigration.Proofs.Cards.Outlines

/-!
# Optional details of bookmarks

A bookmark may have a thumbnail, an icon, an author, a publisher and a caption. Both dialects are
read back to the details that they show. They show the same ones exactly when the normalizer leaves
something of the paths of the images: a path of which nothing is left stays a detail of the
bookmark, shown by an image without a path in HTML and by no parameter in a shortcode.
-/

namespace BlogMigration
namespace Cards

open Images (Normalizer)
open Render

/-- What a bookmark shows besides its link. The names are those of the author and of the publisher.
-/
structure ShownDetails where
  icon : Option String
  names : List String
  thumbnail : Option String
  captioned : Bool
  deriving DecidableEq, Repr

/-! ## Reading HTML -/

namespace Html

/-- The elements that are open after a tag, the innermost first. An image has no end. -/
def Mark.openAfter (around : List String) : Mark → List String
  | .opening tag => if tag.name = "img" then around else tag.name :: around
  | .closing _ => around.tail

/-- The pieces of a text, each with the elements that are open before its tag. -/
def nested (around : List String) : List Piece → List (List String × Piece)
  | [] => []
  | piece :: rest => (around, piece) :: nested (piece.mark.openAfter around) rest

/-- The path of an image that stands in the given elements. -/
def imagePath? (place : List String) (found : List String × Piece) : Option String :=
  match found.2.mark with
  | .opening tag => if tag.name = "img" ∧ found.1 = place then tag.value? "src" else none
  | .closing _ => none

/-- The text of an element of the given name, at its end. -/
def elementText? (name : String) (piece : Piece) : Option String :=
  if piece.mark = .closing name then some piece.before else none

/-- The details that a bookmark in HTML shows: the icon stands beside the names of the author and of
the publisher, the thumbnail apart from them. -/
def shownDetails (html : String) : ShownDetails where
  icon := (nested [] (content html)).findSome? (imagePath? ["div", "div", "a", "figure"])
  names := (content html).filterMap (elementText? "span")
  thumbnail := (nested [] (content html)).findSome? (imagePath? ["div", "a", "figure"])
  captioned := (contentEnd? html).any fun mark => mark == .opening (plainTag "figcaption")

end Html

/-! ## Reading shortcodes -/

/-- The details that the parameters of a shortcode show. -/
def ShownDetails.ofTag (tag : Tag) : ShownDetails where
  icon := tag.value? "icon"
  names := (tag.value? "author").toList ++ (tag.value? "publisher").toList
  thumbnail := tag.value? "thumbnail"
  captioned := (tag.value? "caption").isSome

/-- The details that a bookmark by a shortcode shows. -/
def Shortcode.shownDetails? (text : String) : Option ShownDetails :=
  (Shortcode.form.tags text).head?.map ShownDetails.ofTag

/-! ## Details without empty ones -/

/-- A normalized path is empty only if nothing of the path was left. -/
theorem map_nonEmpty_ne_iff (normalize : Normalizer) (path : Option String) :
    (nonEmpty path).map normalize ≠ some "" ↔
      ∀ text, path = some text → text ≠ "" → normalize text ≠ "" := by
  rw [Ne, Option.map_eq_some_iff]
  constructor
  · intro left text given nonempty emptied
    exact left ⟨text, nonEmpty_eq_some_iff.mpr ⟨given, nonempty⟩, emptied⟩
  · rintro left ⟨text, kept, emptied⟩
    obtain ⟨given, nonempty⟩ := nonEmpty_eq_some_iff.mp kept
    exact left text given nonempty emptied

theorem nonEmpty_eq_self {value : Option String} (shown : value ≠ some "") :
    nonEmpty value = value := by
  cases value with
  | none => rfl
  | some text => exact nonEmpty_eq_some_iff.mpr ⟨rfl, fun empty => shown (congrArg some empty)⟩

namespace Bookmark

open Html

/-! ## Reading back -/

/-- The details that a bookmark in HTML shows are those that it has. -/
theorem shownDetails_toHtml (bookmark : Bookmark) :
    Html.shownDetails bookmark.toHtml =
      ⟨bookmark.icon, bookmark.author.toList ++ bookmark.publisher.toList, bookmark.thumbnail,
        bookmark.caption.isSome⟩ := by
  have figure := isFigure_toHtml bookmark
  rw [Html.shownDetails, figure.content_eq, figure.contentEnd?_eq]
  obtain ⟨url, title, description, thumbnail, icon, author, publisher, caption⟩ := bookmark
  have captioned : (some (captionOrEnd caption).mark).any
      (fun mark => mark == .opening (plainTag "figcaption")) = caption.isSome := by
    cases caption <;> rfl
  rw [captioned]
  cases thumbnail <;> cases icon <;> cases author <;> cases publisher <;> rfl

theorem shortcode_tag (bookmark : Bookmark) :
    bookmark.shortcode.tag = ⟨"bookmark",
      [("url", bookmark.url), ("title", bookmark.title), ("description", bookmark.description)] ++
        attributeOf "icon" (nonEmpty bookmark.icon) ++
        attributeOf "author" (nonEmpty bookmark.author) ++
        attributeOf "publisher" (nonEmpty bookmark.publisher) ++
        attributeOf "thumbnail" (nonEmpty bookmark.thumbnail) ++
        attributeOf "caption" (nonEmpty bookmark.caption)⟩ := by
  simp only [shortcode, Shortcode.optionalParam_eq]
  rfl

theorem named_shortcode_tag (bookmark : Bookmark) : bookmark.shortcode.tag.Named := by
  rw [shortcode_tag]
  have itself : isName "bookmark" = true := by decide
  refine ⟨itself, ?_⟩
  simp only [List.forall_mem_append]
  refine ⟨⟨⟨⟨⟨?_, ?_⟩, ?_⟩, ?_⟩, ?_⟩, ?_⟩
  · have plain : ∀ name ∈ ["url", "title", "description"], isName name = true := by decide
    intro pair member
    exact plain pair.1 (List.mem_map_of_mem (f := Prod.fst) member)
  all_goals exact named_attributeOf (by decide) _

/-- The details that a bookmark by a shortcode shows are those that it has and that are not empty.
-/
theorem shownDetails?_openingTag (bookmark : Bookmark) :
    Shortcode.shownDetails? (bookmark.shortcode.openingTag ++ "\n") =
      some ⟨nonEmpty bookmark.icon,
        (nonEmpty bookmark.author).toList ++ (nonEmpty bookmark.publisher).toList,
        nonEmpty bookmark.thumbnail, (nonEmpty bookmark.caption).isSome⟩ := by
  have read : Shortcode.form.tags (bookmark.shortcode.openingTag ++ "\n") =
      [bookmark.shortcode.tag] := by
    have ended := Shortcode.readAll_feed []
    rw [List.append_nil, TagForm.readAll_nil] at ended
    rw [TagForm.tags, String.toList_append,
      Shortcode.readAll_openingTag (named_shortcode_tag bookmark), ended]
  rw [Shortcode.shownDetails?, read, shortcode_tag]
  cases nonEmpty bookmark.icon <;> cases nonEmpty bookmark.author <;>
    cases nonEmpty bookmark.publisher <;> cases nonEmpty bookmark.thumbnail <;>
    cases nonEmpty bookmark.caption <;> rfl

/-! ## Payloads -/

def optionalDetails (bookmark : Bookmark) : List (Option String) :=
  [bookmark.thumbnail, bookmark.icon, bookmark.author, bookmark.publisher, bookmark.caption]

def imagePlaces : List String := ["metadata.thumbnail", "metadata.icon"]

theorem shortcodeBookmark_eq_ok {normalize : Normalizer} {payload : Json} {bookmark : Bookmark}
    (decoded : decode normalize payload = .ok bookmark) :
    shortcodeBookmark normalize payload = .ok (bookmark.shortcode.openingTag ++ "\n") := by
  rw [shortcodeBookmark, decoded]
  rfl

theorem exists_read?_of_decode {normalize : Normalizer} {payload : Json} {bookmark : Bookmark}
    (decoded : decode normalize payload = .ok bookmark) :
    ∃ raw, read? payload = some raw ∧ bookmark = raw.resolve normalize := by
  rw [decode] at decoded
  cases found : readPayload required read? payload with
  | error problem =>
      rw [found] at decoded
      cases decoded
  | ok raw =>
      rw [found] at decoded
      cases decoded
      exact ⟨raw, (readPayload_eq_ok_iff.mp found).2.2, rfl⟩

/-- An optional text of the metadata is the string at its path. -/
theorem lookup?_metadata_iff {place name : String}
    (parted : Json.pathNames place = ["metadata", name]) {payload metadata : Json}
    (held : payload.field? "metadata" = some metadata) {text : Option String}
    (read : optionalString? name metadata = some text) (path : String) :
    payload.lookup? place = some (.string path) ↔ text = some path := by
  have shape := (optionalString?_eq_some_iff name metadata text).mp read
  have looked :
      payload.lookup? place = (metadata.field? name).filter fun found => !found.isNull := by
    simp [Json.lookup?, parted, Json.follow, held]
  rw [looked]
  generalize metadata.field? name = found at shape ⊢
  cases shape with
  | absent => simp
  | null => simp [Json.isNull]
  | text value => simp [Json.isNull]

theorem lookup?_images {payload : Json} {raw : Bookmark} (read : read? payload = some raw)
    (path : String) :
    (payload.lookup? "metadata.thumbnail" = some (.string path) ↔ raw.thumbnail = some path) ∧
      (payload.lookup? "metadata.icon" = some (.string path) ↔ raw.icon = some path) := by
  simp only [read?, Option.bind_eq_bind, Option.pure_def, Option.bind_eq_some_iff,
    Option.some.injEq] at read
  obtain ⟨metadata, held, url, -, title, -, description, -, thumbnail, thumbnailText, icon, iconText,
    author, -, publisher, -, caption, -, rfl⟩ := read
  exact ⟨lookup?_metadata_iff rfl held thumbnailText path,
    lookup?_metadata_iff rfl held iconText path⟩

/-- The paths of the images of a decoded bookmark are not empty exactly if the normalizer leaves
something of the paths in its payload. -/
theorem images_ne_iff {normalize : Normalizer} {payload : Json} {bookmark : Bookmark}
    (decoded : decode normalize payload = .ok bookmark) :
    (bookmark.thumbnail ≠ some "" ∧ bookmark.icon ≠ some "") ↔
      ∀ place ∈ imagePlaces, ∀ path, payload.lookup? place = some (.string path) → path ≠ "" →
        normalize path ≠ "" := by
  obtain ⟨raw, read, rfl⟩ := exists_read?_of_decode decoded
  simp only [resolve, imagePlaces, List.forall_mem_cons, List.not_mem_nil, false_imp_iff,
    implies_true, and_true, map_nonEmpty_ne_iff, lookup?_images read]

/-- The other details of a decoded bookmark are never empty. -/
theorem texts_ne {normalize : Normalizer} {payload : Json} {bookmark : Bookmark}
    (decoded : decode normalize payload = .ok bookmark) :
    bookmark.author ≠ some "" ∧ bookmark.publisher ≠ some "" ∧ bookmark.caption ≠ some "" := by
  obtain ⟨raw, -, rfl⟩ := exists_read?_of_decode decoded
  exact ⟨nonEmpty_ne_empty _, nonEmpty_ne_empty _, nonEmpty_ne_empty _⟩

end Bookmark

/-- That no optional detail of a decoded bookmark is empty, and that both dialects show the same
details of it, are each the case exactly if the normalizer leaves something of every path of the
bookmark's images that is not empty. -/
theorem bookmarks_show_same_details_iff {normalize : Normalizer} {payload : Json}
    {bookmark : Bookmark} (decoded : Bookmark.decode normalize payload = .ok bookmark) :
    ((∀ detail ∈ bookmark.optionalDetails, detail ≠ some "") ↔
      ∀ place ∈ Bookmark.imagePlaces, ∀ path, payload.lookup? place = some (.string path) →
        path ≠ "" → normalize path ≠ "") ∧
    ((∃ html text,
        cardResult? (catalog .html normalize).cards "bookmark" payload = some (.ok html) ∧
        cardResult? (catalog .shortcode normalize).cards "bookmark" payload = some (.ok text) ∧
        Shortcode.shownDetails? text = some (Html.shownDetails html)) ↔
      ∀ place ∈ Bookmark.imagePlaces, ∀ path, payload.lookup? place = some (.string path) →
        path ≠ "" → normalize path ≠ "") := by
  rw [← Bookmark.images_ne_iff decoded]
  obtain ⟨author, publisher, caption⟩ := Bookmark.texts_ne decoded
  have html : cardResult? (catalog .html normalize).cards "bookmark" payload =
      some (.ok bookmark.toHtml) :=
    congrArg some (Bookmark.htmlBookmark_eq_ok decoded)
  have text : cardResult? (catalog .shortcode normalize).cards "bookmark" payload =
      some (.ok (bookmark.shortcode.openingTag ++ "\n")) :=
    congrArg some (Bookmark.shortcodeBookmark_eq_ok decoded)
  constructor
  · simp only [Bookmark.optionalDetails, List.forall_mem_cons, List.not_mem_nil, false_imp_iff,
      implies_true, and_true]
    exact ⟨fun shown => ⟨shown.1, shown.2.1⟩,
      fun shown => ⟨shown.1, shown.2, author, publisher, caption⟩⟩
  · simp only [html, text, Option.some.injEq, Except.ok.injEq, exists_and_left, exists_eq_left',
      Bookmark.shownDetails?_openingTag, Bookmark.shownDetails_toHtml, ShownDetails.mk.injEq,
      nonEmpty_eq_self author, nonEmpty_eq_self publisher, nonEmpty_eq_self caption, true_and,
      and_true]
    constructor
    · rintro ⟨icon, thumbnail⟩
      rw [← icon, ← thumbnail]
      exact ⟨nonEmpty_ne_empty _, nonEmpty_ne_empty _⟩
    · rintro ⟨thumbnail, icon⟩
      exact ⟨nonEmpty_eq_self icon, nonEmpty_eq_self thumbnail⟩

def thumbnailPage (path : String) : Json :=
  .object [("metadata", .object [("url", .string "/p"), ("title", .string "P"),
    ("description", .string ""), ("thumbnail", .string path)])]

theorem decode_thumbnailPage (normalize : Normalizer) {path : String} (shown : path ≠ "") :
    Bookmark.decode normalize (thumbnailPage path) =
      .ok ⟨"/p", "P", "", some (normalize path), none, none, none, none⟩ := by
  have kept : nonEmpty (some path) = some path := nonEmpty_eq_some_iff.mpr ⟨rfl, shown⟩
  calc Bookmark.decode normalize (thumbnailPage path)
      = .ok ⟨"/p", "P", "", (nonEmpty (some path)).map normalize, none, none, none, none⟩ := rfl
    _ = .ok ⟨"/p", "P", "", some (normalize path), none, none, none, none⟩ := by rw [kept]; rfl

/-- A thumbnail below the folder of the blog's files is shown by both dialects. -/
theorem bookmarks_show_same_details_thumbnail :
    ∃ html text,
      cardResult? (catalog .html Images.stripContent).cards "bookmark"
        (thumbnailPage "/content/a.png") = some (.ok html) ∧
      cardResult? (catalog .shortcode Images.stripContent).cards "bookmark"
        (thumbnailPage "/content/a.png") = some (.ok text) ∧
      Shortcode.shownDetails? text = some (Html.shownDetails html) := by
  have decoded := decode_thumbnailPage Images.stripContent
    (show "/content/a.png" ≠ "" by decide)
  refine (bookmarks_show_same_details_iff decoded).2.mpr fun place listed path held _ => ?_
  rcases List.mem_pair.mp listed with rfl | rfl
  · cases held
    decide
  · cases held

/-- The folder itself is a thumbnail of which nothing is left: the bookmark keeps an empty path,
which HTML shows and a shortcode does not. -/
theorem bookmarks_differ_on_content_folder :
    ∃ bookmark html text shown,
      Bookmark.decode Images.stripContent (thumbnailPage "/content") = .ok bookmark ∧
      bookmark.thumbnail = some "" ∧
      cardResult? (catalog .html Images.stripContent).cards "bookmark" (thumbnailPage "/content") =
        some (.ok html) ∧
      cardResult? (catalog .shortcode Images.stripContent).cards "bookmark"
        (thumbnailPage "/content") = some (.ok text) ∧
      (Html.shownDetails html).thumbnail = some "" ∧
      Shortcode.shownDetails? text = some shown ∧ shown.thumbnail = none := by
  have decoded := decode_thumbnailPage Images.stripContent
    (show "/content" ≠ "" by decide)
  have nothing : Images.stripContent "/content" = "" := by decide
  rw [nothing] at decoded
  refine ⟨_, _, _, _, decoded, rfl, congrArg some (Bookmark.htmlBookmark_eq_ok decoded),
    congrArg some (Bookmark.shortcodeBookmark_eq_ok decoded), ?_,
    Bookmark.shownDetails?_openingTag _, rfl⟩
  rw [Bookmark.shownDetails_toHtml]

end Cards
end BlogMigration
