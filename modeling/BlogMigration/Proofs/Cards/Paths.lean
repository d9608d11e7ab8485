import BlogMigration.Cards.Catalog
import BlogMigration.Proofs.Render.Payloads
import BlogMigration.Proofs.Render.Registries
import BlogMigration.Proofs.Render.Uses
import Mathlib.Data.Option.Basic

/-!
# Paths of images

Every path of an image goes through the normalizer once, and nothing else does. Put differently, the
normalizer can be applied to the document beforehand, at the places where paths stand, and the
document can then be rendered as it is.
-/

namespace BlogMigration
namespace Cards

open Images (Normalizer)
open Json (mapString mapItems mapField KeepsLayout)
open Mobiledoc (Section Document)
open Render

variable {normalize : Normalizer}

/-! ## Places of paths -/

def imagePath (normalize : Normalizer) : Json → Json :=
  mapField "src" (mapString normalize)

def galleryPaths (normalize : Normalizer) : Json → Json :=
  mapField "images" (mapItems (imagePath normalize))

def unlessEmpty (normalize : Normalizer) : Normalizer := fun path =>
  if path.isEmpty then path else normalize path

def bookmarkPaths (normalize : Normalizer) : Json → Json :=
  mapField "metadata" fun metadata =>
    mapField "icon" (mapString (unlessEmpty normalize))
      (mapField "thumbnail" (mapString (unlessEmpty normalize)) metadata)

/-- Normalizes the paths in the payload of a card of a name. -/
def payloadPaths (normalize : Normalizer) (name : String) (payload : Json) : Json :=
  if name = "image" then imagePath normalize payload
  else if name = "gallery" then galleryPaths normalize payload
  else if name = "bookmark" then bookmarkPaths normalize payload
  else payload

def sectionPaths (normalize : Normalizer) : Section → Section
  | .image src => .image (normalize src)
  | other => other

/-- Normalizes the paths in the cards and in the sections of a document. -/
def documentPaths (normalize : Normalizer) (document : Document) : Document :=
  { document with
    cards := document.cards.map fun card =>
      { card with payload := payloadPaths normalize card.name card.payload }
    sections := document.sections.map (sectionPaths normalize) }

/-! ## Cards -/

theorem keepsLayout_imagePath (normalize : Normalizer) : KeepsLayout (imagePath normalize) :=
  (Json.keepsLayout_mapString normalize).mapField "src"

theorem keepsLayout_galleryPaths (normalize : Normalizer) : KeepsLayout (galleryPaths normalize) :=
  (Json.keepsLayout_mapItems _).mapField "images"

theorem keepsLayout_bookmarkPaths (normalize : Normalizer) :
    KeepsLayout (bookmarkPaths normalize) := by
  have strings := Json.keepsLayout_mapString (unlessEmpty normalize)
  exact ((strings.mapField "icon").comp (strings.mapField "thumbnail")).mapField "metadata"

theorem Image.read?_imagePath (normalize : Normalizer) (payload : Json) :
    Image.read? (imagePath normalize payload) =
      (Image.read? payload).map fun image => { image with src := normalize image.src } := by
  simp (disch := decide) only [Image.read?, imagePath, stringField?_mapField_self,
    optionalString?_mapField_of_ne]
  simp [Option.map_bind, Option.bind_map]

theorem image_eq_identity (normalize : Normalizer) (payload : Json) :
    image normalize payload = image Images.identity (imagePath normalize payload) := by
  rw [image, image, readPayload_edit (keepsLayout_imagePath normalize)
    (Image.read?_imagePath normalize)]
  cases readPayload ["src"] Image.read? payload <;> rfl

theorem GalleryImage.read?_imagePath (normalize : Normalizer) (entry : Json) :
    GalleryImage.read? (imagePath normalize entry) =
      (GalleryImage.read? entry).map fun image => { image with src := normalize image.src } := by
  simp (disch := decide) only [GalleryImage.read?, imagePath, stringField?_mapField_self,
    Json.field?_mapField_of_ne, optionalString?_mapField_of_ne]
  simp [Option.map_bind, Option.bind_map]

theorem GalleryImage.decode?_eq_identity (normalize : Normalizer) (entry : Json) :
    GalleryImage.decode? normalize entry =
      GalleryImage.decode? Images.identity (imagePath normalize entry) := by
  rw [decode?, decode?, readPayload_edit (keepsLayout_imagePath normalize)
    (GalleryImage.read?_imagePath normalize)]
  cases readPayload ["src", "width", "height"] read? entry <;> rfl

theorem Gallery.read?_galleryPaths (normalize : Normalizer) (payload : Json) :
    Gallery.read? (galleryPaths normalize payload) =
      (Gallery.read? payload).map fun (entries, caption) =>
        (entries.map (imagePath normalize), caption) := by
  rw [Gallery.read?, Gallery.read?, galleryPaths, Json.field?_mapField_self,
    optionalString?_mapField_of_ne (by decide)]
  cases payload.field? "images" with
  | none => rfl
  | some images =>
      simp only [Option.map_some, Option.bind_some, Json.array?_mapItems]
      cases images.array? <;> simp [Option.map_bind]

theorem Gallery.decode_eq_identity (normalize : Normalizer) (payload : Json) :
    Gallery.decode normalize payload =
      Gallery.decode Images.identity (galleryPaths normalize payload) := by
  rw [decode, decode, readPayload_edit (keepsLayout_galleryPaths normalize)
    (Gallery.read?_galleryPaths normalize)]
  have same : GalleryImage.decode? normalize =
      GalleryImage.decode? Images.identity ∘ imagePath normalize :=
    funext (GalleryImage.decode?_eq_identity normalize)
  cases readPayload ["images"] Gallery.read? payload with
  | error problem => rfl
  | ok content =>
      obtain ⟨entries, caption⟩ := content
      simp [Except.map, bind, Except.bind, List.filterMap_map, same]

theorem Bookmark.read?_bookmarkPaths (normalize : Normalizer) (payload : Json) :
    Bookmark.read? (bookmarkPaths normalize payload) =
      (Bookmark.read? payload).map fun bookmark =>
        { bookmark with
          thumbnail := bookmark.thumbnail.map (unlessEmpty normalize)
          icon := bookmark.icon.map (unlessEmpty normalize) } := by
  rw [Bookmark.read?, Bookmark.read?, bookmarkPaths, Json.field?_mapField_self,
    optionalString?_mapField_of_ne (by decide)]
  cases payload.field? "metadata" with
  | none => rfl
  | some metadata =>
      simp (disch := decide) only [Option.map_some, Option.bind_eq_bind, Option.bind_some,
        stringField?_mapField_of_ne, optionalString?_mapField_of_ne, optionalString?_mapField_self]
      simp [Option.map_bind, Option.bind_map]

/-- A path that is not empty stays so, and an empty one counts as absent before it is normalized. -/
theorem nonEmpty_map_unlessEmpty (proper : ∀ path, path ≠ "" → normalize path ≠ "")
    (path : Option String) :
    nonEmpty (path.map (unlessEmpty normalize)) = (nonEmpty path).map normalize := by
  cases path with
  | none => rfl
  | some path =>
      by_cases empty : path = ""
      · subst empty
        rfl
      · have kept := proper path empty
        simp [nonEmpty, Option.filter_some, unlessEmpty, empty, kept]

theorem Bookmark.decode_eq_identity (proper : ∀ path, path ≠ "" → normalize path ≠ "")
    (payload : Json) :
    Bookmark.decode normalize payload =
      Bookmark.decode Images.identity (bookmarkPaths normalize payload) := by
  rw [decode, decode, readPayload_edit (keepsLayout_bookmarkPaths normalize)
    (Bookmark.read?_bookmarkPaths normalize)]
  cases readPayload required read? payload with
  | error problem => rfl
  | ok bookmark =>
      simp only [Except.map, bind, Except.bind, resolve, nonEmpty_map_unlessEmpty proper]
      simp only [Option.map_map]
      rfl

/-! ## Catalogs -/

/-- A renderer gives for a payload what another one gives for the payload with its paths
normalized. -/
def Anticipates (normalize : Normalizer) (name : String) (renderer other : CardRenderer) : Prop :=
  ∀ payload, renderer payload = other (payloadPaths normalize name payload)

theorem htmlCards_related (proper : ∀ path, path ≠ "" → normalize path ≠ "") :
    Registry.Related (Anticipates normalize) (htmlCards normalize) (htmlCards Images.identity) := by
  have gallery : Anticipates normalize "gallery" (htmlGallery normalize)
      (htmlGallery Images.identity) := fun payload => by
    rw [htmlGallery, Gallery.decode_eq_identity]
    rfl
  have bookmark : Anticipates normalize "bookmark" (htmlBookmark normalize)
      (htmlBookmark Images.identity) := fun payload => by
    rw [htmlBookmark, Bookmark.decode_eq_identity proper]
    rfl
  refine Registry.related_ofList ?_
  -- The renderers of cards without paths are the same on both sides.
  iterate 6 refine .cons ⟨rfl, fun payload => rfl⟩ ?_
  refine .cons ⟨rfl, image_eq_identity normalize⟩ ?_
  exact .cons ⟨rfl, gallery⟩ (.cons ⟨rfl, bookmark⟩ .nil)

theorem catalog_related (proper : ∀ path, path ≠ "" → normalize path ≠ "") (dialect : Dialect) :
    Registry.Related (Anticipates normalize) (catalog dialect normalize).cards
      (catalog dialect Images.identity).cards := by
  cases dialect with
  | html => exact htmlCards_related proper
  | shortcode =>
      have gallery : Anticipates normalize "gallery" (shortcodeGallery normalize)
          (shortcodeGallery Images.identity) := fun payload => by
        rw [shortcodeGallery, Gallery.decode_eq_identity]
        rfl
      have bookmark : Anticipates normalize "bookmark" (shortcodeBookmark normalize)
          (shortcodeBookmark Images.identity) := fun payload => by
        rw [shortcodeBookmark, Bookmark.decode_eq_identity proper]
        rfl
      exact ((htmlCards_related proper).register gallery).register bookmark

theorem cardResult?_eq_identity (proper : ∀ path, path ≠ "" → normalize path ≠ "")
    (dialect : Dialect) (name : String) (payload : Json) :
    cardResult? (catalog dialect normalize).cards name payload =
      cardResult? (catalog dialect Images.identity).cards name
        (payloadPaths normalize name payload) := by
  have related := catalog_related proper dialect name
  rw [cardResult?, cardResult?]
  generalize (catalog dialect normalize).cards.get? name = left at related ⊢
  generalize (catalog dialect Images.identity).cards.get? name = right at related ⊢
  cases related with
  | none => rfl
  | some anticipates => exact congrArg some (anticipates payload)

/-! ## Documents -/

theorem renderCard_eq_identity (proper : ∀ path, path ≠ "" → normalize path ≠ "")
    (dialect : Dialect) (name : String) (payload : Json) :
    renderCard (catalog dialect normalize).cards name payload =
      renderCard (catalog dialect Images.identity).cards name
        (payloadPaths normalize name payload) := by
  rw [renderCard_eq_result, renderCard_eq_result, cardResult?_eq_identity proper]

theorem renderSection_eq_identity (proper : ∀ path, path ≠ "" → normalize path ≠ "")
    (dialect : Dialect) (document : Document) (content : Section) :
    renderSection (catalog dialect normalize) document content =
      renderSection (catalog dialect Images.identity) (documentPaths normalize document)
        (sectionPaths normalize content) := by
  rw [renderSection_eq_sectionText, renderSection_eq_sectionText]
  cases content with
  | markup tag markers => cases dialect <;> rfl
  | list tag items => cases dialect <;> rfl
  | image src => exact renderCard_eq_identity proper dialect "image" (imagePayload src)
  | card index =>
      simp only [sectionText, sectionPaths, documentPaths, List.getElem?_map]
      cases document.cards[index]? with
      | none => rfl
      | some card => exact renderCard_eq_identity proper dialect card.name card.payload

def hosted : Normalizer := fun path => "cdn:" ++ path

/-- A document with an image, a gallery that has an entry without a size, and a bookmark whose icon
is empty; the change given is made to the paths that a normalizer has to reach. -/
def illustrated (change : String → String) : Document where
  version := none
  markups := []
  atoms := []
  cards := [
    ⟨"gallery", .object [("images", .array [
      .object [("src", .string (change "a.png")), ("width", .integer 4), ("height", .integer 3),
        ("alt", .string "a.png")],
      .object [("src", .string (change "b.png"))]])]⟩,
    ⟨"bookmark", .object [("metadata", .object [("url", .string "/p"), ("title", .string "P"),
      ("description", .string ""), ("icon", .string ""),
      ("thumbnail", .string (change "c.png"))])]⟩,
    ⟨"code", .object [("src", .string "d.png"), ("code", .string "x")]⟩]
  sections := [.image (change ""), .card 0, .card 1, .card 2]

end Cards
end BlogMigration
