import BlogMigration.Cards.Gallery
import BlogMigration.Proofs.Mobiledoc.Layout
import BlogMigration.Proofs.Render.Payloads

/-!
# Payloads of galleries

An entry of a gallery is an image if it is an object with a path and a size, and if its alternative
text and its title are texts wherever they are given. Every other entry is passed over, so that a
payload is a gallery whatever its entries are.
-/

namespace BlogMigration
namespace Cards

open Images (Normalizer)
open Mobiledoc (Picks)
open Number (Binary64)
open Render

/-! ## Shapes -/

/-- A number as it is rendered, an integer being rounded. -/
inductive IsNumber : Json → Binary64 → Prop where
  | integer {n : Int} {x : Binary64} (rounded : Binary64.ofInt? n = some x) :
      IsNumber (.integer n) x
  | double (x : Binary64) : IsNumber (.double x) x

/-- A text that may be absent or null. -/
inductive IsOptionalText : Option Json → Option String → Prop where
  | absent : IsOptionalText none none
  | null : IsOptionalText (some .null) none
  | text (value : String) : IsOptionalText (some (.string value)) (some value)

/-- An entry is an image, its path normalized. -/
inductive GalleryImage.Reads (normalize : Normalizer) : Json → GalleryImage → Prop where
  | intro {fields : Json.Fields} {path : String} {width height : Json} {image : GalleryImage}
      (source : fields.get? "src" = some (.string path)) (normalized : image.src = normalize path)
      (wide : fields.get? "width" = some width) (across : IsNumber width image.width)
      (high : fields.get? "height" = some height) (upright : IsNumber height image.height)
      (alt : IsOptionalText (fields.get? "alt") image.alt)
      (title : IsOptionalText (fields.get? "title") image.title) :
      Reads normalize (.object fields) image

theorem double?_eq_some_iff (value : Json) (x : Binary64) :
    value.double? = some x ↔ IsNumber value x := by
  constructor
  · intro read
    cases value with
    | integer n => exact .integer read
    | double y =>
        cases read
        exact .double x
    | _ => cases read
  · rintro (⟨rounded⟩ | ⟨_⟩)
    · exact rounded
    · rfl

theorem optionalString?_eq_some_iff (name : String) (payload : Json) (text : Option String) :
    optionalString? name payload = some text ↔ IsOptionalText (payload.field? name) text := by
  simp only [optionalString?, Json.optionalField?]
  cases payload.field? name with
  | none =>
      constructor
      · rintro ⟨⟩
        exact .absent
      · rintro ⟨⟩
        rfl
  | some value =>
      constructor
      · intro read
        cases value with
        | null =>
            cases read
            exact .null
        | string value =>
            cases read
            exact .text value
        | _ => cases read
      · rintro (_ | _ | _) <;> rfl

/-! ## Entries -/

namespace GalleryImage

/-- What is read from an entry is its image, but for the path. -/
theorem reads_of_read? {entry : Json} {image : GalleryImage} (read : read? entry = some image)
    (normalize : Normalizer) : Reads normalize entry { image with src := normalize image.src } := by
  cases entry with
  | object fields =>
      simp only [read?, stringField?, Json.field?, Option.bind_eq_bind, Option.pure_def,
        Option.bind_eq_some_iff, Option.some.injEq] at read
      obtain ⟨path, ⟨value, source, text⟩, x, ⟨width, wide, across⟩, y, ⟨height, high, upright⟩, alt,
        altText, title, titleText, rfl⟩ := read
      obtain rfl := (Mobiledoc.string?_eq_some_iff value path).mp text
      exact .intro source rfl wide ((double?_eq_some_iff width x).mp across) high
        ((double?_eq_some_iff height y).mp upright)
        ((optionalString?_eq_some_iff "alt" _ alt).mp altText)
        ((optionalString?_eq_some_iff "title" _ title).mp titleText)
  | _ => cases read

theorem decode?_of_reads {normalize : Normalizer} {entry : Json} {image : GalleryImage}
    (reads : Reads normalize entry image) : decode? normalize entry = some image := by
  cases reads with
  | @intro fields path width height _ source normalized wide across high upright alt title =>
      have read : read? (.object fields) = some { image with src := path } := by
        simp only [read?, stringField?, Json.field?, source, wide, high, Option.bind_some,
          Json.string?, (double?_eq_some_iff _ _).mpr across, (double?_eq_some_iff _ _).mpr upright,
          (optionalString?_eq_some_iff _ (.object fields) _).mpr alt,
          (optionalString?_eq_some_iff _ (.object fields) _).mpr title, Option.bind_eq_bind]
        rfl
      have present : ∀ name ∈ ["src", "width", "height"],
          ((Json.object fields).lookup? name).isSome = true := by
        simp only [List.forall_mem_cons, List.not_mem_nil, false_imp_iff, implies_true, and_true]
        refine ⟨isSome_lookup?_of_field? (by decide) source rfl,
          isSome_lookup?_of_field? (by decide) wide ?_,
          isSome_lookup?_of_field? (by decide) high ?_⟩
        · cases across <;> rfl
        · cases upright <;> rfl
      rw [decode?, readPayload_eq_ok_iff.mpr ⟨rfl, present, read⟩]
      simp only [← normalized]

/-- The images of a gallery are the entries of the right shape. -/
theorem decode?_eq_some_iff (normalize : Normalizer) (entry : Json) (image : GalleryImage) :
    decode? normalize entry = some image ↔ Reads normalize entry image := by
  refine ⟨fun decoded => ?_, decode?_of_reads⟩
  rw [decode?] at decoded
  split at decoded
  · next raw found =>
    cases decoded
    exact reads_of_read? (readPayload_eq_ok_iff.mp found).2.2 normalize
  · cases decoded

end GalleryImage

/-! ## Galleries -/

namespace Gallery

/-- A payload is a gallery: it lists entries, and its caption is a text wherever it is given. -/
inductive Reads (normalize : Normalizer) : Json → Gallery → Prop where
  | intro {fields : Json.Fields} {entries : List Json} {images : List GalleryImage}
      {caption : Option String} (listed : fields.get? "images" = some (.array entries))
      (picked : Picks (GalleryImage.Reads normalize) entries images)
      (titled : IsOptionalText (fields.get? "caption") caption) :
      Reads normalize (.object fields) ⟨images, nonEmpty caption⟩

variable {normalize : Normalizer} {payload : Json} {gallery : Gallery} {entries : List Json}
  {caption : Option String}

theorem Reads.exists_entries (reads : Reads normalize payload gallery) :
    ∃ entries, payload.field? "images" = some (.array entries) ∧
      Picks (GalleryImage.Reads normalize) entries gallery.images := by
  cases reads with
  | intro listed picked _ => exact ⟨_, listed, picked⟩

/-- A payload with a list of entries is a gallery, whether or not they are images. -/
theorem exists_reads (normalize : Normalizer)
    (listed : payload.field? "images" = some (.array entries))
    (titled : IsOptionalText (payload.field? "caption") caption) :
    ∃ gallery, Reads normalize payload gallery := by
  have picks := Mobiledoc.picks_iff (GalleryImage.decode?_eq_some_iff normalize)
  cases payload with
  | object fields => exact ⟨_, .intro listed ((picks _ _).mpr rfl) titled⟩
  | _ => cases listed

theorem read?_eq_some_iff : read? payload = some (entries, caption) ↔
      payload.field? "images" = some (.array entries) ∧
        IsOptionalText (payload.field? "caption") caption := by
  simp only [read?, Option.bind_eq_bind, Option.pure_def, Option.bind_eq_some_iff,
    Option.some.injEq, Prod.mk.injEq, optionalString?_eq_some_iff]
  constructor
  · rintro ⟨_, ⟨value, found, items⟩, _, titled, rfl, rfl⟩
    cases value with
    | array _ =>
        cases items
        exact ⟨found, titled⟩
    | _ => cases items
  · rintro ⟨found, titled⟩
    exact ⟨_, ⟨_, found, rfl⟩, _, titled, rfl, rfl⟩

/-- The galleries are decoded, and nothing else is. -/
theorem decode_eq_ok_iff :
    decode normalize payload = .ok gallery ↔ Reads normalize payload gallery := by
  have picks := Mobiledoc.picks_iff (GalleryImage.decode?_eq_some_iff normalize)
  constructor
  · intro decoded
    rw [decode] at decoded
    cases found : readPayload ["images"] read? payload with
    | error problem =>
        rw [found] at decoded
        cases decoded
    | ok content =>
        obtain ⟨entries, caption⟩ := content
        rw [found] at decoded
        cases decoded
        obtain ⟨object, -, read⟩ := readPayload_eq_ok_iff.mp found
        obtain ⟨listed, titled⟩ := read?_eq_some_iff.mp read
        cases payload with
        | object fields => exact .intro listed ((picks _ _).mpr rfl) titled
        | _ => cases object
  · intro reads
    cases reads with
    | @intro fields entries images caption listed picked titled =>
        have read : read? (.object fields) = some (entries, caption) :=
          read?_eq_some_iff.mpr ⟨listed, titled⟩
        have present : ∀ path ∈ ["images"], ((Json.object fields).lookup? path).isSome = true := by
          have inPayload : (Json.object fields).field? "images" = some (.array entries) := listed
          rw [List.forall_mem_singleton]
          exact isSome_lookup?_of_field? (by decide) inPayload rfl
        rw [decode, readPayload_eq_ok_iff.mpr ⟨rfl, present, read⟩, (picks _ _).mp picked]
        rfl

end Gallery
end Cards
end BlogMigration
