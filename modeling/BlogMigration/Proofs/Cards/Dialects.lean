import BlogMigration.Cards.Catalog
import BlogMigration.Proofs.Mobiledoc.Layout
import BlogMigration.Proofs.Render.Registries
import BlogMigration.Proofs.Render.Uses

/-!
# Differences between dialects

The dialect of shortcodes overrides the renderers of galleries and bookmarks, and nothing else. What
a document asks of a catalog decides its output, so the dialects agree on every section that is no
gallery and no bookmark.
-/

namespace BlogMigration
namespace Cards

open Images (Normalizer)
open Mobiledoc (Section Document)
open Render

/-- The names of the cards that the dialects show differently. -/
def overridden : List String := ["gallery", "bookmark"]

/-- A section asks for the renderer of a card that the dialects show differently. -/
def UsesOverridden (document : Document) (content : Section) : Prop :=
  ∃ name ∈ overridden, UsesCard document content name

variable {document : Document} {content : Section}

theorem names_htmlCards (normalize : Normalizer) :
    (htmlCards normalize).names =
      ["bookmark", "card-markdown", "code", "embed", "gallery", "hr", "html", "image", "markdown"] :=
  rfl

/-- Overriding renderers adds no names. -/
theorem names_shortcodeCards (normalize : Normalizer) :
    (shortcodeCards normalize).names = (htmlCards normalize).names := by
  have gallery : "gallery" ∈ (htmlCards normalize).names := by
    rw [names_htmlCards]
    decide
  have bookmark : "bookmark" ∈ (htmlCards normalize).names := by
    rw [names_htmlCards]
    decide
  rw [← Registry.names_register gallery (shortcodeGallery normalize)] at bookmark
  rw [shortcodeCards, Registry.names_register bookmark, Registry.names_register gallery]

theorem get?_shortcodeCards {name : String} (kept : name ∉ overridden) (normalize : Normalizer) :
    (shortcodeCards normalize).get? name = (htmlCards normalize).get? name := by
  simp only [overridden, List.mem_cons, List.not_mem_nil, or_false, not_or] at kept
  rw [shortcodeCards, Registry.get?_register, Registry.get?_register, if_neg (Ne.symm kept.2),
    if_neg (Ne.symm kept.1)]

/-- The dialects agree on sections that are no galleries and no bookmarks. -/
theorem agreeOn_of_not_usesOverridden (plain : ¬ UsesOverridden document content)
    (normalize : Normalizer) :
    AgreeOn document content (catalog .html normalize) (catalog .shortcode normalize) where
  cards name uses payload := by
    have kept : name ∉ overridden := fun listed => plain ⟨name, listed, uses⟩
    simp only [cardResult?, catalog, get?_shortcodeCards kept]
  atoms name uses value payload := rfl

/-- What a catalog shows of a document depends on the renderers that the document uses alone. So the
dialects, which know the same cards and atoms, show a text alike unless one of its sections is a
gallery or a bookmark, and even then all its other sections come out alike and in their places. -/
theorem dialects_agree_elsewhere :
    (∀ (document : Document) (left right : Catalog),
      (∀ content ∈ document.sections, AgreeOn document content left right) →
        renderDocument left document = renderDocument right document) ∧
    ∀ normalize : Normalizer,
      (catalog .html normalize).cards.names = (catalog .shortcode normalize).cards.names ∧
      (catalog .html normalize).atoms.names = (catalog .shortcode normalize).atoms.names ∧
      ∀ source : String,
        ((∀ document, Document.parse source = .ok document →
            ∀ content ∈ document.sections, ¬ UsesOverridden document content) →
          renderSource (catalog .html normalize) source =
            renderSource (catalog .shortcode normalize) source) ∧
        ∀ document, Document.parse source = .ok document →
          (∀ dialect, renderSource (catalog dialect normalize) source =
            String.join (fragments (catalog dialect normalize) document)) ∧
          ∀ (index : Nat) (content : Section), document.sections[index]? = some content →
            ¬ UsesOverridden document content →
              (fragments (catalog .html normalize) document)[index]? =
                (fragments (catalog .shortcode normalize) document)[index]? := by
  refine ⟨fun document left right => renderDocument_congr, fun normalize => ?_⟩
  refine ⟨(names_shortcodeCards normalize).symm, rfl, fun source => ⟨fun plain => ?_, ?_⟩⟩
  · cases parsed : Document.parse source with
    | error problem => simp only [renderSource, parsed]
    | ok document =>
        simp only [renderSource, parsed]
        exact renderDocument_congr fun content listed =>
          agreeOn_of_not_usesOverridden (plain document parsed content listed) normalize
  · intro document parsed
    refine ⟨fun dialect => by simp only [renderSource, parsed, renderDocument_eq_join], ?_⟩
    intro index content placed plain
    have agree := agreeOn_of_not_usesOverridden plain normalize
    rw [fragments, fragments, List.getElem?_map, List.getElem?_map, placed, Option.map_some,
      Option.map_some, agree.renderSection_eq]

def galleryText : String :=
  "\x7b\"cards\":[[\"gallery\",\x7b\"images\":[]\x7d]],\"sections\":[[2,\"a.png\"],[10,0]]\x7d"

def galleryOutline : Mobiledoc.Outline where
  version := none
  markups := []
  atoms := []
  cards := [.array [.string "gallery", .object [("images", .array [])]]]
  sections := some [.array [.integer 2, .string "a.png"], .array [.integer 10, .integer 0]]

def galleryDocument : Document where
  version := none
  markups := []
  atoms := []
  cards := [⟨"gallery", .object [("images", .array [])]⟩]
  sections := [.image "a.png", .card 0]

theorem parse_galleryText : Document.parse galleryText = .ok galleryDocument := by
  have found : Mobiledoc.Outline.parse? galleryText = some galleryOutline := rfl
  exact Mobiledoc.parse_of_outline found

/-- The image before a gallery is shown alike by the dialects, and a renderer of thematic breaks
does not matter for the document. -/
theorem dialects_agree_elsewhere_gallery :
    (fragments (catalog .html Images.identity) galleryDocument)[0]? =
      (fragments (catalog .shortcode Images.identity) galleryDocument)[0]? ∧
    renderDocument (catalog .html Images.identity) galleryDocument =
      renderDocument ⟨(htmlCards Images.identity).register "hr" markdown, lineBreakAtoms⟩
        galleryDocument := by
  obtain ⟨uses, dialects⟩ := dialects_agree_elsewhere
  constructor
  · obtain ⟨-, -, texts⟩ := dialects Images.identity
    obtain ⟨-, places⟩ := (texts galleryText).2 galleryDocument parse_galleryText
    refine places 0 (.image "a.png") rfl ?_
    rintro ⟨name, listed, used⟩
    cases used
    exact absurd listed (by decide)
  · refine uses galleryDocument _ _ fun content listed => ⟨fun name used payload => ?_, ?_⟩
    · have other : "hr" ≠ name := by
        rcases List.mem_pair.mp listed with rfl | rfl
        · cases used
          decide
        · cases used with
          | card slot =>
              cases slot
              decide
      rw [cardResult?, cardResult?, catalog, Registry.get?_register, if_neg other]
    · exact fun name used value payload => rfl

end Cards
end BlogMigration
