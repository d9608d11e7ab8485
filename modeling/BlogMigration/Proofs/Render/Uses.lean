import BlogMigration.Proofs.Render.Nesting
import BlogMigration.Proofs.Render.Walker

/-!
# What documents use of catalogs

The sections of a document ask a catalog for the renderers of certain names: a card section for that
of its card, an image section for that of images, and the markers for those of their atoms. Catalogs
that answer alike under these names render a section, and so a document, alike.
-/

namespace BlogMigration
namespace Render

open Mobiledoc (Marker Content Section Document)

/-- What a registry of cards has for a payload under a name; nothing without a renderer. -/
def cardResult? (cards : CardRegistry) (name : String) (payload : Json) :
    Option (Except RenderError String) :=
  (cards.get? name).map fun renderer => renderer payload

/-- What a registry of atoms has for a value and a payload under a name. -/
def atomResult? (atoms : AtomRegistry) (name value : String) (payload : Json) :
    Option (Except RenderError String) :=
  (atoms.get? name).map fun renderer => renderer value payload

def runsOf : Section → List (List Marker)
  | .markup _ markers => [markers]
  | .list _ items => items
  | .image _ => []
  | .card _ => []

/-- A section asks for the renderer of a name of cards. -/
inductive UsesCard (document : Document) : Section → String → Prop where
  | card {index : Nat} {card : Mobiledoc.Card} (slot : document.cards[index]? = some card) :
      UsesCard document (.card index) card.name
  | image (src : String) : UsesCard document (.image src) "image"

/-- A section asks for the renderer of a name of atoms. -/
inductive UsesAtom (document : Document) (content : Section) : String → Prop where
  | marker {run : List Marker} {marker : Marker} {index : Nat} {atom : Mobiledoc.Atom}
      (held : run ∈ runsOf content) (member : marker ∈ run) (shows : marker.content = .atom index)
      (slot : document.atoms[index]? = some atom) : UsesAtom document content atom.name

/-- Two catalogs have the same results, whatever the payload is, under the names that a section asks
for. -/
structure AgreeOn (document : Document) (content : Section) (left right : Catalog) : Prop where
  cards : ∀ name, UsesCard document content name → ∀ payload,
    cardResult? left.cards name payload = cardResult? right.cards name payload
  atoms : ∀ name, UsesAtom document content name → ∀ value payload,
    atomResult? left.atoms name value payload = atomResult? right.atoms name value payload

variable {document : Document} {content : Section} {left right : Catalog}

/-! ## Results -/

theorem renderCard_eq_result (cards : CardRegistry) (name : String) (payload : Json) :
    renderCard cards name payload =
      ((cardResult? cards name payload).map outputOrNothing).getD "" := by
  rw [renderCard, cardResult?]
  cases cards.get? name <;> rfl

theorem renderAtom_eq_result (atoms : AtomRegistry) (name value : String) (payload : Json) :
    renderAtom atoms name value payload =
      ((atomResult? atoms name value payload).map outputOrNothing).getD "" := by
  rw [renderAtom, atomResult?]
  cases atoms.get? name <;> rfl

/-! ## Sections -/

theorem AgreeOn.renderCard_eq (agree : AgreeOn document content left right) {name : String}
    (uses : UsesCard document content name) (payload : Json) :
    renderCard left.cards name payload = renderCard right.cards name payload := by
  rw [renderCard_eq_result, renderCard_eq_result, agree.cards name uses]

theorem AgreeOn.renderContent_eq (agree : AgreeOn document content left right)
    {run : List Marker} {marker : Marker} (held : run ∈ runsOf content) (member : marker ∈ run) :
    renderContent left document marker.content = renderContent right document marker.content := by
  cases shows : marker.content with
  | text value => rfl
  | atom index =>
      rw [renderContent, renderContent]
      cases slot : document.atoms[index]? with
      | none => rfl
      | some atom =>
          have same := agree.atoms atom.name (.marker held member shows slot)
          simp only [renderAtom_eq_result, same]

theorem AgreeOn.renderMarkers_eq (agree : AgreeOn document content left right)
    {run : List Marker} (held : run ∈ runsOf content) :
    renderMarkers left document run = renderMarkers right document run := by
  apply renderMarkers_congr
  exact List.forall₂_same.mpr fun marker member =>
    ⟨rfl, rfl, agree.renderContent_eq held member⟩

/-- Catalogs that agree on a section render it alike. -/
theorem AgreeOn.renderSection_eq (agree : AgreeOn document content left right) :
    renderSection left document content = renderSection right document content := by
  rw [renderSection_eq_sectionText, renderSection_eq_sectionText]
  cases content with
  | markup tag markers =>
      simp only [sectionText, agree.renderMarkers_eq (List.mem_singleton.mpr rfl)]
  | image src => exact agree.renderCard_eq (.image src) _
  | list tag items =>
      have same : items.map (renderMarkers left document) =
          items.map (renderMarkers right document) :=
        List.map_congr_left fun run held => agree.renderMarkers_eq held
      simp only [sectionText, same]
  | card index =>
      rw [sectionText, sectionText]
      cases slot : document.cards[index]? with
      | none => rfl
      | some card => exact agree.renderCard_eq (.card slot) _

/-! ## Documents -/

/-- Catalogs that agree on all sections of a document render it alike. -/
theorem renderDocument_congr
    (agree : ∀ content ∈ document.sections, AgreeOn document content left right) :
    renderDocument left document = renderDocument right document := by
  have same : fragments left document = fragments right document :=
    List.map_congr_left fun content listed => (agree content listed).renderSection_eq
  rw [renderDocument_eq_join, renderDocument_eq_join, same]

end Render
end BlogMigration
