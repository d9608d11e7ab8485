import BlogMigration.Cards.Catalog
import BlogMigration.Proofs.Mobiledoc.Edits
import BlogMigration.Proofs.Render.Nesting
import BlogMigration.Proofs.Render.Walker

/-!
# Isolation of sections

A document is rendered section by section, and no section has an influence on another one. A card,
an image or an atom that cannot be rendered leaves no trace: the document is rendered as if it were
not there, while the markups around a faulty atom open and close as ever.
-/

namespace BlogMigration
namespace Render

open Mobiledoc (Markup Marker Content Section Document OneReplaced OneInserted)

/-! ## Faults -/

/-- A section that cannot be rendered: a card without a slot, without a renderer or refused by its
renderer, or an image without a renderer or refused by it. -/
inductive Faulty (catalog : Catalog) (document : Document) : Section → Prop where
  | danglingCard {index : Nat} (dangling : document.cards[index]? = none) :
      Faulty catalog document (.card index)
  | unknownCard {index : Nat} {card : Mobiledoc.Card}
      (slot : document.cards[index]? = some card)
      (unknown : catalog.cards.get? card.name = none) :
      Faulty catalog document (.card index)
  | refusedCard {index : Nat} {card : Mobiledoc.Card} {renderer : CardRenderer}
      {error : RenderError}
      (slot : document.cards[index]? = some card)
      (known : catalog.cards.get? card.name = some renderer)
      (refused : renderer card.payload = .error error) :
      Faulty catalog document (.card index)
  | unknownImage {src : String} (unknown : catalog.cards.get? "image" = none) :
      Faulty catalog document (.image src)
  | refusedImage {src : String} {renderer : CardRenderer} {error : RenderError}
      (known : catalog.cards.get? "image" = some renderer)
      (refused : renderer (imagePayload src) = .error error) :
      Faulty catalog document (.image src)

/-- An atom that cannot be rendered: one without a slot, without a renderer or refused by its
renderer. -/
inductive FaultyAtom (catalog : Catalog) (document : Document) : Nat → Prop where
  | dangling {index : Nat} (dangling : document.atoms[index]? = none) :
      FaultyAtom catalog document index
  | unknown {index : Nat} {atom : Mobiledoc.Atom}
      (slot : document.atoms[index]? = some atom)
      (unknown : catalog.atoms.get? atom.name = none) :
      FaultyAtom catalog document index
  | refused {index : Nat} {atom : Mobiledoc.Atom} {renderer : AtomRenderer} {error : RenderError}
      (slot : document.atoms[index]? = some atom)
      (known : catalog.atoms.get? atom.name = some renderer)
      (refused : renderer atom.value atom.payload = .error error) :
      FaultyAtom catalog document index

/-- The marker of a faulty atom becomes that of an empty text, with the same markups. -/
inductive AtomEmptied (catalog : Catalog) (document : Document) : Marker → Marker → Prop where
  | intro {index : Nat} (opened : List Nat) (closed : Nat)
      (faulty : FaultyAtom catalog document index) :
      AtomEmptied catalog document ⟨.atom index, opened, closed⟩ ⟨.text "", opened, closed⟩

variable {catalog : Catalog} {document : Document}

theorem Faulty.renderSection_eq {content : Section} (faulty : Faulty catalog document content) :
    renderSection catalog document content = "" := by
  rw [renderSection_eq_sectionText]
  cases faulty with
  | danglingCard dangling => simp only [sectionText, dangling]
  | unknownCard slot unknown => simp only [sectionText, slot, renderCard, unknown]
  | refusedCard slot known refused =>
      simp only [sectionText, slot, renderCard, known, refused, outputOrNothing]
  | unknownImage unknown => simp only [sectionText, renderCard, unknown]
  | refusedImage known refused =>
      simp only [sectionText, renderCard, known, refused, outputOrNothing]

theorem FaultyAtom.renderContent_eq {index : Nat} (faulty : FaultyAtom catalog document index) :
    renderContent catalog document (.atom index) = "" := by
  cases faulty with
  | dangling dangling => simp only [renderContent, dangling]
  | unknown slot unknown => simp only [renderContent, slot, renderAtom, unknown]
  | refused slot known refused =>
      simp only [renderContent, slot, renderAtom, known, refused, outputOrNothing]

/-! ## Sections by themselves -/

def withSections (document : Document) (sections : List Section) : Document :=
  { document with sections := sections }

theorem renderDocument_withSections (sections : List Section) :
    renderDocument catalog (withSections document sections) =
      String.join (sections.map (renderSection catalog document)) := by
  have tables (content : Section) : renderSection catalog (withSections document sections) content =
      renderSection catalog document content := by
    rw [renderSection_eq_sectionText, renderSection_eq_sectionText]
    rfl
  rw [renderDocument_eq_join, fragments, funext tables]
  rfl

theorem renderDocument_append (front back : List Section) :
    renderDocument catalog (withSections document (front ++ back)) =
      renderDocument catalog (withSections document front) ++
        renderDocument catalog (withSections document back) := by
  simp only [renderDocument_withSections, List.map_append, String.join_append]

/-- A section without output may be left out. -/
theorem renderDocument_insert {old new : List Section}
    (edit : OneInserted (fun content => renderSection catalog document content = "") old new) :
    renderDocument catalog (withSections document new) =
      renderDocument catalog (withSections document old) := by
  cases edit with
  | @intro content front back silent =>
      simp only [renderDocument_withSections, List.map_append, List.map_cons, String.join_append,
        String.join_cons, silent, String.empty_append]

/-- An edit of a run that does not show in the run does not show in its section. -/
theorem renderSection_runEdited {Edited : List Marker → List Marker → Prop} {old new : Section}
    (same : ∀ before after, Edited before after →
      renderMarkers catalog document before = renderMarkers catalog document after)
    (edit : Section.RunEdited Edited old new) :
    renderSection catalog document old = renderSection catalog document new := by
  rw [renderSection_eq_sectionText, renderSection_eq_sectionText]
  cases edit with
  | markup tag edit => simp only [sectionText, same _ _ edit]
  | list tag edit => simp only [sectionText, edit.map_eq same]

theorem renderMarkers_atomEmptied {old new : List Marker}
    (edit : OneReplaced (AtomEmptied catalog document) old new) :
    renderMarkers catalog document old = renderMarkers catalog document new := by
  apply renderMarkers_congr
  apply edit.forall₂ (Alike.refl _ _)
  intro before after emptied
  cases emptied with
  | intro opened closed faulty => exact ⟨rfl, rfl, faulty.renderContent_eq⟩

/--
The output of a document is that of its sections, one after the other. A faulty section makes no
difference wherever it stands, and a faulty atom, in whatever section and run, is as good as an
empty text.
-/
theorem renderDocument_isolates (catalog : Catalog) (document : Document) :
    (∀ front back : List Section,
      renderDocument catalog (withSections document (front ++ back)) =
        renderDocument catalog (withSections document front) ++
          renderDocument catalog (withSections document back)) ∧
    (∀ old new : List Section, OneInserted (Faulty catalog document) old new →
      renderDocument catalog (withSections document new) =
        renderDocument catalog (withSections document old)) ∧
    ∀ old new : List Section,
      OneReplaced (Section.RunEdited (OneReplaced (AtomEmptied catalog document))) old new →
        renderDocument catalog (withSections document new) =
          renderDocument catalog (withSections document old) := by
  refine ⟨renderDocument_append, ?_, ?_⟩
  · intro old new edit
    cases edit with
    | intro front back faulty =>
        exact renderDocument_insert (.intro front back faulty.renderSection_eq)
  · intro old new edit
    have same : ∀ before after,
        Section.RunEdited (OneReplaced (AtomEmptied catalog document)) before after →
          renderSection catalog document before = renderSection catalog document after :=
      fun _ _ => renderSection_runEdited fun _ _ => renderMarkers_atomEmptied
    rw [renderDocument_withSections, renderDocument_withSections, edit.map_eq same]

/-- A document with a card that its renderer refuses and an atom without a slot. -/
def faultyDocument : Document where
  version := none
  markups := [⟨"strong", []⟩]
  atoms := []
  cards := [⟨"markdown", .null⟩]
  sections := []

/-- The refused card may be left out, and the atom without a slot is an empty text. -/
theorem renderDocument_isolates_refused :
    renderDocument (Cards.catalog .html Images.identity)
        (withSections faultyDocument [.image "a.png", .card 0]) =
      renderDocument (Cards.catalog .html Images.identity)
        (withSections faultyDocument [.image "a.png"]) ∧
    renderDocument (Cards.catalog .html Images.identity)
        (withSections faultyDocument [.list "ul" [[⟨.text "", [0], 1⟩]]]) =
      renderDocument (Cards.catalog .html Images.identity)
        (withSections faultyDocument [.list "ul" [[⟨.atom 7, [0], 1⟩]]]) := by
  have slot : faultyDocument.cards[0]? = some ⟨"markdown", .null⟩ := rfl
  have known : (Cards.catalog .html Images.identity).cards.get? "markdown" = some Cards.markdown :=
    rfl
  have refused := Faulty.refusedCard slot known rfl
  have dangling : FaultyAtom (Cards.catalog .html Images.identity) faultyDocument 7 :=
    .dangling rfl
  obtain ⟨-, sections, atoms⟩ :=
    renderDocument_isolates (Cards.catalog .html Images.identity) faultyDocument
  constructor
  · have inserted := OneInserted.intro [.image "a.png"] [] refused
    exact sections _ _ inserted
  · have run := OneReplaced.intro [] [] (AtomEmptied.intro [0] 1 dangling)
    have list := Section.RunEdited.list "ul" (OneReplaced.intro [] [] run)
    exact atoms _ _ (.intro [] [] list)

end Render
end BlogMigration
