import BlogMigration.Render.Document

/-!
# Walks through documents

Whatever a walk has put out stays at the front of its output. A visit only adds the text of its
section, which does not depend on what was put out before, so that a document is rendered as the
texts of its sections one after the other.
-/

namespace BlogMigration
namespace Render

open Mobiledoc (Marker Section Document)

/-! ## Texts of sections -/

def renderBlock (tag text : String) : String :=
  let marked :=
    if isQuotation tag then "> " ++ Text.expand quotedLineChar text
    else
      match headingLevel? tag with
      | some level => String.ofList (List.replicate level '#') ++ " " ++ text
      | none => text
  marked ++ "\n\n"

/-- The items of a list, numbered from `number` on. -/
def renderItems (tag : String) (number : Nat) : List String → String
  | [] => ""
  | text :: rest => itemMark tag number ++ text ++ "\n" ++ renderItems tag (number + 1) rest

/-- The text that a section adds to the output. -/
def sectionText (catalog : Catalog) (document : Document) : Section → String
  | .markup tag markers => renderBlock tag (renderMarkers catalog document markers)
  | .image src => renderCard catalog.cards "image" (imagePayload src)
  | .list tag items => renderItems tag 1 (items.map (renderMarkers catalog document)) ++ "\n"
  | .card index =>
    match document.cards[index]? with
    | some card => renderCard catalog.cards card.name card.payload
    | none => ""

/-! ## Visits -/

namespace Walker

@[simp] theorem push_empty (walker : Walker) : walker.push "" = walker := by
  simp [push]

@[simp] theorem push_push (walker : Walker) (first second : String) :
    (walker.push first).push second = walker.push (first ++ second) := by
  simp [push, String.append_assoc]

theorem visitMarkup_eq (walker : Walker) (tag : String) (markers : List Marker) :
    walker.visitMarkup tag markers =
      walker.push (renderBlock tag (renderMarkers walker.catalog walker.document markers)) := by
  rw [visitMarkup, renderBlock]
  split
  · simp
  · cases headingLevel? tag with
    | none => simp
    | some level => simp [String.append_assoc]

/-- Neither the catalog nor the document changes while the items are put out. -/
theorem visitItems_eq (walker : Walker) (tag : String) (number : Nat)
    (items : List (List Marker)) :
    walker.visitItems tag number items =
      walker.push (renderItems tag number
        (items.map (renderMarkers walker.catalog walker.document))) := by
  induction items generalizing number walker with
  | nil => exact walker.push_empty.symm
  | cons item rest ih =>
      rw [visitItems, ih, List.map_cons, renderItems]
      simp only [push_push, String.append_assoc]
      rfl

theorem visit_eq_push (walker : Walker) (content : Section) :
    walker.visit content = walker.push (sectionText walker.catalog walker.document content) := by
  cases content with
  | markup tag markers => exact walker.visitMarkup_eq tag markers
  | image src => rfl
  | list tag items => rw [visit, visitItems_eq, push_push, sectionText]
  | card index =>
      rw [visit, visitCard, sectionText]
      cases walker.document.cards[index]? with
      | none => exact walker.push_empty.symm
      | some card => rfl

end Walker

theorem renderSection_eq_sectionText (catalog : Catalog) (document : Document) (content : Section) :
    renderSection catalog document content = sectionText catalog document content := by
  rw [renderSection, Walker.visit_eq_push]
  exact String.empty_append

/-- A visit adds what its section renders as by itself to the output, and does nothing else. -/
theorem Walker.visit_eq (walker : Walker) (content : Section) :
    walker.visit content =
      walker.push (renderSection walker.catalog walker.document content) := by
  rw [visit_eq_push, renderSection_eq_sectionText]

/-! ## Walks -/

/-- A walk adds what its sections render as to the output, in their order. -/
theorem Walker.visitAll_eq (walker : Walker) (sections : List Section) :
    walker.visitAll sections = walker.push
      (String.join (sections.map (renderSection walker.catalog walker.document))) := by
  induction sections generalizing walker with
  | nil => exact walker.push_empty.symm
  | cons content rest ih =>
      have later : walker.visitAll (content :: rest) = (walker.visit content).visitAll rest := rfl
      rw [later, ih, visit_eq, push_push, List.map_cons, String.join_cons]
      rfl

/-- The outputs of the sections of a document, in order. -/
def fragments (catalog : Catalog) (document : Document) : List String :=
  document.sections.map (renderSection catalog document)

theorem renderDocument_eq_join (catalog : Catalog) (document : Document) :
    renderDocument catalog document = String.join (fragments catalog document) := by
  rw [renderDocument, Walker.visitAll_eq]
  exact String.empty_append

end Render
end BlogMigration
