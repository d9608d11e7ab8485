import BlogMigration.Cards.Catalog
import BlogMigration.Proofs.Mobiledoc.Edits
import BlogMigration.Proofs.Mobiledoc.Layout
import BlogMigration.Proofs.Render.Walker

/-!
# Slots of documents

Reading a document is never stopped by an entry. An entry of a table keeps its slot, so that the
other indexes stay valid, while a section or a marker of the wrong shape is left out and changes
nothing for the others. The catalogs of both dialects show nothing for a slot without a name.
-/

namespace BlogMigration
namespace Mobiledoc

open Render (renderSection renderContent)
open Images (Normalizer)

/-! ## Tables -/

/-- An entry of a table of cards or atoms that is no array or has no name. -/
def Nameless (entry : Json) : Prop :=
  ∀ items name, entry = .array items → items[0]? ≠ some (.string name)

theorem stringItem?_of_nameless {entry : Json} (nameless : Nameless entry) :
    stringItem? 0 entry = none := by
  cases entry with
  | array items =>
      rw [Option.eq_none_iff_forall_ne_some]
      intro name found
      exact nameless items name rfl ((stringItem?_eq_some_iff items 0 name).mp found)
  | _ => rfl

theorem Card.decode_of_nameless {entry : Json} (nameless : Nameless entry) :
    Card.decode entry = .blank := by
  rw [Card.decode, stringItem?_of_nameless nameless]

theorem Atom.decode_of_nameless {entry : Json} (nameless : Nameless entry) :
    Atom.decode entry = .blank := by
  rw [Atom.decode, stringItem?_of_nameless nameless]

/-- No dialect has a renderer for cards without a name. -/
theorem catalog_cards_get?_empty (dialect : Cards.Dialect) (normalize : Normalizer) :
    (Cards.catalog dialect normalize).cards.get? "" = none := by
  cases dialect <;>
    simp [Cards.catalog, Cards.shortcodeCards, Cards.htmlCards, Render.Registry.ofList,
      Render.Registry.get?_register]

theorem catalog_atoms_get?_empty (dialect : Cards.Dialect) (normalize : Normalizer) :
    (Cards.catalog dialect normalize).atoms.get? "" = none := by
  cases dialect <;>
    simp [Cards.catalog, Cards.lineBreakAtoms, Render.Registry.ofList,
      Render.Registry.get?_register]

theorem renderSection_blankCard {document : Document} {index : Nat}
    (slot : document.cards[index]? = some .blank) (dialect : Cards.Dialect)
    (normalize : Normalizer) :
    renderSection (Cards.catalog dialect normalize) document (.card index) = "" := by
  rw [Render.renderSection_eq_sectionText]
  simp only [Render.sectionText, slot, Render.renderCard, Card.blank, catalog_cards_get?_empty]

theorem renderContent_blankAtom {document : Document} {index : Nat}
    (slot : document.atoms[index]? = some .blank) (dialect : Cards.Dialect)
    (normalize : Normalizer) :
    renderContent (Cards.catalog dialect normalize) document (.atom index) = "" := by
  simp only [renderContent, slot, Render.renderAtom, Atom.blank, catalog_atoms_get?_empty]

/-- A list has one run for each of its items. -/
theorem runs_of_list {items entries : List Json} {tag : String} {runs : List (List Marker)}
    (decoded : Section.decode? (.array items) = some (.list tag runs))
    (place : items[2]? = some (.array entries)) :
    List.Forall₂ (fun entry => RunReads (some entry)) entries runs := by
  have reads := (Section.decode?_eq_some_iff _ _).mp decoded
  cases reads with
  | list kind tagged each =>
      rw [place] at each
      cases each with
      | array each => exact each
      | other noArray => exact absurd rfl (noArray entries)

/-! ## Stray entries -/

namespace Outline

/-- An entry that cannot be read is put among the sections, or among the markers of one run. -/
inductive GainsStray : Outline → Outline → Prop where
  | entry {old new : List Json} (outline : Outline) (edit : OneInserted Section.Stray old new) :
      GainsStray { outline with sections := some old } { outline with sections := some new }
  | marker {old new : List Json} (outline : Outline)
      (edit : OneReplaced (EntriesEdited (OneInserted Marker.Stray)) old new) :
      GainsStray { outline with sections := some old } { outline with sections := some new }

end Outline

/-- A section is read as before when one of its runs gains a stray entry. -/
theorem decode?_of_strayMarker {old new : Json}
    (edit : EntriesEdited (OneInserted Marker.Stray) old new) :
    Section.decode? old = Section.decode? new := by
  have run (x y : List Json) (inserted : OneInserted Marker.Stray x y) :
      decodeMarkers x = decodeMarkers y :=
    inserted.filterMap_eq fun _ => eq_none_of_unread Marker.decode?_eq_some_iff
  exact eq_of_rel (fun _ _ edited => edited.eq_of_eq) (edit.decode? run)

theorem toDocument_of_gainsStray {old new : Outline} (gains : old.GainsStray new) :
    old.toDocument = new.toDocument := by
  cases gains with
  | entry outline edit =>
      have same := edit.filterMap_eq fun _ => eq_none_of_unread Section.decode?_eq_some_iff
      simp only [Outline.toDocument, same]
  | marker outline edit =>
      have same := edit.filterMap_eq fun _ _ edited => decode?_of_strayMarker edited
      simp only [Outline.toDocument, same]

/-! ## Reading documents -/

/--
Every text with a top level that lists sections is read as a document. Each slot of its tables is
read from the entry of the same index alone, and a slot without a name is the blank one and is
shown as nothing. The sections, and within them the markers of each run, are those of the entries
that have the layout, in order; a list keeps one run for each of its items. A stray entry more or
less does not change the document.
-/
theorem parse_keeps_slots {source : String} {outline : Outline} {sections : List Json}
    (found : Outline.parse? source = some outline) (listed : outline.sections = some sections) :
    ∃ document, Document.parse source = .ok document ∧
      document.markups.length = outline.markups.length ∧
      document.atoms.length = outline.atoms.length ∧
      document.cards.length = outline.cards.length ∧
      (∀ index : Nat,
        document.markups[index]? = outline.markups[index]?.map Markup.decode ∧
        document.atoms[index]? = outline.atoms[index]?.map Atom.decode ∧
        document.cards[index]? = outline.cards[index]?.map Card.decode) ∧
      (∀ (index : Nat) (entry : Json), outline.cards[index]? = some entry → Nameless entry →
        document.cards[index]? = some .blank ∧
        ∀ dialect normalize,
          renderSection (Cards.catalog dialect normalize) document (.card index) = "") ∧
      (∀ (index : Nat) (entry : Json), outline.atoms[index]? = some entry → Nameless entry →
        document.atoms[index]? = some .blank ∧
        ∀ dialect normalize,
          renderContent (Cards.catalog dialect normalize) document (.atom index) = "") ∧
      Picks Section.Reads sections document.sections ∧
      (∀ (items entries : List Json) (tag : String) (runs : List (List Marker)),
        Section.decode? (.array items) = some (.list tag runs) →
          items[2]? = some (.array entries) →
          runs.length = entries.length ∧
          List.Forall₂ (fun entry => RunReads (some entry)) entries runs) ∧
      ∀ (other : String) (changed : Outline), Outline.parse? other = some changed →
        outline.GainsStray changed → Document.parse other = .ok document := by
  have read := parse_of_outline found
  simp only [Outline.toDocument, listed] at read
  refine ⟨_, read, List.length_map _, List.length_map _, List.length_map _, ?_, ?_, ?_, ?_, ?_, ?_⟩
  · intro index
    exact ⟨List.getElem?_map, List.getElem?_map, List.getElem?_map⟩
  · intro index entry place nameless
    have slot : (outline.cards.map Card.decode)[index]? = some Card.blank := by
      rw [List.getElem?_map, place, Option.map_some, Card.decode_of_nameless nameless]
    exact ⟨slot, renderSection_blankCard slot⟩
  · intro index entry place nameless
    have slot : (outline.atoms.map Atom.decode)[index]? = some Atom.blank := by
      rw [List.getElem?_map, place, Option.map_some, Atom.decode_of_nameless nameless]
    exact ⟨slot, renderContent_blankAtom slot⟩
  · exact picks_filterMap Section.decode?_eq_some_iff sections
  · intro items entries tag runs decoded place
    have each := runs_of_list decoded place
    exact ⟨each.length_eq.symm, each⟩
  · intro other changed parsed gains
    rw [parse_of_outline parsed, ← toDocument_of_gainsStray gains, ← parse_of_outline found, read]

/-- The text of a document with a card of the wrong shape and a paragraph of the given entries. -/
def malformedText (entries : String) : String :=
  "\x7b\"cards\":[0,[\"hr\"]],\"sections\":[[10,0],[1,\"p\",[" ++ entries ++ "]]]\x7d"

/-- The top level of that text. -/
def malformed (entries : List Json) : Outline where
  version := none
  markups := []
  atoms := []
  cards := [.integer 0, .array [.string "hr"]]
  sections := some [.array [.integer 10, .integer 0],
    .array [.integer 1, .string "p", .array entries]]

/-- The malformed card keeps its slot, and a stray marker does not change the document. -/
theorem parse_keeps_slots_malformed :
    ∃ document,
      Document.parse (malformedText "") = .ok document ∧
      document.cards.length = 2 ∧
      document.cards[0]? = some .blank ∧
      Document.parse (malformedText "9") = .ok document := by
  have found : Outline.parse? (malformedText "") = some (malformed []) := rfl
  have changed : Outline.parse? (malformedText "9") = some (malformed [.integer 9]) := rfl
  have nameless : Nameless (.integer 0) := by
    intro items name same
    cases same
  have stray : Marker.Stray (.integer 9) := by
    intro marker read
    cases read
  have edit : EntriesEdited (OneInserted Marker.Stray)
      (.array [.integer 1, .string "p", .array []])
      (.array [.integer 1, .string "p", .array [.integer 9]]) :=
    .markup rfl rfl (.intro [] [] stray)
  have replaced := OneReplaced.intro [.array [.integer 10, .integer 0]] [] edit
  obtain ⟨document, parsed, -, -, cardCount, -, cardSlots, -, -, -, strays⟩ :=
    parse_keeps_slots found rfl
  refine ⟨document, parsed, cardCount, (cardSlots 0 _ rfl nameless).1, ?_⟩
  exact strays _ _ changed (.marker (malformed []) replaced)

end Mobiledoc
end BlogMigration
