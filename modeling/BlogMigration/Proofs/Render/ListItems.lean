import BlogMigration.Cards.Catalog
import BlogMigration.Proofs.Render.Nesting
import BlogMigration.Proofs.Render.Walker
import BlogMigration.Proofs.Text.Lines

/-!
# Items of lists

A list is printed item by item, each behind its mark and ended by a line feed, and an empty line
ends the list. The text of an item is taken over as it is. The delimiters of its inline formats have
no line feeds, whatever the destination of a link is, but its contents may have: as characters of a
text, or as the line break that an atom is rendered as. Such an item takes more than one line.
-/

namespace BlogMigration
namespace Render

open Mobiledoc (Markup Marker Content Section Atom Document)
open Images (Normalizer)

/-- A content that is shown with a line feed: a text that has one, or an atom for a line break. -/
inductive BreaksLine (document : Document) : Content → Prop where
  | text {value : String} (feed : '\n' ∈ value.toList) : BreaksLine document (.text value)
  | atom {index : Nat} {atom : Atom} (slot : document.atoms[index]? = some atom)
      (kind : atom.name = "soft-break" ∨ atom.name = "soft-return") :
      BreaksLine document (.atom index)

/-- An output shows texts as a list: a line for each of them, which starts with the mark of the tag,
and an empty line. -/
structure OneLineEach (tag : String) (texts : List String) (output : String) : Prop where
  feeds : output.toList.count '\n' = texts.length + 1
  line : ∀ (place : Nat) (text : String), texts[place]? = some text →
    (Text.lines output.toList)[place]? =
      some ((if tag = "ol" then toString (place + 1) ++ ". " else "- ") ++ text).toList
  ended : (Text.lines output.toList).drop texts.length = [[], []]

/-! ## Delimiters -/

namespace Inline

theorem feed_not_mem_openTag (tag : String) : '\n' ∉ (openTag tag).toList := by
  unfold openTag
  split <;> decide

theorem feed_not_mem_bracketedChar (c : Char) : '\n' ∉ bracketedChar c := by
  unfold bracketedChar
  split
  · decide
  · decide
  · decide
  · decide
  · decide
  · next feed _ =>
      rw [List.mem_singleton]
      exact fun same => feed same.symm

/-- A destination with a line feed is put in brackets, where its characters are escaped. -/
theorem feed_not_mem_destination (href : String) : '\n' ∉ (destination href).toList := by
  unfold destination
  split
  · simp only [String.toList_append, Text.toList_expand, List.mem_append, List.mem_flatMap, not_or,
      not_exists, not_and]
    exact ⟨⟨by decide, fun c _ => feed_not_mem_bracketedChar c⟩, by decide⟩
  · next bare =>
      intro feed
      exact bare (List.any_eq_true.mpr ⟨'\n', feed, by decide⟩)

theorem feed_not_mem_closing (markup : Markup) : '\n' ∉ (closing markup).toList := by
  unfold closing
  split
  · simp only [String.toList_append, List.mem_append, not_or]
    exact ⟨⟨by decide, feed_not_mem_destination _⟩, by decide⟩
  · decide
  · decide
  · decide
  · exact feed_not_mem_openTag markup.tag

end Inline

/-! ## Texts of items -/

theorem feed_mem_textOfEvents_iff (events : List Event) :
    '\n' ∈ (textOfEvents events).toList ↔ ∃ text, .shows text ∈ events ∧ '\n' ∈ text.toList := by
  simp only [textOfEvents, String.toList_join, List.mem_flatMap, List.mem_map]
  constructor
  · rintro ⟨-, ⟨event, member, rfl⟩, feed⟩
    cases event with
    | opens markup => exact absurd feed (Inline.feed_not_mem_openTag markup.tag)
    | shows text => exact ⟨text, member, feed⟩
    | closes markup => exact absurd feed (Inline.feed_not_mem_closing markup)
  · rintro ⟨text, member, feed⟩
    exact ⟨text, ⟨.shows text, member, rfl⟩, feed⟩

theorem shows_mem_trace_iff {markups : List Markup} {textOf : Content → String}
    {markers : List Marker} {text : String} :
    .shows text ∈ trace markups textOf [] markers ↔
      ∃ marker ∈ markers, textOf marker.content = text := by
  have kept : .shows text ∈ (trace markups textOf [] markers).filter Event.isContent ↔
      .shows text ∈ trace markups textOf [] markers := by
    rw [List.mem_filter]
    exact and_iff_left rfl
  rw [← kept, filter_isContent_trace]
  simp

theorem catalog_atoms_get? (dialect : Cards.Dialect) (normalize : Normalizer) (name : String) :
    (Cards.catalog dialect normalize).atoms.get? name =
      if name = "soft-break" ∨ name = "soft-return" then some Cards.lineBreak else none := by
  cases dialect <;>
    by_cases soft : name = "soft-break" <;> by_cases last : name = "soft-return" <;>
    simp [Cards.catalog, Cards.lineBreakAtoms, Registry.ofList, Registry.get?_register, soft, last,
      eq_comm]

variable (dialect : Cards.Dialect) (normalize : Normalizer) (document : Document)

theorem feed_mem_renderContent_iff (content : Content) :
    '\n' ∈ (renderContent (Cards.catalog dialect normalize) document content).toList ↔
      BreaksLine document content := by
  cases content with
  | text value => exact ⟨.text, fun | .text feed => feed⟩
  | atom index =>
      constructor
      · intro feed
        rw [renderContent] at feed
        split at feed
        · next atom slot =>
            rw [renderAtom, catalog_atoms_get?] at feed
            by_cases kind : atom.name = "soft-break" ∨ atom.name = "soft-return"
            · exact .atom slot kind
            · simp [kind] at feed
        · simp at feed
      · rintro (_ | ⟨slot, kind⟩)
        simp [renderContent, slot, renderAtom, catalog_atoms_get?, kind, Cards.lineBreak,
          outputOrNothing]

/-- The text of an item has a line feed if one of its contents has. -/
theorem feed_mem_renderMarkers_iff (markers : List Marker) :
    '\n' ∈ (renderMarkers (Cards.catalog dialect normalize) document markers).toList ↔
      ∃ marker ∈ markers, BreaksLine document marker.content := by
  rw [renderMarkers, renderRun, feed_mem_textOfEvents_iff]
  simp only [shows_mem_trace_iff, ← feed_mem_renderContent_iff dialect normalize]
  constructor
  · rintro ⟨-, ⟨marker, member, rfl⟩, feed⟩
    exact ⟨marker, member, feed⟩
  · rintro ⟨marker, member, feed⟩
    exact ⟨_, ⟨marker, member, rfl⟩, feed⟩

/-! ## Lists -/

theorem feed_not_mem_itemMark (tag : String) (number : Nat) :
    '\n' ∉ (itemMark tag number).toList := by
  unfold itemMark
  split
  · rw [String.toList_append, List.mem_append, not_or]
    refine ⟨fun feed => ?_, by decide⟩
    rw [Nat.toString_eq_repr, Nat.toList_repr] at feed
    exact absurd (Nat.isDigit_of_mem_toDigits (by decide) (by decide) feed) (by decide)
  · decide

/-- The lines of items as they are meant, each with the text of its item. -/
def itemLines (tag : String) (number : Nat) (texts : List String) : List (List Char) :=
  texts.mapIdx fun place text => (itemMark tag (number + place)).toList ++ text.toList

theorem toList_renderItems (tag : String) (number : Nat) (texts : List String) :
    (renderItems tag number texts).toList = Text.unlines (itemLines tag number texts) := by
  induction texts generalizing number with
  | nil => rfl
  | cons text rest ih =>
      have later : itemLines tag number (text :: rest) =
          ((itemMark tag number).toList ++ text.toList) :: itemLines tag (number + 1) rest := by
        simp [itemLines, List.mapIdx_cons, Nat.add_assoc, Nat.add_comm 1]
      rw [renderItems, String.toList_append, ih, later]
      simp [Text.unlines]

theorem single_itemLines_iff (tag : String) (number : Nat) (texts : List String) :
    (∀ line ∈ itemLines tag number texts, '\n' ∉ line) ↔ ∀ text ∈ texts, '\n' ∉ text.toList := by
  simp only [itemLines, List.mem_mapIdx]
  constructor
  · intro each text member feed
    obtain ⟨place, bound, rfl⟩ := List.mem_iff_getElem.mp member
    exact each _ ⟨place, bound, rfl⟩ (List.mem_append_right _ feed)
  · rintro each - ⟨place, bound, rfl⟩
    rw [List.mem_append, not_or]
    exact ⟨feed_not_mem_itemMark tag _, each _ (List.getElem_mem bound)⟩

/-- The lines of a list, the last of which is empty, are ended by a line feed each. -/
theorem toList_list (tag : String) (texts : List String) :
    (renderItems tag 1 texts ++ "\n").toList = Text.unlines (itemLines tag 1 texts ++ [[]]) := by
  rw [String.toList_append, toList_renderItems, Text.unlines, Text.unlines, List.flatMap_append]
  rfl

/-- Items are shown in a line each exactly when no text of them has a line feed. -/
theorem oneLineEach_iff (tag : String) (texts : List String) :
    OneLineEach tag texts (renderItems tag 1 texts ++ "\n") ↔
      ∀ text ∈ texts, '\n' ∉ text.toList := by
  have length : (itemLines tag 1 texts).length = texts.length := List.length_mapIdx
  have single : (∀ line ∈ itemLines tag 1 texts ++ [[]], '\n' ∉ line) ↔
      ∀ text ∈ texts, '\n' ∉ text.toList := by
    rw [List.forall_mem_append, single_itemLines_iff]
    exact and_iff_left (by simp)
  rw [← single]
  constructor
  · intro each
    -- A line feed within a line makes more line feeds than lines.
    rw [← Text.count_feed_unlines_eq_length_iff, ← toList_list, each.feeds]
    simp [length]
  · intro single
    have cut : Text.lines (renderItems tag 1 texts ++ "\n").toList =
        itemLines tag 1 texts ++ [[], []] := by
      rw [toList_list, Text.lines_unlines single, List.append_assoc]
      rfl
    constructor
    · rw [toList_list, (Text.count_feed_unlines_eq_length_iff _).mpr single]
      simp [length]
    · intro place text found
      have bound : place < texts.length := (List.getElem?_eq_some_iff.mp found).1
      rw [cut, List.getElem?_append_left (length ▸ bound), itemLines, List.getElem?_mapIdx, found,
        String.toList_append, Nat.add_comm 1]
      rfl
    · rw [cut, List.drop_left' length]

/--
A list section is printed in one line for each item, which starts with the number or the dash of the
item and goes on with the rendering of it, and an empty line, exactly when no content of an item is
shown with a line feed. A content with a line feed continues its item in a line without a mark.
-/
theorem renderSection_list_oneLineEach_iff (tag : String) (items : List (List Marker)) :
    let catalog := Cards.catalog dialect normalize
    OneLineEach tag (items.map (renderMarkers catalog document))
        (renderSection catalog document (.list tag items)) ↔
      ∀ item ∈ items, ∀ marker ∈ item, ¬ BreaksLine document marker.content := by
  intro catalog
  rw [renderSection_eq_sectionText, sectionText, oneLineEach_iff, List.forall_mem_map]
  refine forall₂_congr fun item _ => ?_
  rw [feed_mem_renderMarkers_iff, not_exists]
  exact forall_congr' fun marker => not_and

/-- Two texts with a line break between them. -/
def brokenItem : List Marker :=
  [⟨.text "a", [], 0⟩, ⟨.atom 0, [], 0⟩, ⟨.text "b", [], 0⟩]

def brokenList : Document where
  version := none
  markups := []
  atoms := [⟨"soft-return", "", .object []⟩]
  cards := []
  sections := [.list "ul" [brokenItem]]

/-- The item goes on behind the line break, in a line without a dash. -/
theorem brokenList_takes_two_lines :
    let catalog := Cards.catalog .html Images.identity
    let output := renderSection catalog brokenList (.list "ul" [brokenItem])
    output = "- a\nb\n\n" ∧
      ¬ OneLineEach "ul" [renderMarkers catalog brokenList brokenItem] output := by
  intro catalog output
  have shown : output = "- a\nb\n\n" := by decide
  refine ⟨shown, fun each => ?_⟩
  have feeds := each.feeds
  rw [shown] at feeds
  exact absurd feeds (by decide)

end Render
end BlogMigration
