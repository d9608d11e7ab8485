import BlogMigration.Proofs.Mobiledoc.Layout
import BlogMigration.Proofs.Render.Isolation

/-!
# References that do not resolve

An index without a markup takes a place on the stack of open markups, so that the counts of closed
markups still refer to the right ones. An entry that is no index at all takes none. One such entry
may stand for another exactly when both are indexes or neither is, or when one of them is the index
0, which is without a markup only where there are no markups at all.
-/

namespace BlogMigration
namespace Render

open Mobiledoc (Markup Marker Content Section Document Outline IsNatural OneReplaced EntriesEdited
  decodeMarkers)

/-- The output of the document that an outline holds, if it holds one. -/
def renderOutline (catalog : Catalog) (outline : Outline) : String :=
  match outline.toDocument with
  | .ok document => renderDocument catalog document
  | .error _ => ""

theorem renderSource_of_outline {source : String} {outline : Outline}
    (found : Outline.parse? source = some outline) (catalog : Catalog) :
    renderSource catalog source = renderOutline catalog outline := by
  have parsed := Mobiledoc.parse_of_outline found
  cases held : outline.toDocument with
  | ok document => simp only [renderSource, renderOutline, parsed, held]
  | error reason => simp only [renderSource, renderOutline, parsed, held]

/-- An entry that stands for no markup of a table of the given size. -/
def Unresolved (size : Nat) (entry : Json) : Prop :=
  ∀ index, IsNatural entry index → size ≤ index

/-- One entry of the opened markups of a marker is exchanged for another. -/
inductive ReferenceReplaced (old new : Json) : Json → Json → Prop where
  | intro {items : List Json} (front back : List Json)
      (place : items[1]? = some (.array (front ++ old :: back))) :
      ReferenceReplaced old new (.array items)
        (.array (items.set 1 (.array (front ++ new :: back))))

/-- One entry of the opened markups of one marker in the body is exchanged for another. -/
inductive Exchanges (old new : Json) : Outline → Outline → Prop where
  | intro {before after : List Json} (outline : Outline)
      (edit : OneReplaced (EntriesEdited (OneReplaced (ReferenceReplaced old new)))
        before after) :
      Exchanges old new { outline with sections := some before }
        { outline with sections := some after }

/-- Entries that may stand for each other wherever neither resolves. -/
def Interchangeable (old new : Json) : Prop :=
  (old.natural?.isSome ↔ new.natural?.isSome) ∨ IsNatural old 0 ∨ IsNatural new 0

/-! ## Markers with one reference exchanged -/

/-- Two markers that differ in one place of their opened markups, which holds an index or is
missing. -/
inductive PlaceReplaced (old new : Option Nat) : Marker → Marker → Prop where
  | intro (content : Content) (front back : List Nat) (closed : Nat) :
      PlaceReplaced old new ⟨content, front ++ old.toList ++ back, closed⟩
        ⟨content, front ++ new.toList ++ back, closed⟩

theorem PlaceReplaced.content_eq {old new : Option Nat} {before after : Marker}
    (replaced : PlaceReplaced old new before after) : before.content = after.content := by
  cases replaced with
  | intro content front back closed => rfl

theorem filterMap_natural? (front back : List Json) (entry : Json) :
    (front ++ entry :: back).filterMap Json.natural? =
      front.filterMap Json.natural? ++ entry.natural?.toList ++
        back.filterMap Json.natural? := by
  cases found : entry.natural? <;> simp [found]

theorem decode?_replaced {old new before after : Json}
    (replaced : ReferenceReplaced old new before after) :
    Option.Rel (PlaceReplaced old.natural? new.natural?)
      (Marker.decode? before) (Marker.decode? after) := by
  cases replaced with
  | @intro items front back place =>
      have bound : 1 < items.length := (List.getElem?_eq_some_iff.mp place).1
      have other (index : Nat) (apart : 1 ≠ index) (entry : Json) :
          (Json.array (items.set 1 entry)).item? index = (Json.array items).item? index :=
        List.getElem?_set_ne apart
      have content : Content.decode? (.array (items.set 1 (.array (front ++ new :: back)))) =
          Content.decode? (.array items) := by
        simp only [Content.decode?, Mobiledoc.naturalItem?, Mobiledoc.stringItem?,
          other 0 (by decide), other 3 (by decide)]
      have opened : Mobiledoc.itemsItem 1 (.array items) = front ++ old :: back := by
        simp [Mobiledoc.itemsItem, Json.item?, place, Json.array?]
      have openedAfter : Mobiledoc.itemsItem 1
          (.array (items.set 1 (.array (front ++ new :: back)))) = front ++ new :: back := by
        simp [Mobiledoc.itemsItem, Json.item?, List.getElem?_set_self bound, Json.array?]
      rw [Marker.decode?, Marker.decode?, content, opened, openedAfter, filterMap_natural?,
        filterMap_natural?]
      simp only [Mobiledoc.naturalItem?, other 2 (by decide)]
      cases Content.decode? (.array items) with
      | none => exact .none
      | some content => exact .some (.intro content _ _ _)

/-- Markers that are read one by one from edited entries are related if the edited ones are. -/
theorem forall₂_decodeMarkers {Replaced : Json → Json → Prop} {Related : Marker → Marker → Prop}
    (refl : ∀ marker, Related marker marker)
    (related : ∀ before after, Replaced before after →
      Option.Rel Related (Marker.decode? before) (Marker.decode? after))
    {before after : List Json} (edit : OneReplaced Replaced before after) :
    List.Forall₂ Related (decodeMarkers before) (decodeMarkers after) := by
  have same (entry : Json) :
      Option.Rel Related (Marker.decode? entry) (Marker.decode? entry) := by
    cases Marker.decode? entry with
    | none => exact .none
    | some marker => exact .some (refl marker)
  exact List.rel_filterMap (fun _ _ read => read) (edit.forall₂ same related)

/-! ## Runs with one reference exchanged -/

theorem resolve_append (markups : List Markup) (front back : List Nat) :
    resolve markups (front ++ back) = resolve markups front ++ resolve markups back :=
  List.map_append

/-- An index without a markup takes one place. -/
theorem resolve_unresolved {markups : List Markup} {entry : Json}
    (unresolved : Unresolved markups.length entry) :
    resolve markups entry.natural?.toList = entry.natural?.toList.map fun _ => none := by
  cases found : entry.natural? with
  | none => rfl
  | some index =>
      have beyond := unresolved index ((Mobiledoc.natural?_eq_some_iff entry index).mp found)
      simp [resolve, List.getElem?_eq_none beyond]

variable {catalog : Catalog} {document : Document} {old new : Json}

/-- Entries of one kind make the same events. -/
theorem PlaceReplaced.alike
    (kind : old.natural?.isSome ↔ new.natural?.isSome)
    (oldFree : Unresolved document.markups.length old)
    (newFree : Unresolved document.markups.length new)
    {textOf : Content → String} {before after : Marker}
    (replaced : PlaceReplaced old.natural? new.natural? before after) :
    Alike document.markups textOf textOf before after := by
  have places : old.natural?.toList.map (fun _ => (none : Option Markup)) =
      new.natural?.toList.map fun _ => none := by
    cases first : old.natural? <;> cases second : new.natural? <;> simp_all
  cases replaced with
  | intro content front back closed =>
      refine ⟨?_, rfl, rfl⟩
      simp only [resolve_append, resolve_unresolved oldFree, resolve_unresolved newFree, places]

/-- Without markups there is nothing but contents. -/
theorem trace_of_noMarkups (textOf : Content → String) (markers : List Marker) :
    trace [] textOf [] markers = markers.map fun marker => .shows (textOf marker.content) := by
  have opened : (trace [] textOf [] markers).filterMap Event.opened? = [] := by
    rw [filterMap_opened?_trace]
    simp
  have closed : (trace [] textOf [] markers).filterMap Event.closed? = [] := by
    have perm := (trace_unwinds [] textOf [] markers).nested.closed_perm_opened
    rw [opened] at perm
    exact perm.eq_nil
  rw [← filter_isContent_trace [] textOf [] markers, eq_comm, List.filter_eq_self]
  intro event member
  cases event with
  | shows content => rfl
  | opens markup => cases List.filterMap_eq_nil_iff.mp opened _ member
  | closes markup => cases List.filterMap_eq_nil_iff.mp closed _ member

theorem renderMarkers_of_noMarkups (empty : document.markups = []) {before after : List Marker}
    (contents : List.Forall₂ (fun x y => x.content = y.content) before after) :
    renderMarkers catalog document before = renderMarkers catalog document after := by
  have same : before.map (fun marker => Event.shows (renderContent catalog document marker.content))
      = after.map fun marker => .shows (renderContent catalog document marker.content) := by
    induction contents with
    | nil => rfl
    | cons equal rest ih => simp only [List.map_cons, equal, ih]
  rw [renderMarkers, renderMarkers, renderRun, renderRun, empty, trace_of_noMarkups,
    trace_of_noMarkups, same]

theorem noMarkups_of_zero {entry : Json} (zero : IsNatural entry 0)
    (unresolved : Unresolved document.markups.length entry) : document.markups = [] :=
  List.eq_nil_of_length_eq_zero (Nat.le_zero.mp (unresolved 0 zero))

/-- A run is rendered as before when one reference is exchanged for an interchangeable one. -/
theorem renderMarkers_exchanged (interchangeable : Interchangeable old new)
    (oldFree : Unresolved document.markups.length old)
    (newFree : Unresolved document.markups.length new)
    {before after : List Json}
    (edit : OneReplaced (ReferenceReplaced old new) before after) :
    renderMarkers catalog document (decodeMarkers before) =
      renderMarkers catalog document (decodeMarkers after) := by
  have kindOrEmpty : (old.natural?.isSome ↔ new.natural?.isSome) ∨ document.markups = [] := by
    rcases interchangeable with kind | zero | zero
    · exact .inl kind
    · exact .inr (noMarkups_of_zero zero oldFree)
    · exact .inr (noMarkups_of_zero zero newFree)
  rcases kindOrEmpty with kind | empty
  · apply renderMarkers_congr
    refine forall₂_decodeMarkers (Alike.refl _ _) ?_ edit
    intro x y replaced
    exact Mobiledoc.rel_imp (fun _ _ places => places.alike kind oldFree newFree)
      (decode?_replaced replaced)
  · apply renderMarkers_of_noMarkups empty
    refine forall₂_decodeMarkers (fun _ => ?_) ?_ edit
    · rfl
    · intro x y replaced
      exact Mobiledoc.rel_imp (fun _ _ places => places.content_eq) (decode?_replaced replaced)

/-! ## Documents with one reference exchanged -/

/-- The document of an outline without its body. -/
def tables (outline : Outline) : Document where
  version := outline.version
  markups := outline.markups.map Markup.decode
  atoms := outline.atoms.map Mobiledoc.Atom.decode
  cards := outline.cards.map Mobiledoc.Card.decode
  sections := []

theorem renderOutline_sections (outline : Outline) (sections : List Json) :
    renderOutline catalog { outline with sections := some sections } =
      String.join (sections.filterMap fun entry =>
        (Section.decode? entry).map (renderSection catalog (tables outline))) := by
  rw [← List.map_filterMap]
  exact @renderDocument_withSections catalog (tables outline) (sections.filterMap Section.decode?)

theorem renderOutline_exchanged (interchangeable : Interchangeable old new)
    {first second : Outline} (exchanges : Exchanges old new first second)
    (oldFree : Unresolved first.markups.length old)
    (newFree : Unresolved first.markups.length new) :
    renderOutline catalog first = renderOutline catalog second := by
  cases exchanges with
  | intro outline edit =>
      have size : (tables outline).markups.length = outline.markups.length := List.length_map _
      rw [← size] at oldFree newFree
      rw [renderOutline_sections, renderOutline_sections]
      apply congrArg
      apply edit.filterMap_eq
      intro before after edited
      have runs : Option.Rel
          (Section.RunEdited fun x y =>
            renderMarkers catalog (tables outline) x = renderMarkers catalog (tables outline) y)
          (Section.decode? before) (Section.decode? after) :=
        edited.decode? fun _ _ => renderMarkers_exchanged interchangeable oldFree newFree
      exact Mobiledoc.map_eq_of_rel (fun _ _ => renderSection_runEdited fun _ _ same => same) runs

/-! ## Entries that shift the pairing -/

/-- A run in which a marker opens the first markup and refers to the entry, and closes one place
before the next marker. -/
def probeRun (entry : Json) : List Json :=
  [.array [.integer 0, .array [.integer 0, entry], .integer 1, .string "a"],
    .array [.integer 0, .array [], .integer 0, .string "b"]]

/-- A document with one markup and the run as its only paragraph. -/
def probe (entry : Json) : Outline where
  version := none
  markups := [.array [.string "strong"]]
  atoms := []
  cards := []
  sections := some [.array [.integer 1, .string "p", .array (probeRun entry)]]

theorem probe_exchanges (old new : Json) : Exchanges old new (probe old) (probe new) := by
  have replaced : ReferenceReplaced old new
      (.array [.integer 0, .array [.integer 0, old], .integer 1, .string "a"])
      (.array [.integer 0, .array [.integer 0, new], .integer 1, .string "a"]) :=
    .intro [.integer 0] [] rfl
  have run : OneReplaced (ReferenceReplaced old new) (probeRun old) (probeRun new) :=
    .intro [] _ replaced
  have paragraph : EntriesEdited (OneReplaced (ReferenceReplaced old new))
      (.array [.integer 1, .string "p", .array (probeRun old)])
      (.array [.integer 1, .string "p", .array (probeRun new)]) :=
    .markup rfl rfl run
  exact .intro (probe old) (.intro [] [] paragraph)

theorem decodeMarkers_probeRun (entry : Json) :
    decodeMarkers (probeRun entry) =
      [⟨.text "a", 0 :: entry.natural?.toList, 1⟩, ⟨.text "b", [], 0⟩] := by
  have opened : [.integer 0, entry].filterMap Json.natural? = 0 :: entry.natural?.toList := by
    have split := filterMap_natural? [.integer 0] [] entry
    rw [List.filterMap_nil, List.append_nil] at split
    exact split
  have first : Marker.decode?
      (.array [.integer 0, .array [.integer 0, entry], .integer 1, .string "a"]) =
        some ⟨.text "a", [.integer 0, entry].filterMap Json.natural?, 1⟩ :=
    rfl
  rw [probeRun, decodeMarkers, List.filterMap_cons_some first, opened]
  rfl

/-- The text of the run depends on whether the entry takes a place. -/
theorem renderOutline_probe (entry : Json) :
    renderOutline .empty (probe entry) =
      renderBlock "p" (renderRun [⟨"strong", []⟩] (renderContent .empty (tables (probe entry)))
        [⟨.text "a", 0 :: entry.natural?.toList, 1⟩, ⟨.text "b", [], 0⟩]) := by
  have paragraph : Section.decode? (.array [.integer 1, .string "p", .array (probeRun entry)]) =
      some (.markup "p" (decodeMarkers (probeRun entry))) :=
    rfl
  rw [decodeMarkers_probeRun] at paragraph
  have sections := @renderOutline_sections .empty (probe entry)
    [.array [.integer 1, .string "p", .array (probeRun entry)]]
  rw [List.filterMap_cons_some (by rw [paragraph]; rfl)] at sections
  exact sections

theorem renderOutline_probe_index {entry : Json} {index : Nat}
    (found : entry.natural? = some (index + 1)) :
    renderOutline .empty (probe entry) = "**ab**\n\n" := by
  rw [renderOutline_probe, found]
  rfl

theorem renderOutline_probe_other {entry : Json} (found : entry.natural? = none) :
    renderOutline .empty (probe entry) = "**a**b\n\n" := by
  rw [renderOutline_probe, found]
  rfl

theorem unresolved_of_index {entry : Json} {index : Nat}
    (found : entry.natural? = some (index + 1)) : Unresolved 1 entry := by
  intro other natural
  rw [(Mobiledoc.natural?_eq_some_iff entry other).mpr natural] at found
  cases found
  exact Nat.le_add_left 1 index

theorem unresolved_of_other {entry : Json} (found : entry.natural? = none) (size : Nat) :
    Unresolved size entry := by
  intro index natural
  rw [(Mobiledoc.natural?_eq_some_iff entry index).mpr natural] at found
  cases found

/-- Entries that are not interchangeable are an index beyond 0 and an entry that is no index. -/
theorem not_interchangeable {old new : Json} (apart : ¬ Interchangeable old new) :
    (∃ index, old.natural? = some (index + 1) ∧ new.natural? = none) ∨
      ∃ index, old.natural? = none ∧ new.natural? = some (index + 1) := by
  simp only [Interchangeable, not_or, ← Mobiledoc.natural?_eq_some_iff] at apart
  obtain ⟨kinds, oldPositive, newPositive⟩ := apart
  cases first : old.natural? with
  | none =>
      cases second : new.natural? with
      | none => simp [first, second] at kinds
      | some index =>
          cases index with
          | zero => exact absurd second newPositive
          | succ index => exact .inr ⟨index, rfl, rfl⟩
  | some index =>
      cases second : new.natural? with
      | none =>
          cases index with
          | zero => exact absurd first oldPositive
          | succ index => exact .inl ⟨index, rfl, rfl⟩
      | some other => simp [first, second] at kinds

/--
Exchanging one reference that does not resolve for another one never changes the output exactly
when the two are interchangeable. The documents are given by their top levels, and the output of a
text is that of the top level it holds.
-/
theorem exchange_unresolved_iff (old new : Json) :
    ((∀ (catalog : Catalog) (first second : Outline), Exchanges old new first second →
        Unresolved first.markups.length old → Unresolved first.markups.length new →
          renderOutline catalog first = renderOutline catalog second) ↔
      Interchangeable old new) ∧
    ∀ (catalog : Catalog) (source : String) (outline : Outline),
      Outline.parse? source = some outline →
        renderSource catalog source = renderOutline catalog outline := by
  refine ⟨⟨?_, ?_⟩, fun catalog source outline found => renderSource_of_outline found catalog⟩
  · intro unchanged
    by_contra apart
    have same := unchanged .empty (probe old) (probe new) (probe_exchanges old new)
    rcases not_interchangeable apart with ⟨index, first, second⟩ | ⟨index, first, second⟩
    · have equal := same (unresolved_of_index first) (unresolved_of_other second _)
      rw [renderOutline_probe_index first, renderOutline_probe_other second] at equal
      exact absurd equal (by decide)
    · have equal := same (unresolved_of_other first _) (unresolved_of_index second)
      rw [renderOutline_probe_other first, renderOutline_probe_index second] at equal
      exact absurd equal (by decide)
  · intro interchangeable catalog first second exchanges oldFree newFree
    exact renderOutline_exchanged interchangeable exchanges oldFree newFree

/-- The text of the document with the entry. -/
def probeText (entry : String) : String :=
  "\x7b\"markups\":[[\"strong\"]],\"sections\":[[1,\"p\",[[0,[0," ++ entry ++
    "],1,\"a\"],[0,[],0,\"b\"]]]]\x7d"

/-- With an entry that is no index in place of an index without a markup, the first count closes
the markup that was opened before. -/
theorem exchange_shifts_pairing :
    ∃ first second,
      Outline.parse? (probeText "99") = some first ∧
      Outline.parse? (probeText "-1") = some second ∧
      Exchanges (.integer 99) (.integer (-1)) first second ∧
      Unresolved first.markups.length (.integer 99) ∧
      Unresolved first.markups.length (.integer (-1)) ∧
      renderSource .empty (probeText "99") = "**ab**\n\n" ∧
      renderSource .empty (probeText "-1") = "**a**b\n\n" := by
  have first : Outline.parse? (probeText "99") = some (probe (.integer 99)) := rfl
  have second : Outline.parse? (probeText "-1") = some (probe (.integer (-1))) := rfl
  refine ⟨_, _, first, second, probe_exchanges _ _, ?_, ?_, ?_, ?_⟩
  · exact unresolved_of_index rfl
  · exact unresolved_of_other rfl _
  · rw [renderSource_of_outline first]
    exact renderOutline_probe_index rfl
  · rw [renderSource_of_outline second]
    exact renderOutline_probe_other rfl

end Render
end BlogMigration
