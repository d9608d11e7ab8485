import BlogMigration.Render.Document
import Mathlib.Data.List.Forall2

/-!
# Nesting of inline formats

The events of a run of markers are well nested: every closing delimiter belongs to the markup that
opened last and is still open, and nothing stays open at the end. A count of closed markups that
exceeds the open ones closes them all, so that what follows is rendered as a run of its own.
-/

namespace BlogMigration
namespace Render

open Mobiledoc (Markup Marker Content Document)

/-! ## Well-nested events -/

/-- Events in which whatever opens is closed by its own closing delimiter, around events that are
well nested themselves. -/
inductive Nested : List Event → Prop where
  | nil : Nested []
  | shows {rest : List Event} (content : String) (after : Nested rest) :
      Nested (.shows content :: rest)
  | wrap {inner rest : List Event} (markup : Markup)
      (inside : Nested inner) (after : Nested rest) :
      Nested (.opens markup :: inner ++ .closes markup :: rest)

/-- Events that close the given markups, the first one first, with well-nested events before,
between and after the closing delimiters. -/
inductive Unwinds : List Markup → List Event → Prop where
  | done {events : List Event} (nested : Nested events) : Unwinds [] events
  | close {inner rest : List Event} {pending : List Markup} (markup : Markup)
      (inside : Nested inner) (after : Unwinds pending rest) :
      Unwinds (markup :: pending) (inner ++ .closes markup :: rest)

namespace Event

def opened? : Event → Option Markup
  | .opens markup => some markup
  | _ => none

def closed? : Event → Option Markup
  | .closes markup => some markup
  | _ => none

/-- Whether an event is neither an opening nor a closing delimiter. -/
def isContent : Event → Bool
  | .shows _ => true
  | _ => false

end Event

namespace Nested

/-- Every markup closes exactly as often as it opens. -/
theorem closed_perm_opened {events : List Event} (nested : Nested events) :
    (events.filterMap Event.closed?).Perm (events.filterMap Event.opened?) := by
  induction nested with
  | nil => exact .nil
  | shows content after ih => exact ih
  | @wrap inner rest markup inside after insideIh afterIh =>
      simp only [List.cons_append, List.filterMap_cons, List.filterMap_append, Event.closed?,
        Event.opened?]
      exact List.perm_middle.trans ((insideIh.append afterIh).cons markup)

end Nested

namespace Unwinds

/-- Where nothing is open any more, the events are well nested. -/
theorem nested {events : List Event} (h : Unwinds [] events) : Nested events := by
  cases h with
  | done nested => exact nested

theorem shows {pending : List Markup} {events : List Event} (content : String)
    (h : Unwinds pending events) : Unwinds pending (.shows content :: events) := by
  cases h with
  | done nested => exact .done (.shows content nested)
  | close markup inside after => exact .close markup (.shows content inside) after

/-- A markup that opens before the events is closed by the first closing delimiter that is left to
the open markups. -/
theorem opens {pending : List Markup} {events : List Event} {markup : Markup}
    (h : Unwinds (markup :: pending) events) : Unwinds pending (.opens markup :: events) := by
  cases h with
  | @close inner rest _ _ inside after =>
      -- What follows the closing delimiter of the markup belongs to the markups opened before it.
      cases after with
      | done nested => exact .done (.wrap markup inside nested)
      | @close middle last pending outer between after =>
          have wrapped := Unwinds.close outer (.wrap markup inside between) after
          simpa using wrapped

theorem opensAll {pending : List Markup} {events : List Event} (opened : List Markup)
    (h : Unwinds (opened.reverse ++ pending) events) :
    Unwinds pending (opened.map Event.opens ++ events) := by
  induction opened generalizing pending with
  | nil => exact h
  | cons markup rest ih =>
      have inner : Unwinds (markup :: pending) (rest.map Event.opens ++ events) := by
        apply ih
        simpa using h
      exact inner.opens

theorem closesAll {pending : List Markup} {events : List Event} (closed : List Markup)
    (h : Unwinds pending events) :
    Unwinds (closed ++ pending) (closed.map Event.closes ++ events) := by
  induction closed with
  | nil => exact h
  | cons markup rest ih => exact .close markup .nil ih

end Unwinds

/-! ## The events of a run -/

/-- The markups among open places; an unresolved reference has a place but no markup. -/
def present (places : List (Option Markup)) : List Markup :=
  places.filterMap id

@[simp] theorem present_append (front back : List (Option Markup)) :
    present (front ++ back) = present front ++ present back :=
  List.filterMap_append

@[simp] theorem present_reverse (places : List (Option Markup)) :
    present places.reverse = (present places).reverse :=
  List.filterMap_reverse

theorem present_resolve (markups : List Markup) (indexes : List Nat) :
    present (resolve markups indexes) = indexes.filterMap fun index => markups[index]? := by
  simp [present, resolve, List.filterMap_map]

theorem openEvents_eq_map (opened : List (Option Markup)) :
    openEvents opened = (present opened).map Event.opens := by
  induction opened with
  | nil => rfl
  | cons place rest ih => cases place <;> simp_all [openEvents, present]

theorem closeEvents_eq_map (closed : Stack) :
    closeEvents closed = (present closed).map Event.closes := by
  induction closed with
  | nil => rfl
  | cons place rest ih => cases place <;> simp_all [closeEvents, present]

@[simp] theorem closeEvents_append (front back : Stack) :
    closeEvents (front ++ back) = closeEvents front ++ closeEvents back :=
  List.filterMap_append

variable (markups : List Markup) (textOf : Content → String)

/-- The stack right before a marker closes markups. -/
def pushed (stack : Stack) (marker : Marker) : Stack :=
  (resolve markups marker.opened).reverse ++ stack

def markerEvents (stack : Stack) (marker : Marker) : List Event :=
  openEvents (resolve markups marker.opened) ++ .shows (textOf marker.content) ::
    closeEvents ((pushed markups stack marker).take marker.closed)

theorem trace_cons (stack : Stack) (marker : Marker) (rest : List Marker) :
    trace markups textOf stack (marker :: rest) =
      markerEvents markups textOf stack marker ++
        trace markups textOf ((pushed markups stack marker).drop marker.closed) rest := by
  simp [trace, markerEvents, pushed]

/-- One marker opens its markups on the stack and closes the topmost ones. -/
theorem markerEvents_unwinds {stack : Stack} {marker : Marker} {events : List Event}
    (h : Unwinds (present ((pushed markups stack marker).drop marker.closed)) events) :
    Unwinds (present stack) (markerEvents markups textOf stack marker ++ events) := by
  -- The events are put in front from the last one on: closings, content, openings.
  have closing : Unwinds (present (pushed markups stack marker))
      (closeEvents ((pushed markups stack marker).take marker.closed) ++ events) := by
    have whole := h.closesAll (present ((pushed markups stack marker).take marker.closed))
    rw [← present_append, List.take_append_drop] at whole
    rw [closeEvents_eq_map]
    exact whole
  have shown : Unwinds ((present (resolve markups marker.opened)).reverse ++ present stack)
      (.shows (textOf marker.content) ::
        (closeEvents ((pushed markups stack marker).take marker.closed) ++ events)) := by
    rw [← present_reverse, ← present_append]
    exact closing.shows (textOf marker.content)
  have opening := Unwinds.opensAll (present (resolve markups marker.opened)) shown
  simpa only [markerEvents, openEvents_eq_map, List.append_assoc, List.cons_append] using opening

/-- The events of a run close what is open before it, whatever the run opens in between. -/
theorem trace_unwinds (stack : Stack) (markers : List Marker) :
    Unwinds (present stack) (trace markups textOf stack markers) := by
  induction markers generalizing stack with
  | nil =>
      have closing := Unwinds.closesAll (present stack) (.done .nil)
      simpa [trace, closeEvents_eq_map] using closing
  | cons marker rest ih =>
      rw [trace_cons]
      exact markerEvents_unwinds markups textOf (ih _)

@[simp] theorem filterMap_opened?_openEvents (opened : List (Option Markup)) :
    (openEvents opened).filterMap Event.opened? = present opened := by
  rw [openEvents_eq_map, List.filterMap_map]
  exact List.filterMap_some

@[simp] theorem filterMap_opened?_closeEvents (closed : Stack) :
    (closeEvents closed).filterMap Event.opened? = [] := by
  rw [closeEvents_eq_map, List.filterMap_map]
  exact List.filterMap_eq_nil_iff.mpr fun _ _ => rfl

@[simp] theorem filter_isContent_openEvents (opened : List (Option Markup)) :
    (openEvents opened).filter Event.isContent = [] := by
  rw [openEvents_eq_map, List.filter_eq_nil_iff]
  simp [Event.isContent]

@[simp] theorem filter_isContent_closeEvents (closed : Stack) :
    (closeEvents closed).filter Event.isContent = [] := by
  rw [closeEvents_eq_map, List.filter_eq_nil_iff]
  simp [Event.isContent]

/-- The markups open in the order of the references to them, one for each that resolves. -/
theorem filterMap_opened?_trace (stack : Stack) (markers : List Marker) :
    (trace markups textOf stack markers).filterMap Event.opened? =
      markers.flatMap fun marker => marker.opened.filterMap fun index => markups[index]? := by
  induction markers generalizing stack with
  | nil => exact filterMap_opened?_closeEvents stack
  | cons marker rest ih =>
      have here : (markerEvents markups textOf stack marker).filterMap Event.opened? =
          marker.opened.filterMap fun index => markups[index]? := by
        rw [markerEvents, List.filterMap_append, List.filterMap_cons_none rfl, ← present_resolve]
        simp
      rw [trace_cons, List.filterMap_append, here, ih, List.flatMap_cons]

/-- The contents appear in the order of the markers. -/
theorem filter_isContent_trace (stack : Stack) (markers : List Marker) :
    (trace markups textOf stack markers).filter Event.isContent =
      markers.map fun marker => .shows (textOf marker.content) := by
  induction markers generalizing stack with
  | nil => exact filter_isContent_closeEvents stack
  | cons marker rest ih =>
      have here : (markerEvents markups textOf stack marker).filter Event.isContent =
          [.shows (textOf marker.content)] := by
        rw [markerEvents, List.filter_append, List.filter_cons_of_pos rfl]
        simp
      rw [trace_cons, List.filter_append, here, ih, List.map_cons, List.singleton_append]

/-- Two markers that make the same events, when their contents are shown by the two functions. -/
structure Alike (first second : Content → String) (old new : Marker) : Prop where
  opened : resolve markups old.opened = resolve markups new.opened
  closed : old.closed = new.closed
  shown : first old.content = second new.content

theorem Alike.refl (marker : Marker) : Alike markups textOf textOf marker marker :=
  ⟨rfl, rfl, rfl⟩

/-- Runs of markers that are alike one by one have the same events. -/
theorem trace_congr {first second : Content → String} {old new : List Marker}
    (alike : List.Forall₂ (Alike markups first second) old new) (stack : Stack) :
    trace markups first stack old = trace markups second stack new := by
  induction alike generalizing stack with
  | nil => rfl
  | cons same rest ih =>
      simp only [trace, same.opened, same.closed, same.shown, ih]

/-! ## Counts of closed markups -/

/-- The number of open places after markers, given the number before them. Unresolved references
count like any other. -/
def depthAfter : Nat → List Marker → Nat
  | depth, [] => depth
  | depth, marker :: rest => depthAfter (depth + marker.opened.length - marker.closed) rest

/-- The stack after markers, given the stack before them. -/
def stackAfter : Stack → List Marker → Stack
  | stack, [] => stack
  | stack, marker :: rest => stackAfter ((pushed markups stack marker).drop marker.closed) rest

/-- The events of markers without those at the end of a run. -/
def passed : Stack → List Marker → List Event
  | _, [] => []
  | stack, marker :: rest =>
      markerEvents markups textOf stack marker ++
        passed ((pushed markups stack marker).drop marker.closed) rest

theorem length_pushed (stack : Stack) (marker : Marker) :
    (pushed markups stack marker).length = stack.length + marker.opened.length := by
  simp [pushed, resolve, Nat.add_comm]

theorem length_stackAfter (stack : Stack) (markers : List Marker) :
    (stackAfter markups stack markers).length = depthAfter stack.length markers := by
  induction markers generalizing stack with
  | nil => rfl
  | cons marker rest ih =>
      rw [stackAfter, depthAfter, ih, List.length_drop, length_pushed]

theorem trace_append (stack : Stack) (front back : List Marker) :
    trace markups textOf stack (front ++ back) =
      passed markups textOf stack front ++
        trace markups textOf (stackAfter markups stack front) back := by
  induction front generalizing stack with
  | nil => rfl
  | cons marker rest ih =>
      rw [List.cons_append, trace_cons, ih, passed, stackAfter, List.append_assoc]

/-- A marker that closes everything leaves an empty stack to the markers after it. -/
theorem trace_of_closesAll {stack : Stack} {marker : Marker} (rest : List Marker)
    (all : stack.length + marker.opened.length ≤ marker.closed) :
    trace markups textOf stack (marker :: rest) =
      openEvents (resolve markups marker.opened) ++ .shows (textOf marker.content) ::
        closeEvents (pushed markups stack marker) ++ trace markups textOf [] rest := by
  have bound : (pushed markups stack marker).length ≤ marker.closed := by
    rw [length_pushed]
    exact all
  rw [trace_cons, markerEvents, List.take_of_length_le bound, List.drop_of_length_le bound]

/-- The last marker of a run closes everything, whatever its count. -/
theorem trace_last (stack : Stack) (marker : Marker) :
    trace markups textOf stack [marker] =
      openEvents (resolve markups marker.opened) ++ .shows (textOf marker.content) ::
        closeEvents (pushed markups stack marker) := by
  have closing : closeEvents ((pushed markups stack marker).take marker.closed) ++
      closeEvents ((pushed markups stack marker).drop marker.closed) =
        closeEvents (pushed markups stack marker) := by
    rw [← closeEvents_append, List.take_append_drop]
  rw [trace_cons, markerEvents, trace, List.append_assoc, List.cons_append, closing]

/-- After a marker that closes everything the run starts anew. -/
theorem trace_split {front : List Marker} {marker : Marker} (back : List Marker)
    (all : depthAfter 0 front + marker.opened.length ≤ marker.closed) :
    trace markups textOf [] (front ++ marker :: back) =
      trace markups textOf [] (front ++ [marker]) ++ trace markups textOf [] back := by
  have bound : (stackAfter markups [] front).length + marker.opened.length ≤ marker.closed := by
    rw [length_stackAfter]
    exact all
  rw [trace_append, trace_append, trace_of_closesAll markups textOf back bound, trace_last]
  simp only [List.append_assoc]

/-- The count of the last marker of a run makes no difference. -/
theorem trace_last_closed (front : List Marker) (marker : Marker) (count : Nat) :
    trace markups textOf [] (front ++ [{ marker with closed := count }]) =
      trace markups textOf [] (front ++ [marker]) := by
  rw [trace_append, trace_append, trace_last, trace_last]
  rfl

theorem textOfEvents_cons (event : Event) (events : List Event) :
    textOfEvents (event :: events) = event.text ++ textOfEvents events := by
  simp [textOfEvents, String.join_cons]

/-- An empty text at the end of a run shows nothing. -/
theorem renderRun_append_empty {textOf : Content → String} (empty : textOf (.text "") = "")
    (markers : List Marker) (count : Nat) :
    renderRun markups textOf (markers ++ [⟨.text "", [], count⟩]) =
      renderRun markups textOf markers := by
  have whole := trace_append markups textOf [] markers []
  rw [List.append_nil] at whole
  rw [renderRun, renderRun, trace_append, trace_last, whole]
  simp [resolve, openEvents, pushed, trace, textOfEvents_cons, Event.text, empty]

/-! ## The text of a run -/

/-- Runs whose markers are alike one by one have the same text, with different catalogs as well. -/
theorem renderMarkers_congr {left right : Catalog} {document : Document} {old new : List Marker}
    (alike : List.Forall₂ (Alike document.markups (renderContent left document)
      (renderContent right document)) old new) :
    renderMarkers left document old = renderMarkers right document new := by
  rw [renderMarkers, renderMarkers, renderRun, renderRun, trace_congr document.markups alike]

/--
The text of a run is that of well-nested events. Each reference that resolves opens its markup
once and closes it once, and without the delimiters just the contents remain. A count beyond the
open places closes them all, so that the markers after it make a run of their own, and an empty
text at the end changes nothing.
-/
theorem renderMarkers_nested (catalog : Catalog) (document : Document) (markers : List Marker) :
    let events := trace document.markups (renderContent catalog document) [] markers
    renderMarkers catalog document markers = textOfEvents events ∧
      Nested events ∧
      events.filterMap Event.opened? =
        (markers.flatMap fun marker =>
          marker.opened.filterMap fun index => document.markups[index]?) ∧
      (events.filterMap Event.closed?).Perm (events.filterMap Event.opened?) ∧
      events.filter Event.isContent =
        (markers.map fun marker => .shows (renderContent catalog document marker.content)) ∧
      (∀ (front back : List Marker) (marker : Marker) (excess : Nat),
        let depth := depthAfter 0 front + marker.opened.length
        renderMarkers catalog document
            (front ++ { marker with closed := depth + excess } :: back) =
          renderMarkers catalog document (front ++ { marker with closed := depth } :: back) ∧
        renderMarkers catalog document
            (front ++ { marker with closed := depth + excess } :: back) =
          renderMarkers catalog document (front ++ [marker]) ++
            renderMarkers catalog document back) ∧
      ∀ count : Nat,
        renderMarkers catalog document (markers ++ [⟨.text "", [], count⟩]) =
          renderMarkers catalog document markers := by
  intro events
  have nested : Nested events := (trace_unwinds document.markups _ [] markers).nested
  -- Both counts are large enough for the run to split after the marker.
  have split (front back : List Marker) (marker : Marker) (excess : Nat) :
      renderMarkers catalog document
          (front ++ { marker with
            closed := depthAfter 0 front + marker.opened.length + excess } :: back) =
        renderMarkers catalog document (front ++ [marker]) ++
          renderMarkers catalog document back := by
    rw [renderMarkers, renderRun, trace_split _ _ back (Nat.le_add_right _ excess),
      trace_last_closed, textOfEvents_append]
    rfl
  refine ⟨rfl, nested, filterMap_opened?_trace _ _ [] markers, nested.closed_perm_opened,
    filter_isContent_trace _ _ [] markers, ?_, ?_⟩
  · intro front back marker excess
    exact ⟨(split front back marker excess).trans (split front back marker 0).symm,
      split front back marker excess⟩
  · intro count
    exact renderRun_append_empty document.markups rfl markers count

end Render
end BlogMigration
