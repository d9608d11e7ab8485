import BlogMigration.Render.Inline

/-!
# Runs of markers

A run of markers is rendered as a sequence of events: a markup opens, a content appears, a markup
closes. The open markups form a stack. A reference that does not resolve takes a place on the stack
like any other, so that the counts of closed markups still refer to the right ones, but neither its
opening nor its closing is an event. Whatever is open at the end of the run is closed there.
-/

namespace BlogMigration
namespace Render

open Mobiledoc (Markup Marker Content)

inductive Event where
  | opens (markup : Markup)
  | shows (content : String)
  | closes (markup : Markup)
  deriving DecidableEq, Repr

namespace Event

def text : Event → String
  | .opens markup => Inline.opening markup
  | .shows content => content
  | .closes markup => Inline.closing markup

end Event

/-- The open markups, the last opened one first; `none` stands for an unresolved reference. -/
abbrev Stack := List (Option Markup)

def resolve (markups : List Markup) (indexes : List Nat) : List (Option Markup) :=
  indexes.map fun index => markups[index]?

def openEvents (opened : List (Option Markup)) : List Event :=
  opened.filterMap fun markup => markup.map .opens

/-- The events of closing markups, the last opened one first. -/
def closeEvents (closed : Stack) : List Event :=
  closed.filterMap fun markup => markup.map .closes

/-- The events of a run of markers, given the open markups and the text of each content. -/
def trace (markups : List Markup) (textOf : Content → String) : Stack → List Marker → List Event
  | stack, [] => closeEvents stack
  | stack, marker :: rest =>
    let opened := resolve markups marker.opened
    let stack := opened.reverse ++ stack
    openEvents opened ++ .shows (textOf marker.content) ::
      closeEvents (stack.take marker.closed) ++
      trace markups textOf (stack.drop marker.closed) rest

def textOfEvents (events : List Event) : String :=
  String.join (events.map Event.text)

@[simp] theorem textOfEvents_append (front back : List Event) :
    textOfEvents (front ++ back) = textOfEvents front ++ textOfEvents back := by
  simp [textOfEvents]

def renderRun (markups : List Markup) (textOf : Content → String) (markers : List Marker) :
    String :=
  textOfEvents (trace markups textOf [] markers)

end Render
end BlogMigration
