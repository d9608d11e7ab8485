import BlogMigration.Json.Value

/-!
# Mobiledoc documents

The structure of a Mobiledoc 0.3 document. Markups, atoms and cards are kept in tables, and the
sections and markers of the body refer to them by index.
-/

namespace BlogMigration
namespace Mobiledoc

/-- An inline format such as `strong`, or `a` with an `href` attribute. -/
structure Markup where
  tag : String
  attributes : List (String × String)
  deriving DecidableEq, Repr

def Markup.attribute? (name : String) (markup : Markup) : Option String :=
  (markup.attributes.find? fun pair => pair.1 == name).map Prod.snd

/-- A unit of rich content inside a line. -/
structure Atom where
  name : String
  value : String
  payload : Json

/-- A unit of embedded content between lines. -/
structure Card where
  name : String
  payload : Json

/-- What a marker contributes to a line: a text, or the atom of an index. -/
inductive Content where
  | text (value : String)
  | atom (index : Nat)
  deriving DecidableEq, Repr

/-- A run of inline content, with the indexes of the markups that open before it and the number of
open markups that close after it. -/
structure Marker where
  content : Content
  opened : List Nat
  closed : Nat
  deriving DecidableEq, Repr

/-- A section of the body. A list has one run of markers for each item. -/
inductive Section where
  | markup (tag : String) (markers : List Marker)
  | image (src : String)
  | list (tag : String) (items : List (List Marker))
  | card (index : Nat)
  deriving DecidableEq, Repr

structure Document where
  version : Option String
  markups : List Markup
  atoms : List Atom
  cards : List Card
  sections : List Section

namespace Markup

def blank : Markup := ⟨"", []⟩

end Markup

namespace Atom

def blank : Atom := ⟨"", "", .null⟩

end Atom

namespace Card

def blank : Card := ⟨"", .null⟩

end Card

end Mobiledoc
end BlogMigration
