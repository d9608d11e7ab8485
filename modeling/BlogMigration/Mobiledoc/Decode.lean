import BlogMigration.Json.Record
import BlogMigration.Mobiledoc.Document
import BlogMigration.Text.Blank
import BlogMigration.Text.Case

/-!
# Reading documents

A document is read leniently. An entry of a table that has the wrong shape keeps its place, so that
the indexes of the other entries stay valid. A section or a marker that has the wrong shape is left
out. Only a document without a list of sections, or no document at all, is an error.
-/

namespace BlogMigration
namespace Mobiledoc

inductive Error where
  | empty
  | json
  | missingSections
  deriving DecidableEq, Repr

namespace Error

def message? : Error → Option String
  | .empty => some "empty mobiledoc source"
  | .json => none
  | .missingSections => some "mobiledoc is missing the top-level `sections` list"

def advice? : Error → Option String
  | .missingSections =>
    some ("Only mobiledoc 0.3 documents are supported; they carry `atoms`, `cards`, " ++
      "`markups` and `sections` lists")
  | _ => none

end Error

def stringItem? (index : Nat) (entry : Json) : Option String :=
  (entry.item? index).bind Json.string?

def naturalItem? (index : Nat) (entry : Json) : Option Nat :=
  (entry.item? index).bind Json.natural?

/-- The item of an array as the items of an array, or no items. -/
def itemsItem (index : Nat) (entry : Json) : List Json :=
  ((entry.item? index).bind Json.array?).getD []

/-- Names and values that alternate, without the pairs that are not two strings. -/
def attributePairs : List Json → List (String × String)
  | .string name :: .string value :: rest => (name, value) :: attributePairs rest
  | _ :: _ :: rest => attributePairs rest
  | _ => []

/-- A markup is `[tag, [name, value, ...]]`. -/
def Markup.decode (entry : Json) : Markup :=
  match entry with
  | .array _ =>
    ⟨Text.lowercase ((stringItem? 0 entry).getD ""), attributePairs (itemsItem 1 entry)⟩
  | _ => .blank

/-- An atom is `[name, value, payload]`. -/
def Atom.decode (entry : Json) : Atom :=
  match stringItem? 0 entry with
  | some name => ⟨name, (stringItem? 1 entry).getD "", (entry.item? 2).getD .null⟩
  | none => .blank

/-- A card is `[name, payload]`. -/
def Card.decode (entry : Json) : Card :=
  match stringItem? 0 entry with
  | some name => ⟨name, (entry.item? 1).getD .null⟩
  | none => .blank

def textMarker : Nat := 0

def atomMarker : Nat := 1

def Content.decode? (entry : Json) : Option Content := do
  let kind ← naturalItem? 0 entry
  if kind = textMarker then (stringItem? 3 entry).map .text
  else if kind = atomMarker then (naturalItem? 3 entry).map .atom
  else none

/-- A marker is `[type, opened, closed, content]`. Of the opened markups only the indexes count. -/
def Marker.decode? (entry : Json) : Option Marker := do
  let content ← Content.decode? entry
  return ⟨content, (itemsItem 1 entry).filterMap Json.natural?, (naturalItem? 2 entry).getD 0⟩

def decodeMarkers (entries : List Json) : List Marker :=
  entries.filterMap Marker.decode?

def markupSection : Nat := 1

def imageSection : Nat := 2

def listSection : Nat := 3

def cardSection : Nat := 10

/-- A section is `[1, tag, markers]`, `[2, src]`, `[3, tag, items]` or `[10, index]`. -/
def Section.decode? (entry : Json) : Option Section := do
  let kind ← naturalItem? 0 entry
  if kind = markupSection then
    let tag ← stringItem? 1 entry
    return .markup (Text.lowercase tag) (decodeMarkers (itemsItem 2 entry))
  else if kind = imageSection then
    let src ← stringItem? 1 entry
    return .image src
  else if kind = listSection then
    let tag ← stringItem? 1 entry
    return .list (Text.lowercase tag)
      ((itemsItem 2 entry).map fun item => decodeMarkers (item.array?.getD []))
  else if kind = cardSection then
    let index ← naturalItem? 1 entry
    return .card index
  else none

/-- The top level of a document, with the entries of its tables and of its body as they came. -/
structure Outline where
  version : Option String
  markups : List Json
  atoms : List Json
  cards : List Json
  sections : Option (List Json)

namespace Outline

/-- The names of the fields, in the order in which an array lists them. -/
def fieldNames : List String :=
  ["version", "markups", "atoms", "cards", "sections"]

def ofRecord? : Json.Record → Option Outline
  | [version, markups, atoms, cards, sections] => do
    let version ← Json.Record.nullable? Json.string? version
    let markups ← Json.Record.orElse? [] Json.array? markups
    let atoms ← Json.Record.orElse? [] Json.array? atoms
    let cards ← Json.Record.orElse? [] Json.array? cards
    let sections ← Json.Record.nullable? Json.array? sections
    return ⟨version, markups, atoms, cards, sections⟩
  | _ => none

def toDocument (outline : Outline) : Except Error Document :=
  match outline.sections with
  | none => .error .missingSections
  | some sections =>
    .ok {
      version := outline.version
      markups := outline.markups.map Markup.decode
      atoms := outline.atoms.map Atom.decode
      cards := outline.cards.map Card.decode
      sections := sections.filterMap Section.decode? }

end Outline

def Document.ofJson (value : Json) : Except Error Document :=
  match (Json.Record.ofJson? Outline.fieldNames value).bind Outline.ofRecord? with
  | none => .error .json
  | some outline => outline.toDocument

def Document.parse (source : String) : Except Error Document :=
  if Text.allBlank source then .error .empty
  else
    match (Json.Record.parse? Outline.fieldNames source).bind Outline.ofRecord? with
    | none => .error .json
    | some outline => outline.toDocument

end Mobiledoc
end BlogMigration
