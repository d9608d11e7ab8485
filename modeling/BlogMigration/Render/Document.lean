import BlogMigration.Mobiledoc.Decode
import BlogMigration.Render.Registry
import BlogMigration.Render.Run
import BlogMigration.Text.Numeral

/-!
# Rendering documents

A walk visits the sections of a document one by one, in order, and adds to its output what they
render as. Nothing is fatal: a reference that does not resolve, a type without a renderer and a
payload that a renderer refuses all render as nothing.
-/

namespace BlogMigration
namespace Render

open Mobiledoc (Markup Marker Content Section Document)

def outputOrNothing (result : Except RenderError String) : String :=
  match result with
  | .ok output => output
  | .error _ => ""

def renderCard (cards : CardRegistry) (name : String) (payload : Json) : String :=
  match cards.get? name with
  | some renderer => outputOrNothing (renderer payload)
  | none => ""

def renderAtom (atoms : AtomRegistry) (name value : String) (payload : Json) : String :=
  match atoms.get? name with
  | some renderer => outputOrNothing (renderer value payload)
  | none => ""

structure Catalog where
  cards : CardRegistry
  atoms : AtomRegistry

namespace Catalog

def empty : Catalog := ⟨.empty, .empty⟩

end Catalog

def renderContent (catalog : Catalog) (document : Document) : Content → String
  | .text value => value
  | .atom index =>
    match document.atoms[index]? with
    | some atom => renderAtom catalog.atoms atom.name atom.value atom.payload
    | none => ""

def renderMarkers (catalog : Catalog) (document : Document) (markers : List Marker) : String :=
  renderRun document.markups (renderContent catalog document) markers

/-- The level of a heading: the letter h is followed by a numeral from 1 to 6. -/
def headingLevel? (tag : String) : Option Nat :=
  match tag.toList with
  | 'h' :: rest => (Text.unsignedNumeral? rest).filter fun level => 1 ≤ level && level ≤ 6
  | _ => none

def isQuotation (tag : String) : Bool :=
  tag == "blockquote" || tag == "aside"

/-- A character of a quotation, with the mark of the next line after a line feed. -/
def quotedLineChar (c : Char) : List Char :=
  if c = '\n' then ['\n', '>', ' '] else [c]

def itemMark (tag : String) (number : Nat) : String :=
  if tag = "ol" then toString number ++ ". " else "- "

def imagePayload (src : String) : Json :=
  .object [("src", .string src)]

/-- A walk through a document: what is rendered with what, and the output so far. -/
structure Walker where
  catalog : Catalog
  document : Document
  output : String

namespace Walker

def start (catalog : Catalog) (document : Document) : Walker :=
  ⟨catalog, document, ""⟩

def push (fragment : String) (walker : Walker) : Walker :=
  { walker with output := walker.output ++ fragment }

def visitMarkup (tag : String) (markers : List Marker) (walker : Walker) : Walker :=
  let text := renderMarkers walker.catalog walker.document markers
  let marked :=
    if isQuotation tag then (walker.push "> ").push (Text.expand quotedLineChar text)
    else
      match headingLevel? tag with
      | some level => ((walker.push (String.ofList (List.replicate level '#'))).push " ").push text
      | none => walker.push text
  marked.push "\n\n"

/-- Puts out the items of a list, numbered from `number` on. -/
def visitItems (tag : String) (number : Nat) : List (List Marker) → Walker → Walker
  | [], walker => walker
  | item :: rest, walker =>
    let text := renderMarkers walker.catalog walker.document item
    visitItems tag (number + 1) rest (((walker.push (itemMark tag number)).push text).push "\n")

def visitCard (index : Nat) (walker : Walker) : Walker :=
  match walker.document.cards[index]? with
  | some card => walker.push (renderCard walker.catalog.cards card.name card.payload)
  | none => walker

def visit (content : Section) (walker : Walker) : Walker :=
  match content with
  | .markup tag markers => walker.visitMarkup tag markers
  | .image src => walker.push (renderCard walker.catalog.cards "image" (imagePayload src))
  | .list tag items => (walker.visitItems tag 1 items).push "\n"
  | .card index => walker.visitCard index

def visitAll (sections : List Section) (walker : Walker) : Walker :=
  sections.foldl (fun walker content => walker.visit content) walker

end Walker

/-- The output of a section of a document when nothing else is visited. -/
def renderSection (catalog : Catalog) (document : Document) (content : Section) : String :=
  ((Walker.start catalog document).visit content).output

def renderDocument (catalog : Catalog) (document : Document) : String :=
  ((Walker.start catalog document).visitAll document.sections).output

/-- The output of the document that a JSON text holds; a text without a document renders as
nothing. -/
def renderSource (catalog : Catalog) (source : String) : String :=
  match Document.parse source with
  | .ok document => renderDocument catalog document
  | .error _ => ""

end Render
end BlogMigration
