import BlogMigration.Render.Registry

/-!
# Cards and atoms of plain text

Cards whose payload is text already, thematic breaks, blocks of code, and line breaks.
-/

namespace BlogMigration
namespace Cards

open Render

def markdown : CardRenderer := fun payload => do
  let text ← readPayload ["markdown"] (stringField? "markdown") payload
  return text ++ "\n"

def html : CardRenderer :=
  readPayload ["html"] (stringField? "html")

def thematicBreak : CardRenderer := fun _ => .ok "---\n"

structure Code where
  code : String
  language : Option String
  deriving DecidableEq, Repr

namespace Code

def read? (payload : Json) : Option Code := do
  let code ← stringField? "code" payload
  let language ← optionalString? "language" payload
  return ⟨code, language⟩

def render (code : Code) : String :=
  "```" ++ (nonEmpty code.language).getD "" ++ "\n" ++ code.code ++ "\n```\n"

end Code

def code : CardRenderer := fun payload => do
  let code ← readPayload ["code"] Code.read? payload
  return code.render

def lineBreak : AtomRenderer := fun _ _ => .ok "\n"

end Cards
end BlogMigration
