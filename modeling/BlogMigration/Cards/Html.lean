import BlogMigration.Text.Split

/-!
# Escapes in HTML

The characters that would end a text or a quoted attribute are written as entities.
-/

namespace BlogMigration
namespace Cards
namespace Html

def attributeChar (c : Char) : List Char :=
  match c with
  | '&' => "&amp;".toList
  | '"' => "&quot;".toList
  | '<' => "&lt;".toList
  | '>' => "&gt;".toList
  | c => [c]

def textChar (c : Char) : List Char :=
  match c with
  | '&' => "&amp;".toList
  | '<' => "&lt;".toList
  | '>' => "&gt;".toList
  | c => [c]

def escapeAttribute (s : String) : String :=
  Text.expand attributeChar s

def escapeText (s : String) : String :=
  Text.expand textChar s

end Html
end Cards
end BlogMigration
