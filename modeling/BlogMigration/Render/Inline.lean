import BlogMigration.Mobiledoc.Document
import BlogMigration.Text.Blank
import BlogMigration.Text.Split

/-!
# Inline formats in Markdown

Each inline format has an opening and a closing delimiter. Formats that Markdown lacks are written
as inline HTML, and a format that is not known leaves its text as it is.
-/

namespace BlogMigration
namespace Render
namespace Inline

open Mobiledoc (Markup)

def openTag (tag : String) : String :=
  match tag with
  | "strong" | "b" => "**"
  | "em" | "i" => "*"
  | "code" => "`"
  | "s" | "strike" | "del" => "~~"
  | "u" => "<u>"
  | "sub" => "<sub>"
  | "sup" => "<sup>"
  | "a" => "["
  | _ => ""

def needsBrackets (c : Char) : Bool :=
  Text.isBlank c || c == '(' || c == ')' || c == '<' || c == '>'

def bracketedChar (c : Char) : List Char :=
  match c with
  | '\\' => ['\\', '\\']
  | '<' => ['\\', '<']
  | '>' => ['\\', '>']
  | '\n' => ['%', '0', 'A']
  | '\r' => ['%', '0', 'D']
  | c => [c]

/-- A link destination, in angle brackets when its characters ask for them. -/
def destination (href : String) : String :=
  if href.toList.any needsBrackets then "<" ++ Text.expand bracketedChar href ++ ">" else href

def opening (markup : Markup) : String :=
  openTag markup.tag

/-- The closing delimiter of a markup; that of a link carries the destination. -/
def closing (markup : Markup) : String :=
  match markup.tag with
  | "a" => "](" ++ destination ((markup.attribute? "href").getD "") ++ ")"
  | "u" => "</u>"
  | "sub" => "</sub>"
  | "sup" => "</sup>"
  | _ => opening markup

end Inline
end Render
end BlogMigration
