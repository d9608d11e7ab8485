import BlogMigration.FrontMatter.Field
import BlogMigration.FrontMatter.Yaml.Style
import BlogMigration.Text.Hexadecimal

/-!
# YAML

A field is written as `key: value`, and the items of a list follow the key, each on a line of its
own after a dash.
-/

namespace BlogMigration
namespace FrontMatter
namespace Yaml

def indentation : List Char := [' ', ' ']

/-- The content of single quotes. A quote is doubled, and a line after a line break is indented;
`fresh` says whether a line break stands before the text. -/
def singleQuotedText (fresh : Bool) : List Char → List Char
  | [] => if fresh then indentation else []
  | c :: rest =>
    if isBreak c then c :: singleQuotedText true rest
    else
      (if fresh then indentation else []) ++ (if c = '\'' then ['\'', '\''] else [c]) ++
        singleQuotedText false rest

def codePointEscape (n : Nat) : List Char :=
  if n ≤ 0xFF then '\\' :: 'x' :: Text.upperHex 2 n
  else if n ≤ 0xFFFF then '\\' :: 'u' :: Text.upperHex 4 n
  else '\\' :: 'U' :: Text.upperHex 8 n

def doubleQuotedChar (c : Char) : List Char :=
  match c with
  | '\x00' => ['\\', '0']
  | '\x07' => ['\\', 'a']
  | '\x08' => ['\\', 'b']
  | '\t' => ['\\', 't']
  | '\n' => ['\\', 'n']
  | '\x0b' => ['\\', 'v']
  | '\x0c' => ['\\', 'f']
  | '\r' => ['\\', 'r']
  | '\x1b' => ['\\', 'e']
  | '"' => ['\\', '"']
  | '\\' => ['\\', '\\']
  | '\u0085' => ['\\', 'N']
  | '\u2028' => ['\\', 'L']
  | '\u2029' => ['\\', 'P']
  | c => if isPrintable c then [c] else codePointEscape c.toNat

/-- The hint for the indentation of a literal block, which its first line would not show. -/
def indentationHint (cs : List Char) : List Char :=
  if startsWith (fun c => isSpace c || isBreak c) cs then ['2'] else []

/-- The hint for the line breaks at the end of a literal block: none, one, or all of them count. -/
def endingHint (cs : List Char) : List Char :=
  match cs.reverse with
  | [] => ['-']
  | last :: before =>
    if !isBreak last then ['-']
    else if before.isEmpty || startsWith isBreak before then ['+']
    else []

/-- The lines of a literal block; `fresh` says whether the text starts a line. -/
def literalText (fresh : Bool) : List Char → List Char
  | [] => []
  | c :: rest =>
    if isBreak c then c :: literalText true rest
    else (if fresh then indentation else []) ++ c :: literalText false rest

def inStyle (style : Style) (cs : List Char) : List Char :=
  match style with
  | .plain => cs
  | .singleQuoted => '\'' :: singleQuotedText false cs ++ ['\'']
  | .doubleQuoted => '"' :: cs.flatMap doubleQuotedChar ++ ['"']
  | .literal => '|' :: indentationHint cs ++ endingHint cs ++ '\n' :: literalText true cs

def string (s : String) : List Char :=
  inStyle (style s.toList) s.toList

/-- A text with a line feed at its end unless it ends with a line break. -/
def ended (cs : List Char) : List Char :=
  if endsWith isBreak cs then cs else cs ++ ['\n']

def field (entry : Field) : List Char :=
  let key := entry.1.toList
  match entry.2 with
  | .text s => ended (key ++ ": ".toList ++ string s)
  | .flag b => ended (key ++ ": ".toList ++ flagText b)
  | .texts list => key ++ ":\n".toList ++ list.flatMap fun s => ended ("- ".toList ++ string s)

end Yaml
end FrontMatter
end BlogMigration
