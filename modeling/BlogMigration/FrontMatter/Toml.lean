import BlogMigration.FrontMatter.Field
import BlogMigration.Text.Hexadecimal

/-!
# TOML

A field is written on a line of its own as `key = value`. A string is written in the first of the
four styles of TOML that needs no escapes; only a string that every style would have to escape is
escaped.
-/

namespace BlogMigration
namespace FrontMatter
namespace Toml

/-- The styles of strings. Basic strings have escapes and literal ones have none; those of several
lines stand between triple quotes. -/
inductive Style where
  | basic
  | literal
  | longBasic
  | longLiteral
  deriving DecidableEq, Repr

namespace Style

def delimiter : Style → List Char
  | basic => ['"']
  | literal => ['\'']
  | longBasic => ['"', '"', '"']
  | longLiteral => ['\'', '\'', '\'']

/-- Whether line breaks stand for themselves. -/
def isLong : Style → Bool
  | longBasic | longLiteral => true
  | basic | literal => false

def isEscaped : Style → Bool
  | basic | longBasic => true
  | literal | longLiteral => false

/-- How many quotes in a row stand for themselves. -/
def freeQuotes (style : Style) : Nat :=
  if style.isLong then 2 else 0

end Style

/-- A control character other than the tab and the line feed. -/
def isControl (c : Char) : Bool :=
  (c.toNat ≤ 0x1F || c.toNat == 0x7F) && c != '\t' && c != '\n'

/-- The length of the longest run of a character, where `run` of them stand before the text. -/
def longestRun (mark : Char) (run : Nat) : List Char → Nat
  | [] => run
  | c :: rest =>
    if c = mark then longestRun mark (run + 1) rest else max run (longestRun mark 0 rest)

def isPlainIn (style : Style) (cs : List Char) : Bool :=
  !cs.any isControl && (style.isLong || !cs.contains '\n') &&
    if style.isEscaped then !cs.contains '\\' && longestRun '"' 0 cs ≤ style.freeQuotes
    else longestRun '\'' 0 cs ≤ style.freeQuotes

def style (cs : List Char) : Style :=
  if isPlainIn .basic cs then .basic
  else if isPlainIn .literal cs then .literal
  else if isPlainIn .longBasic cs then .longBasic
  else if isPlainIn .longLiteral cs then .longLiteral
  else if cs.contains '\n' then .longBasic
  else .basic

/-- A character other than a quote in a basic string. -/
def basicChar (long : Bool) (c : Char) : List Char :=
  match c with
  | '\x08' => ['\\', 'b']
  | '\t' => ['\\', 't']
  | '\n' => if long then ['\n'] else ['\\', 'n']
  | '\x0c' => ['\\', 'f']
  | '\r' => ['\\', 'r']
  | '\\' => ['\\', '\\']
  | c => if isControl c then '\\' :: 'u' :: Text.upperHex 4 c.toNat else [c]

/-- The content of a basic string, where `run` quotes stand for themselves before it. A quote that
would make their run too long is escaped. -/
def basicText (style : Style) (run : Nat) : List Char → List Char
  | [] => []
  | c :: rest =>
    if c = '"' then
      if run < style.freeQuotes then '"' :: basicText style (run + 1) rest
      else '\\' :: '"' :: basicText style 0 rest
    else basicChar style.isLong c ++ basicText style 0 rest

def content (style : Style) (cs : List Char) : List Char :=
  if style.isEscaped then basicText style 0 cs else cs

/-- A string in a style. A string with a line break starts on a line of its own. -/
def inStyle (style : Style) (cs : List Char) : List Char :=
  let start := if style.isLong && cs.contains '\n' then ['\n'] else []
  style.delimiter ++ start ++ content style cs ++ style.delimiter

def string (s : String) : List Char :=
  inStyle (style s.toList) s.toList

def value : Value → List Char
  | .text s => string s
  | .flag b => flagText b
  | .texts list => '[' :: List.intercalate [',', ' '] (list.map string) ++ [']']

def field (entry : Field) : List Char :=
  entry.1.toList ++ " = ".toList ++ value entry.2 ++ ['\n']

end Toml
end FrontMatter
end BlogMigration
