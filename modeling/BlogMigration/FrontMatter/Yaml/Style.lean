import BlogMigration.FrontMatter.Yaml.Schema
import BlogMigration.Text.Runs

/-!
# Styles of scalars

A scalar is written plainly where that leaves no doubt about it, else in single quotes, and in
double quotes, which alone have escapes, if need be. A scalar with a line feed is a literal block if
it can be one.
-/

namespace BlogMigration
namespace FrontMatter
namespace Yaml

inductive Style where
  | plain
  | singleQuoted
  | doubleQuoted
  | literal
  deriving DecidableEq, Repr

def isBreak (c : Char) : Bool :=
  c == '\n' || c == '\r' || c == '\u0085' || c == '\u2028' || c == '\u2029'

def printableRuns : List (Nat × Nat) :=
  [(0x0A, 0x0A), (0x20, 0x7E), (0xA0, 0xD7FF), (0xE000, 0xFEFE), (0xFF00, 0xFFFD),
    (0x10000, 0x10FFFF)]

def isPrintable (c : Char) : Bool :=
  Text.inRuns printableRuns c.toNat

/-- A space; a tab is none. -/
def isSpace (c : Char) : Bool :=
  c == ' '

def adjacent (before after : Char → Bool) : List Char → Bool
  | [] => false
  | [_] => false
  | a :: b :: rest => (before a && after b) || adjacent before after (b :: rest)

def startsWith (kind : Char → Bool) (cs : List Char) : Bool :=
  cs.head?.any kind

def endsWith (kind : Char → Bool) (cs : List Char) : Bool :=
  cs.getLast?.any kind

/-- The characters with a meaning of their own at the start of a plain scalar. -/
def indicators : List Char :=
  ['#', ',', '[', ']', '\x7b', '\x7d', '&', '*', '!', '|', '>', '\'', '"', '%', '@', '\x60']

/-- The characters with a meaning of their own at the start when a space or nothing follows. -/
def looseIndicators : List Char := ['?', ':', '-']

def startsLikeMarker (cs : List Char) : Bool :=
  ['-', '-', '-'].isPrefixOf cs || ['.', '.', '.'].isPrefixOf cs

def startsWithIndicator : List Char → Bool
  | [] => false
  | c :: rest =>
    indicators.contains c ||
      (looseIndicators.contains c && (rest.isEmpty || startsWith isSpace rest))

/-- Whether a plain scalar would contain the end of a key or the start of a comment. -/
def containsIndicator (cs : List Char) : Bool :=
  adjacent (· == ':') isSpace cs || endsWith (· == ':') cs || adjacent isSpace (· == '#') cs

def canBePlain (cs : List Char) : Bool :=
  cs.all (fun c => isPrintable c && !isBreak c) && !startsWith isSpace cs && !endsWith isSpace cs &&
    !startsLikeMarker cs && !startsWithIndicator cs && !containsIndicator cs

def canBeSingleQuoted (cs : List Char) : Bool :=
  cs.all isPrintable && !adjacent isSpace isBreak cs && !adjacent isBreak isSpace cs

def canBeLiteral (cs : List Char) : Bool :=
  cs.all isPrintable && !adjacent isSpace isBreak cs && !endsWith isSpace cs

def style (cs : List Char) : Style :=
  if cs.contains '\n' then if canBeLiteral cs then .literal else .doubleQuoted
  else if !isAmbiguous cs && canBePlain cs then .plain
  else if canBeSingleQuoted cs then .singleQuoted
  else .doubleQuoted

end Yaml
end FrontMatter
end BlogMigration
