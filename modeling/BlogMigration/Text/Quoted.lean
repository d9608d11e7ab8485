import BlogMigration.Text.HiddenTable

/-!
# Quoted text

Strings shown inside a message stand in double quotes. A quote, a backslash and the common control
characters have short escapes; every other character that does not show by itself is written by
its code point in hexadecimal.
-/

namespace BlogMigration
namespace Text

/-- The code point of a character in lower-case hexadecimal, between braces. -/
def codePointEscape (c : Char) : List Char :=
  "\\u\x7b".toList ++ Nat.toDigits 16 c.toNat ++ ['\x7d']

def quotedChar (c : Char) : List Char :=
  match c with
  | '\x00' => ['\\', '0']
  | '\t' => ['\\', 't']
  | '\n' => ['\\', 'n']
  | '\r' => ['\\', 'r']
  | '"' => ['\\', '"']
  | '\\' => ['\\', '\\']
  | c => if isHidden c then codePointEscape c else [c]

def quoted (s : String) : String :=
  String.ofList ('"' :: s.toList.flatMap quotedChar ++ ['"'])

/-- Names in quotes, separated by commas, between square brackets. -/
def quotedList (names : List String) : String :=
  "[" ++ ", ".intercalate (names.map quoted) ++ "]"

end Text
end BlogMigration
