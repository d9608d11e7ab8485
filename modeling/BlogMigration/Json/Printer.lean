import BlogMigration.Json.Value

/-!
# Writing JSON text

Values are written without white space. A double always has a decimal point, so that it is read
back as a double, and its digits are exact.
-/

namespace BlogMigration
namespace Json

def writtenChar (c : Char) : List Char :=
  if c = '"' then ['\\', '"']
  else if c = '\\' then ['\\', '\\']
  else if c.toNat < 0x20 then
    let digits := Nat.toDigits 16 c.toNat
    ['\\', 'u'] ++ List.replicate (4 - digits.length) '0' ++ digits
  else [c]

def writtenString (s : String) : String :=
  String.ofList ('"' :: s.toList.flatMap writtenChar ++ ['"'])

mutual

def compress : Json → String
  | .null => "null"
  | .bool true => "true"
  | .bool false => "false"
  | .integer n => toString n
  | .double x => x.exactText
  | .string s => writtenString s
  | .array items => "[" ++ ",".intercalate (compressItems items) ++ "]"
  | .object fields => "\x7b" ++ ",".intercalate (compressFields fields) ++ "\x7d"

def compressItems : List Json → List String
  | [] => []
  | item :: rest => compress item :: compressItems rest

def compressFields : List (String × Json) → List String
  | [] => []
  | (name, value) :: rest =>
    (writtenString name ++ ":" ++ compress value) :: compressFields rest

end

end Json
end BlogMigration
