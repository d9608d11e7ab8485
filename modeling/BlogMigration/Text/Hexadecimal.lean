/-!
# Hexadecimal digits

Code points as escapes write them: in upper-case hexadecimal of a fixed number of places.
-/

namespace BlogMigration
namespace Text

/-- The digits of a number in upper-case hexadecimal, filled up with leading zeros to `width`
places. -/
def upperHex (width n : Nat) : List Char :=
  let digits := (Nat.toDigits 16 n).map Char.toUpper
  List.replicate (width - digits.length) '0' ++ digits

end Text
end BlogMigration
