/-!
# Decimal numerals

Numerals with an optional sign in front of their digits, and digits filled up with zeros.
-/

namespace BlogMigration
namespace Text

def digitValue (c : Char) : Nat :=
  c.toNat - '0'.toNat

def decimalValue (digits : List Char) : Nat :=
  digits.foldl (fun n c => n * 10 + digitValue c) 0

/-- Digits, of which there has to be at least one. -/
def digits? (cs : List Char) : Option Nat :=
  if cs.isEmpty || !cs.all Char.isDigit then none else some (decimalValue cs)

/-- A number in decimal digits, which a plus sign may precede. -/
def unsignedNumeral? : List Char → Option Nat
  | '+' :: rest => digits? rest
  | cs => digits? cs

def signedNumeral? : List Char → Option Int
  | '+' :: rest => (digits? rest).map Int.ofNat
  | '-' :: rest => (digits? rest).map fun n => -Int.ofNat n
  | cs => (digits? cs).map Int.ofNat

/-- The digits of a number, filled up with leading zeros to `width` places. -/
def padded (width n : Nat) : List Char :=
  let digits := Nat.toDigits 10 n
  List.replicate (width - digits.length) '0' ++ digits

def paddedText (width n : Nat) : String :=
  String.ofList (padded width n)

theorem length_padded {width n : Nat} (h : (Nat.toDigits 10 n).length ≤ width) :
    (padded width n).length = width := by
  simp only [padded, List.length_append, List.length_replicate]
  omega

end Text
end BlogMigration
