import BlogMigration.Number.Decimal
import BlogMigration.Text.Numeral
import BlogMigration.Text.Split

/-!
# What plain scalars mean

A scalar without quotes need not be read as a string: words stand for null and for truth values, and
numerals for numbers. A numeral of digits with a needless zero in front is a string, but one that is
easily mistaken.
-/

namespace BlogMigration
namespace FrontMatter
namespace Yaml

open Text (dropFront? decimalValue)

def words : List String :=
  ["", "null", "Null", "NULL", "~", "true", "True", "TRUE", "false", "False", "FALSE"]

def specialNumbers : List String :=
  [".inf", ".Inf", ".INF", "+.inf", "+.Inf", "+.INF", "-.inf", "-.Inf", "-.INF", ".nan", ".NaN",
    ".NAN"]

/-- The value of a digit, which may be a letter in bases above ten. -/
def digit? (base : Nat) (c : Char) : Option Nat :=
  let value? :=
    if c.isDigit then some (c.toNat - '0'.toNat)
    else if c.isLower then some (c.toNat - 'a'.toNat + 10)
    else if c.isUpper then some (c.toNat - 'A'.toNat + 10)
    else none
  value?.filter fun value => value < base

def digits? (base : Nat) (cs : List Char) : Option Nat :=
  if cs.isEmpty then none
  else (cs.mapM (digit? base)).map fun values => values.foldl (fun n value => n * base + value) 0

def baseMarks : List (List Char × Nat) :=
  [(['0', 'x'], 16), (['0', 'o'], 8), (['0', 'b'], 2)]

/-- Whether a text is a numeral with the mark of a base, of a value of at most `greatest`. -/
def isMarkedNumeral (greatest : Nat) (cs : List Char) : Bool :=
  baseMarks.any fun (mark, base) =>
    ((dropFront? mark cs).bind (digits? base)).any fun value => value ≤ greatest

def greatestInteger : Nat := 0xFFFFFFFFFFFFFFFFFFFFFFFFFFFFFFFF

def greatestNegative : Nat := 0x80000000000000000000000000000000

/-- Whether a text is a whole number in a base other than ten, of at most 128 bits. -/
def isMarkedInteger : List Char → Bool
  | '+' :: rest => isMarkedNumeral greatestInteger rest
  | '-' :: rest => isMarkedNumeral greatestNegative rest
  | cs => isMarkedNumeral greatestInteger cs

def unsigned : List Char → List Char
  | '+' :: rest => rest
  | '-' :: rest => rest
  | cs => cs

/-- The exponent of a numeral, which is zero when nothing is left. -/
def exponent? : List Char → Option Int
  | [] => some 0
  | 'e' :: rest => Text.signedNumeral? rest
  | 'E' :: rest => Text.signedNumeral? rest
  | _ => none

def isFiniteNumeral (cs : List Char) : Bool :=
  let (whole, rest) := cs.span Char.isDigit
  let (fraction, rest) :=
    match rest with
    | '.' :: rest => rest.span Char.isDigit
    | rest => ([], rest)
  let digits := whole ++ fraction
  !digits.isEmpty && (exponent? rest).any fun exponent =>
    Number.isFinite (decimalValue digits) (exponent - fraction.length)

/-- Whether a text without a sign is a run of digits with a needless zero in front. -/
def hasNeedlessZero : List Char → Bool
  | '0' :: c :: rest => (c :: rest).all Char.isDigit
  | _ => false

/-- Whether a scalar without quotes is read as something else than a string, or is easily mistaken
for a number. -/
def isAmbiguous (cs : List Char) : Bool :=
  let s := String.ofList cs
  words.contains s || specialNumbers.contains s || isMarkedInteger cs ||
    isFiniteNumeral (unsigned cs) || hasNeedlessZero (unsigned cs)

end Yaml
end FrontMatter
end BlogMigration
