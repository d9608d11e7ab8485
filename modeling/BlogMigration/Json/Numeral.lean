import BlogMigration.Json.Value
import BlogMigration.Number.Decimal

/-!
# Numerals in JSON text

The digits of a numeral are gathered into a significand of 64 bits. The digits before the point
that come after the first one that does not fit are dropped, each counting as a factor of ten. The
digits after the point are taken as long as they fit, and dropped from the first that does not.
-/

namespace BlogMigration
namespace Json

open Number (Binary64)
open Text (digitValue)

def significandLimit : Nat := 0x10000000000000000

/-- Digits before the point: the significand, and how many digits were dropped. -/
def wholeDigits (significand : Nat) : List Char → Nat × Nat
  | [] => (significand, 0)
  | c :: rest =>
    let next := significand * 10 + digitValue c
    if next < significandLimit then wholeDigits next rest
    else (significand, rest.length + 1)

/-- Digits after the point: the significand, and how many digits were taken. -/
def fractionDigits (significand : Nat) : List Char → Nat × Nat
  | [] => (significand, 0)
  | c :: rest =>
    let next := significand * 10 + digitValue c
    if next < significandLimit then
      let (result, taken) := fractionDigits next rest
      (result, taken + 1)
    else (significand, 0)

/-- The parts of a numeral as written; the exponent is absent when there is no exponent mark. -/
structure Numeral where
  negative : Bool
  whole : List Char
  fraction : List Char
  exponent : Option Int

namespace Numeral

def isPlain (n : Numeral) : Bool :=
  n.fraction.isEmpty && n.exponent.isNone

/-- The double that the numeral stands for, if it is in range. -/
def double? (n : Numeral) : Option Binary64 := do
  let (whole, dropped) := wholeDigits 0 n.whole
  let (significand, taken) := fractionDigits whole n.fraction
  let tenExponent : Int := dropped - taken + n.exponent.getD 0
  let x ← Binary64.ofScaled? significand tenExponent
  return if n.negative then x.neg else x

/-- The value of the numeral: an integer if it is written as one, is not a negative zero and fits
64 bits, otherwise a double. -/
def value? (n : Numeral) : Option Json :=
  let (significand, dropped) := wholeDigits 0 n.whole
  if n.isPlain && dropped == 0 && !n.negative then some (.integer significand)
  else if n.isPlain && dropped == 0 && significand != 0 && significand ≤ 0x8000000000000000 then
    some (.integer (-significand))
  else n.double?.map .double

end Numeral

end Json
end BlogMigration
