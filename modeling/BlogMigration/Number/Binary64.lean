import BlogMigration.Number.Power
import BlogMigration.Number.Rounding
import BlogMigration.Text.Numeral

/-!
# Double-precision numbers

The finite numbers of the 64-bit binary format, held exactly as a sign, a significand and a power
of two. Every operation computes its exact result and rounds it once, to the nearest number of the
format and to an even significand on a tie. A result that is too large is no number.
-/

namespace BlogMigration
namespace Number

/-- The number `significand * 2 ^ exponent`, negated when `negative`; zero has both signs. -/
structure Binary64 where
  negative : Bool
  significand : Nat
  exponent : Int
  deriving DecidableEq, Repr

namespace Binary64

def leastExponent : Int := -1074

/-- The exponent of the numbers just below the limit of the format. -/
def greatestExponent : Int := 971

/-- The significands that need no smaller exponent start here. -/
def fullSignificand : Nat := 0x10000000000000

/-- The quotient `num / den` divided by a power of two, as a quotient. -/
def scaleRatio (num den : Nat) (exponent : Int) : Nat × Nat :=
  if 0 ≤ exponent then (num, den * twoTo exponent.toNat)
  else (num * twoTo (-exponent).toNat, den)

/-- The exponent at which a positive quotient has 53 binary digits, but never below the least. -/
def unitExponent (num den : Nat) : Int :=
  let guess : Int := (num.log2 : Int) - den.log2 - 53
  let (n, d) := scaleRatio num den guess
  max leastExponent (if n < d * (2 * fullSignificand) then guess else guess + 1)

/-- The number nearest to `num / den`, unless that lies beyond the format. -/
def ofRatio? (negative : Bool) (num den : Nat) : Option Binary64 :=
  if num = 0 then some ⟨negative, 0, leastExponent⟩
  else
    let exponent := unitExponent num den
    let (n, d) := scaleRatio num den exponent
    let rounded := roundQuotient n d
    let (significand, exponent) :=
      if rounded = 2 * fullSignificand then (fullSignificand, exponent + 1)
      else (rounded, exponent)
    if exponent ≤ greatestExponent then some ⟨negative, significand, exponent⟩ else none

def ratio (x : Binary64) : Nat × Nat :=
  if 0 ≤ x.exponent then (x.significand * twoTo x.exponent.toNat, 1)
  else (x.significand, twoTo (-x.exponent).toNat)

def isZero (x : Binary64) : Bool :=
  x.significand == 0

def neg (x : Binary64) : Binary64 :=
  { x with negative := !x.negative }

def mul? (x y : Binary64) : Option Binary64 :=
  ofRatio? (x.negative != y.negative) (x.ratio.1 * y.ratio.1) (x.ratio.2 * y.ratio.2)

def div? (x y : Binary64) : Option Binary64 :=
  ofRatio? (x.negative != y.negative) (x.ratio.1 * y.ratio.2) (x.ratio.2 * y.ratio.1)

/-- The number nearest to an integer of at most 64 bits. -/
def ofInt? (n : Int) : Option Binary64 :=
  ofRatio? (n < 0) n.natAbs 1

/-- The absolute value rounded to a whole number, a tie to the even one. -/
def wholePart (x : Binary64) : Nat :=
  roundQuotient x.ratio.1 x.ratio.2

/-- The number rounded to a whole one, in all its digits; the sign stays on a zero. -/
def wholeText (x : Binary64) : String :=
  (if x.negative then "-" else "") ++ toString x.wholePart

/-- The exact value with a decimal point, without superfluous zeros after it. -/
def exactText (x : Binary64) : String :=
  let sign := if x.negative then "-" else ""
  if 0 ≤ x.exponent then sign ++ toString x.ratio.1 ++ ".0"
  else
    let places := (-x.exponent).toNat
    let scaled := x.significand * tenTo places / twoTo places
    let fraction := (Text.padded places (scaled % tenTo places)).reverse.dropWhile (· == '0')
    let shown := if fraction.isEmpty then ['0'] else fraction.reverse
    sign ++ toString (scaled / tenTo places) ++ "." ++ String.ofList shown

end Binary64

end Number
end BlogMigration
