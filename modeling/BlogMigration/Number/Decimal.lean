import BlogMigration.Number.Binary64

/-!
# Decimal numerals as double-precision numbers

A numeral with a fraction or an exponent is a whole number times a power of ten. It can be turned
into a number of the binary format with one rounding, or by scaling in steps that each round.
-/

namespace BlogMigration
namespace Number

namespace Binary64

def greatestTenPower : Nat := 308

def tenPower? (k : Nat) : Option Binary64 :=
  ofRatio? false (tenTo k) 1

/-- Multiplies by a power of ten; only zero can be scaled beyond the largest power. -/
def scaleUp? (x : Binary64) (k : Nat) : Option Binary64 :=
  if k ≤ greatestTenPower then (tenPower? k).bind x.mul?
  else if x.isZero then some x
  else none

def scaleDown? (x : Binary64) (k : Nat) : Option Binary64 :=
  if _small : k ≤ greatestTenPower then (tenPower? k).bind x.div?
  else if x.isZero then some x
  else do
    let smaller ← (tenPower? greatestTenPower).bind x.div?
    smaller.scaleDown? (k - greatestTenPower)
termination_by k
decreasing_by
  simp only [greatestTenPower] at _small ⊢
  omega

/-- The whole number rounded to the format, then scaled by a power of ten in rounding steps. -/
def ofScaled? (significand : Nat) (tenExponent : Int) : Option Binary64 := do
  let whole ← ofRatio? false significand 1
  if 0 ≤ tenExponent then whole.scaleUp? tenExponent.toNat
  else whole.scaleDown? (-tenExponent).toNat

end Binary64

/-- Whether `digits * 10 ^ tenExponent`, rounded once, lies within the binary format. The limit is
halfway between the largest number and the power of two that follows it. -/
def isFinite (digits : Nat) (tenExponent : Int) : Bool :=
  let limit := twoTo 1024 - twoTo 970
  if digits = 0 then true
  else if 0 ≤ tenExponent then
    tenExponent.toNat ≤ Binary64.greatestTenPower && digits * tenTo tenExponent.toNat < limit
  else
    let size := (Nat.toDigits 10 digits).length
    size ≤ (-tenExponent).toNat || digits < limit * tenTo (-tenExponent).toNat

end Number
end BlogMigration
