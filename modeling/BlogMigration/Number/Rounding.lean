/-!
# Rounding a quotient

The whole number nearest to a quotient of natural numbers, a tie going to the even neighbour.
-/

namespace BlogMigration
namespace Number

/-- The whole number nearest to `num / den`; a tie goes to the even neighbour. -/
def roundQuotient (num den : Nat) : Nat :=
  let below := num / den
  let left := 2 * (num % den)
  if den < left ∨ (left = den ∧ below % 2 = 1) then below + 1 else below

theorem roundQuotient_near
    (num den : Nat)
    (h : 0 < den) :
    2 * num ≤ 2 * (roundQuotient num den * den) + den ∧
      2 * (roundQuotient num den * den) ≤ 2 * num + den := by
  have parts := Nat.div_add_mod num den
  have small := Nat.mod_lt num h
  have commuted : den * (num / den) = num / den * den := Nat.mul_comm _ _
  simp only [roundQuotient]
  split
  · rw [Nat.add_mul]
    omega
  · omega

theorem roundQuotient_tie
    {num den : Nat}
    (h : 2 * (num % den) = den) :
    roundQuotient num den % 2 = 0 := by
  simp only [roundQuotient, h, Nat.lt_irrefl, true_and, false_or]
  split <;> omega

end Number
end BlogMigration
