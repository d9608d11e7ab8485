import BlogMigration.Text.Numeral
import Mathlib.Data.List.Induction

/-!
# Numerals and the numbers that they write

Digits write a number if they are the digits of the number behind any number of zeros, and this is
the only way to write it. A reader of numerals with a sign takes the digits behind the sign.
-/

namespace BlogMigration
namespace Text

/-- Digits as one of the ways to write a number. -/
def WritesNumber (cs : List Char) (n : Nat) : Prop :=
  ∃ zeros, cs = List.replicate zeros '0' ++ Nat.toDigits 10 n

theorem decimalValue_eq_ofDigitChars (cs : List Char) :
    decimalValue cs = Nat.ofDigitChars 10 cs 0 := by
  simp only [decimalValue, digitValue, Nat.ofDigitChars_eq_foldl, Nat.mul_comm]

theorem digitChar_digitValue {c : Char} (digit : c.isDigit = true) :
    digitValue c < 10 ∧ Nat.digitChar (digitValue c) = c := by
  obtain ⟨low, high⟩ := Char.isDigit_iff_toNat.mp digit
  have zero : '0'.toNat = 48 := rfl
  have nine : '9'.toNat = 57 := rfl
  have small : digitValue c < 10 := by
    rw [digitValue]
    omega
  refine ⟨small, Char.toNat_inj.mp ?_⟩
  rw [Nat.toNat_digitChar_of_lt_ten small, digitValue]
  omega

theorem writesNumber_singleton {c : Char} (digit : c.isDigit = true) :
    WritesNumber [c] (digitValue c) := by
  obtain ⟨small, same⟩ := digitChar_digitValue digit
  refine ⟨0, ?_⟩
  rw [Nat.toDigits_of_lt_base small, same]
  rfl

namespace WritesNumber

variable {cs : List Char} {n : Nat}

theorem ne_nil (writes : WritesNumber cs n) : cs ≠ [] := by
  obtain ⟨zeros, rfl⟩ := writes
  simp [Nat.toDigits_ne_nil]

theorem isDigit (writes : WritesNumber cs n) : ∀ c ∈ cs, c.isDigit = true := by
  obtain ⟨zeros, rfl⟩ := writes
  intro c member
  rcases List.mem_append.mp member with zero | digit
  · rw [(List.mem_replicate.mp zero).2]
    rfl
  · exact Nat.isDigit_of_mem_toDigits (by decide) (by decide) digit

theorem decimalValue_eq (writes : WritesNumber cs n) : decimalValue cs = n := by
  obtain ⟨zeros, rfl⟩ := writes
  rw [decimalValue_eq_ofDigitChars, Nat.ofDigitChars_append, Nat.ofDigitChars_replicate_zero,
    Nat.mul_zero, Nat.ofDigitChars_ten_toDigits]

/-- A digit more writes ten times the number and the digit. -/
theorem concat (writes : WritesNumber cs n) {c : Char} (digit : c.isDigit = true) :
    WritesNumber (cs ++ [c]) (n * 10 + digitValue c) := by
  obtain ⟨zeros, rfl⟩ := writes
  obtain ⟨small, same⟩ := digitChar_digitValue digit
  have last : Nat.toDigits 10 (digitValue c) = [c] := by
    rw [Nat.toDigits_of_lt_base small, same]
  rcases Nat.eq_zero_or_pos n with rfl | positive
  · -- The digit of zero becomes one of the zeros before the number.
    refine ⟨zeros + 1, ?_⟩
    rw [Nat.zero_mul, Nat.zero_add, last, Nat.toDigits_zero, List.replicate_succ',
      List.append_assoc]
  · refine ⟨zeros, ?_⟩
    rw [Nat.mul_comm n, ← Nat.toDigits_append_toDigits (by decide) positive small, last,
      List.append_assoc]

end WritesNumber

/-- Digits write their value. -/
theorem writesNumber_decimalValue {cs : List Char} (filled : cs ≠ [])
    (digits : ∀ c ∈ cs, c.isDigit = true) : WritesNumber cs (decimalValue cs) := by
  induction cs using List.reverseRecOn with
  | nil => exact absurd rfl filled
  | append_singleton front c ih =>
      have digit : c.isDigit = true := digits c List.mem_concat_self
      by_cases empty : front = []
      · rw [empty, List.nil_append, decimalValue, List.foldl_cons, List.foldl_nil, Nat.zero_mul,
          Nat.zero_add]
        exact writesNumber_singleton digit
      · have more := (ih empty fun other member => digits other (by simp [member])).concat digit
        rwa [decimalValue, List.foldl_append]

theorem digits?_eq_some_iff {cs : List Char} {n : Nat} :
    digits? cs = some n ↔ WritesNumber cs n := by
  constructor
  · intro read
    simp only [digits?, Option.ite_none_left_eq_some, Option.some.injEq] at read
    obtain ⟨proper, rfl⟩ := read
    simp only [Bool.or_eq_true, List.isEmpty_iff, Bool.not_eq_true', not_or,
      Bool.not_eq_false, List.all_eq_true] at proper
    exact writesNumber_decimalValue proper.1 proper.2
  · intro writes
    have all : cs.all Char.isDigit = true := List.all_eq_true.mpr writes.isDigit
    simp [digits?, writes.ne_nil, all, writes.decimalValue_eq]

/-- Any digits write a number, the one that is their value. -/
theorem writesNumber_iff_isDigit {cs : List Char} {n : Nat} :
    WritesNumber cs n ↔ cs ≠ [] ∧ (∀ c ∈ cs, c.isDigit = true) ∧ decimalValue cs = n := by
  constructor
  · exact fun writes => ⟨writes.ne_nil, writes.isDigit, writes.decimalValue_eq⟩
  · rintro ⟨filled, digits, rfl⟩
    exact writesNumber_decimalValue filled digits

/-- The digits of a number may have zeros before them, one by one. -/
theorem writesNumber_iff {cs : List Char} {n : Nat} :
    WritesNumber cs n ↔
      cs = Nat.toDigits 10 n ∨ ∃ rest, cs = '0' :: rest ∧ WritesNumber rest n := by
  constructor
  · rintro ⟨zeros, rfl⟩
    cases zeros with
    | zero => exact .inl rfl
    | succ zeros => exact .inr ⟨_, rfl, zeros, rfl⟩
  · rintro (rfl | ⟨-, rfl, zeros, rfl⟩)
    · exact ⟨0, rfl⟩
    · exact ⟨zeros + 1, rfl⟩

/-! ## Signs -/

theorem not_writesNumber_cons {c : Char} (sign : c.isDigit = false) (rest : List Char) (n : Nat) :
    ¬ WritesNumber (c :: rest) n := by
  intro writes
  exact Bool.eq_false_iff.mp sign (writes.isDigit c List.mem_cons_self)

/-- A number is written with or without a sign. Behind a minus sign this is only zero. -/
inductive WritesSigned : List Char → Nat → Prop where
  | bare {digits : List Char} {n : Nat} (writes : WritesNumber digits n) : WritesSigned digits n
  | plus {digits : List Char} {n : Nat} (writes : WritesNumber digits n) :
      WritesSigned ('+' :: digits) n
  | minus {digits : List Char} (writes : WritesNumber digits 0) : WritesSigned ('-' :: digits) 0

theorem unsignedNumeral?_eq_some_iff {cs : List Char} {n : Nat} :
    unsignedNumeral? cs = some n ↔
      WritesNumber cs n ∨ ∃ rest, cs = '+' :: rest ∧ WritesNumber rest n := by
  fun_cases unsignedNumeral? cs with
  | case1 rest => simp [digits?_eq_some_iff, not_writesNumber_cons]
  | case2 cs unsigned => simp_all [digits?_eq_some_iff]

theorem signedNumeral?_eq_natCast_iff {cs : List Char} {n : Nat} :
    signedNumeral? cs = some (n : Int) ↔ WritesSigned cs n := by
  constructor
  · intro read
    unfold signedNumeral? at read
    split at read
    · obtain ⟨value, digits, same⟩ := Option.map_eq_some_iff.mp read
      obtain rfl := Int.ofNat.inj same
      exact .plus (digits?_eq_some_iff.mp digits)
    · obtain ⟨value, digits, same⟩ := Option.map_eq_some_iff.mp read
      -- Only the negative of zero is a natural number.
      obtain ⟨rfl, rfl⟩ : value = 0 ∧ n = 0 := by
        rw [Int.ofNat_eq_natCast] at same
        omega
      exact .minus (digits?_eq_some_iff.mp digits)
    · obtain ⟨value, digits, same⟩ := Option.map_eq_some_iff.mp read
      obtain rfl := Int.ofNat.inj same
      exact .bare (digits?_eq_some_iff.mp digits)
  · intro writes
    cases writes with
    | bare writes =>
        unfold signedNumeral?
        split
        · exact absurd writes (not_writesNumber_cons rfl _ n)
        · exact absurd writes (not_writesNumber_cons rfl _ n)
        · rw [digits?_eq_some_iff.mpr writes]
          rfl
    | plus writes =>
        rw [signedNumeral?, digits?_eq_some_iff.mpr writes]
        rfl
    | minus writes =>
        rw [signedNumeral?, digits?_eq_some_iff.mpr writes]
        rfl

/-- No text writes two numbers. -/
theorem WritesSigned.unique {cs : List Char} {m n : Nat} (first : WritesSigned cs m)
    (second : WritesSigned cs n) : m = n := by
  have same := (signedNumeral?_eq_natCast_iff.mpr first).symm.trans
    (signedNumeral?_eq_natCast_iff.mpr second)
  exact Int.ofNat.inj (Option.some.inj same)

end Text
end BlogMigration
