/-!
# The order of bytes

Strings are compared by their characters. This is the order of their bytes in UTF-8, since of two
characters the lesser one has the lesser bytes: either its first byte is less, or the first bytes
are equal and as many bytes follow, each with six more bits of the code point.
-/

namespace BlogMigration
namespace Text

def bytes (s : String) : List UInt8 :=
  s.toUTF8.data.toList

/-- What is left of a code point above a number of groups of six bits. -/
def bitsAbove : Nat → Nat → Nat
  | 0, point => point
  | count + 1, point => bitsAbove count point / 64

/-- The last bytes of an encoding, each of which holds six bits of the code point. -/
def continuation : Nat → Nat → List UInt8
  | 0, _ => []
  | count + 1, point => UInt8.ofNat (bitsAbove count point % 64 + 0x80) :: continuation count point

/-- How many bytes follow the first one in the encoding of a code point, and what that one is. -/
inductive LeadByte : Nat → Nat → Nat → Prop where
  | alone {point : Nat} (last : point ≤ 0x7f) : LeadByte point 0 (bitsAbove 0 point)
  | two {point : Nat} (first : 0x7f < point) (last : point ≤ 0x7ff) :
      LeadByte point 1 (bitsAbove 1 point + 0xc0)
  | three {point : Nat} (first : 0x7ff < point) (last : point ≤ 0xffff) :
      LeadByte point 2 (bitsAbove 2 point + 0xe0)
  | four {point : Nat} (first : 0xffff < point) (last : point ≤ 0x10ffff) :
      LeadByte point 3 (bitsAbove 3 point + 0xf0)

/-! ## Characters -/

theorem codePoint_le (c : Char) : c.val.toNat ≤ 0x10ffff := by
  have valid := c.valid
  simp only [UInt32.isValidChar, Nat.isValidChar] at valid
  omega

theorem utf8EncodeChar_eq (c : Char) :
    ∃ count lead, LeadByte c.val.toNat count lead ∧
      String.utf8EncodeChar c = UInt8.ofNat lead :: continuation count c.val.toNat := by
  have bound := codePoint_le c
  simp only [String.utf8EncodeChar]
  generalize c.val.toNat = point at bound ⊢
  split
  · next last => exact ⟨0, _, .alone last, rfl⟩
  · next above =>
    split
    · next last =>
      refine ⟨1, _, .two (Nat.lt_of_not_le above) last, ?_⟩
      have small : point / 64 < 0x20 := by omega
      simp [continuation, bitsAbove, Nat.mod_eq_of_lt small]
    · next above =>
      split
      · next last =>
        refine ⟨2, _, .three (Nat.lt_of_not_le above) last, ?_⟩
        have small : point / 4096 < 0x10 := by omega
        simp [continuation, bitsAbove, Nat.div_div_eq_div_mul, Nat.mod_eq_of_lt small]
      · next above =>
        refine ⟨3, _, .four (Nat.lt_of_not_le above) bound, ?_⟩
        have small : point / 262144 < 0x8 := by omega
        simp [continuation, bitsAbove, Nat.div_div_eq_div_mul, Nat.mod_eq_of_lt small]

/-- The first byte of the lesser code point is less, or the two code points differ in the bytes that
follow alone. -/
theorem LeadByte.lt_or_eq {point other count otherCount lead otherLead : Nat}
    (less : point < other) (first : LeadByte point count lead)
    (second : LeadByte other otherCount otherLead) :
    lead < otherLead ∨
      lead = otherLead ∧ count = otherCount ∧ bitsAbove count point = bitsAbove count other := by
  cases first <;> cases second <;> simp only [bitsAbove, true_and] <;> omega

theorem LeadByte.lt_byte {point count lead : Nat} (first : LeadByte point count lead) :
    lead < 256 := by
  cases first <;> simp only [bitsAbove] <;> omega

theorem bitsAbove_le {point other : Nat} (below : point ≤ other) (count : Nat) :
    bitsAbove count point ≤ bitsAbove count other := by
  induction count with
  | zero => exact below
  | succ count ih => exact Nat.div_le_div_right ih

theorem continuation_append_lt {count point other : Nat} (less : point < other)
    (same : bitsAbove count point = bitsAbove count other) (front back : List UInt8) :
    continuation count point ++ front < continuation count other ++ back := by
  induction count with
  | zero => exact absurd same (Nat.ne_of_lt less)
  | succ count ih =>
      rw [continuation, continuation, List.cons_append, List.cons_append, List.cons_lt_cons_iff]
      rw [bitsAbove, bitsAbove] at same
      rcases Nat.lt_or_eq_of_le (bitsAbove_le (Nat.le_of_lt less) count) with apart | equal
      · left
        rw [UInt8.lt_iff_toNat_lt, UInt8.toNat_ofNat', UInt8.toNat_ofNat']
        omega
      · right
        rw [equal]
        exact ⟨rfl, ih equal⟩

/-- The bytes of the lesser character are less, whatever follows them. -/
theorem utf8EncodeChar_append_lt {c d : Char} (less : c < d) (front back : List UInt8) :
    String.utf8EncodeChar c ++ front < String.utf8EncodeChar d ++ back := by
  obtain ⟨count, lead, first, encoded⟩ := utf8EncodeChar_eq c
  obtain ⟨otherCount, otherLead, second, otherEncoded⟩ := utf8EncodeChar_eq d
  rw [encoded, otherEncoded, List.cons_append, List.cons_append, List.cons_lt_cons_iff]
  have lesser : c.val.toNat < d.val.toNat := less
  rcases first.lt_or_eq lesser second with apart | ⟨rfl, rfl, same⟩
  · left
    rw [UInt8.lt_iff_toNat_lt, UInt8.toNat_ofNat', UInt8.toNat_ofNat',
      Nat.mod_eq_of_lt first.lt_byte, Nat.mod_eq_of_lt second.lt_byte]
    exact apart
  · right
    exact ⟨rfl, continuation_append_lt lesser same front back⟩

/-! ## Strings -/

theorem bytes_eq (s : String) : bytes s = s.toList.flatMap String.utf8EncodeChar := by
  rw [bytes, String.toUTF8_eq_toByteArray, ← String.utf8Encode_toList, List.utf8Encode,
    List.toList_data_toByteArray]

/-- A string that is before another one has the lesser bytes. -/
theorem bytes_lt {s t : String} (less : s < t) : bytes s < bytes t := by
  have lesser : s.toList < t.toList := less
  rw [bytes_eq, bytes_eq]
  generalize s.toList = cs, t.toList = ds at lesser
  induction lesser with
  | @nil c cs =>
      obtain ⟨count, lead, -, encoded⟩ := utf8EncodeChar_eq c
      rw [List.flatMap_nil, List.flatMap_cons, encoded, List.cons_append]
      exact List.nil_lt_cons _ _
  | rel less =>
      rw [List.flatMap_cons, List.flatMap_cons]
      exact utf8EncodeChar_append_lt less _ _
  | cons _ ih =>
      rw [List.flatMap_cons, List.flatMap_cons]
      exact List.append_left_lt ih

/-- The order of strings is that of their bytes. -/
theorem bytes_lt_iff {s t : String} : bytes s < bytes t ↔ s < t := by
  constructor
  · intro less
    refine String.not_le.mp fun above => ?_
    by_cases same : s = t
    · rw [same] at less
      exact List.lt_irrefl _ less
    · have more : t < s := String.not_le.mp fun below => same (String.le_antisymm below above)
      exact List.lt_asymm less (bytes_lt more)
  · exact bytes_lt

end Text
end BlogMigration
