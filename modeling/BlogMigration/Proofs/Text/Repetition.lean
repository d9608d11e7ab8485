import BlogMigration.Text.Split

/-!
# Repeated characters at an end of a text

A character is taken off an end of a text as often as it stands there. What is left is told by two
facts: the text is it with some of the characters put back, and it has no further one at that end.
-/

namespace BlogMigration
namespace Text

def repeated (c : Char) (count : Nat) : String :=
  String.ofList (List.replicate count c)

theorem dropWhile_replicate_append (c : Char) (count : Nat) {rest : List Char}
    (other : rest.head? ≠ some c) :
    (List.replicate count c ++ rest).dropWhile (· == c) = rest := by
  induction count with
  | zero =>
      cases rest with
      | nil => rfl
      | cons first tail =>
          have apart : first ≠ c := fun same => other (congrArg some same)
          exact List.dropWhile_cons_of_neg (by simpa using apart)
  | succ count ih =>
      rw [List.replicate_succ, List.cons_append, List.dropWhile_cons, if_pos (beq_self_eq_true c)]
      exact ih

theorem dropWhile_eq_iff {c : Char} {cs rest : List Char} :
    cs.dropWhile (· == c) = rest ↔
      (∃ count, cs = List.replicate count c ++ rest) ∧ rest.head? ≠ some c := by
  constructor
  · rintro rfl
    constructor
    · have all : ∀ x ∈ cs.takeWhile (· == c), x = c := fun x member => by
        simpa using List.all_eq_true.mp List.all_takeWhile x member
      refine ⟨(cs.takeWhile (· == c)).length, ?_⟩
      rw [← List.eq_replicate_of_mem all]
      exact List.takeWhile_append_dropWhile.symm
    · intro first
      have stops := List.head?_dropWhile_not (· == c) cs
      simp [first] at stops
  · rintro ⟨⟨count, rfl⟩, other⟩
    exact dropWhile_replicate_append c count other

theorem ofList_dropWhile_eq_iff {c : Char} {s rest : String} :
    String.ofList (s.toList.dropWhile (· == c)) = rest ↔
      (∃ count, s = repeated c count ++ rest) ∧ rest.toList.head? ≠ some c := by
  have whole (count : Nat) : s = repeated c count ++ rest ↔
      s.toList = List.replicate count c ++ rest.toList := by
    rw [← String.toList_inj, String.toList_append, repeated, String.toList_ofList]
  rw [← String.toList_inj, String.toList_ofList, dropWhile_eq_iff]
  simp only [whole]

theorem ofList_dropWhile_reverse_eq_iff {c : Char} {s front : String} :
    String.ofList (s.toList.reverse.dropWhile (· == c)).reverse = front ↔
      (∃ count, s = front ++ repeated c count) ∧ front.toList.getLast? ≠ some c := by
  have whole (count : Nat) : s = front ++ repeated c count ↔
      s.toList.reverse = List.replicate count c ++ front.toList.reverse := by
    rw [← String.toList_inj, String.toList_append, repeated, String.toList_ofList,
      ← List.reverse_inj, List.reverse_append, List.reverse_replicate]
  rw [← String.toList_inj, String.toList_ofList, List.reverse_eq_iff, dropWhile_eq_iff,
    List.head?_reverse]
  simp only [whole]

end Text
end BlogMigration
