import BlogMigration.Text.Hexadecimal
import BlogMigration.Text.Split

/-!
# Lines of texts

A text is cut into lines at its line feeds, so that the last line is the one that no line feed ends.
A text holds a line if that is one of the others. This shows in the characters alone: the line
stands between two line feeds, of which the first one may be thought before the text. A character
that is no part of the line keeps what is before it and what is after it apart.
-/

namespace BlogMigration
namespace Text

def lines (cs : List Char) : List (List Char) :=
  splitAll '\n' cs

/-- Lines as a text, each with its line feed. -/
def unlines (all : List (List Char)) : List Char :=
  all.flatMap fun line => line ++ ['\n']

/-- A text that consists of whole lines. -/
def IsWhole (cs : List Char) : Prop :=
  cs = [] ∨ cs.getLast? = some '\n'

/-- A line is one of those that a line feed ends in the text. -/
def HoldsLine (line cs : List Char) : Prop :=
  line ∈ (lines cs).dropLast

/-! ## Cutting -/

theorem splitAll_of_not_mem {separator : Char} {cs : List Char} (absent : separator ∉ cs) :
    splitAll separator cs = [cs] := by
  induction cs with
  | nil => rfl
  | cons c rest ih =>
      have apart : c ≠ separator := fun same => absent (same ▸ List.mem_cons_self)
      rw [splitAll, if_neg apart, ih fun member => absent (List.mem_cons_of_mem c member)]

/-- A text without separators becomes a part of the first piece after it. -/
theorem splitAll_append_of_not_mem {separator : Char} {front : List Char}
    (absent : separator ∉ front) (back : List Char) :
    splitAll separator (front ++ back) = (splitAll separator back).modifyHead (front ++ ·) := by
  induction front with
  | nil => exact (congrFun List.modifyHead_id _).symm
  | cons c rest ih =>
      have apart : c ≠ separator := fun same => absent (same ▸ List.mem_cons_self)
      rw [List.cons_append, splitAll, if_neg apart,
        ih fun member => absent (List.mem_cons_of_mem c member)]
      cases pieces : splitAll separator back with
      | nil => exact absurd pieces (splitAll_ne_nil separator back)
      | cons piece others => rfl

theorem splitAll_append_separator (separator : Char) (front back : List Char) :
    splitAll separator (front ++ separator :: back) =
      splitAll separator front ++ splitAll separator back := by
  induction front with
  | nil => simp [splitAll]
  | cons c rest ih =>
      rw [List.cons_append, splitAll, splitAll, ih]
      split
      · rfl
      · cases pieces : splitAll separator rest with
        | nil => exact absurd pieces (splitAll_ne_nil separator rest)
        | cons piece others => rfl

theorem lines_append_feed (front back : List Char) :
    lines (front ++ '\n' :: back) = lines front ++ lines back :=
  splitAll_append_separator '\n' front back

theorem lines_cons_of_ne {c : Char} (inner : c ≠ '\n') (cs : List Char) :
    lines (c :: cs) = (lines cs).modifyHead (c :: ·) := by
  have absent : '\n' ∉ [c] := by simpa using inner.symm
  exact splitAll_append_of_not_mem absent cs

theorem lines_ne_nil (cs : List Char) : lines cs ≠ [] :=
  splitAll_ne_nil '\n' cs

/-- Every line starts behind a line feed, the first one behind one that is added. -/
theorem flatMap_lines (cs : List Char) : (lines cs).flatMap (List.cons '\n') = '\n' :: cs := by
  induction cs with
  | nil => rfl
  | cons c rest ih =>
      cases pieces : lines rest with
      | nil => exact absurd pieces (lines_ne_nil rest)
      | cons piece others =>
          rw [pieces] at ih
          rw [lines] at pieces ⊢
          rw [splitAll, pieces]
          split
          · next feed =>
              rw [feed, List.flatMap_cons, ih]
              rfl
          · rw [List.flatMap_cons, List.cons_append, List.cons_append]
            rw [List.flatMap_cons, List.cons_append] at ih
            rw [List.tail_eq_of_cons_eq ih]

theorem feed_cons_unlines (all : List (List Char)) :
    '\n' :: unlines all = all.flatMap (List.cons '\n') ++ ['\n'] := by
  induction all with
  | nil => rfl
  | cons line rest ih =>
      have apart : unlines (line :: rest) = line ++ '\n' :: unlines rest := by simp [unlines]
      rw [apart, ih, List.flatMap_cons, List.cons_append, List.cons_append, List.append_assoc]

/-- With a line feed added at the end, a text consists of its lines. -/
theorem unlines_lines (cs : List Char) : unlines (lines cs) = cs ++ ['\n'] := by
  have fed := feed_cons_unlines (lines cs)
  rw [flatMap_lines, List.cons_append] at fed
  exact List.tail_eq_of_cons_eq fed

theorem feed_not_mem_of_mem_lines {line cs : List Char} (member : line ∈ lines cs) :
    '\n' ∉ line :=
  separator_not_mem_splitAll '\n' cs line member

/-- Whole lines before a text are its first lines. -/
theorem lines_unlines_append {all : List (List Char)} (single : ∀ line ∈ all, '\n' ∉ line)
    (cs : List Char) : lines (unlines all ++ cs) = all ++ lines cs := by
  induction all with
  | nil => rfl
  | cons line rest ih =>
      have apart : unlines (line :: rest) ++ cs = line ++ '\n' :: (unlines rest ++ cs) := by
        simp [unlines]
      rw [apart, lines_append_feed, ih fun other member => single other (by simp [member]), lines,
        splitAll_of_not_mem (single line (by simp))]
      rfl

theorem lines_unlines {all : List (List Char)} (single : ∀ line ∈ all, '\n' ∉ line) :
    lines (unlines all) = all ++ [[]] := by
  have cut := lines_unlines_append single []
  rwa [List.append_nil] at cut

theorem count_feed_unlines (all : List (List Char)) :
    (unlines all).count '\n' = all.flatten.count '\n' + all.length := by
  induction all with
  | nil => rfl
  | cons line rest ih =>
      have apart : unlines (line :: rest) = line ++ '\n' :: unlines rest := by simp [unlines]
      rw [apart, List.count_append, List.count_cons_self, ih, List.flatten_cons, List.count_append,
        List.length_cons]
      omega

/-- There are as many line feeds as lines if these are lines indeed. -/
theorem count_feed_unlines_eq_length_iff (all : List (List Char)) :
    (unlines all).count '\n' = all.length ↔ ∀ line ∈ all, '\n' ∉ line := by
  rw [count_feed_unlines, Nat.add_eq_right, List.count_eq_zero, List.mem_flatten, not_exists]
  exact forall_congr' fun line => not_and

theorem isWhole_unlines (all : List (List Char)) : IsWhole (unlines all) := by
  rcases List.eq_nil_or_concat all with rfl | ⟨front, last, rfl⟩
  · exact .inl rfl
  · exact .inr (by simp [unlines])

/-- Whole lines are those of a text with a line feed added, or none at all. -/
theorem IsWhole.eq_unlines {cs : List Char} (whole : IsWhole cs) :
    ∃ all, cs = unlines all ∧ (∀ line ∈ all, '\n' ∉ line) := by
  rcases whole with rfl | ended
  · exact ⟨[], rfl, by simp⟩
  · obtain ⟨front, rfl⟩ := List.getLast?_eq_some_iff.mp ended
    exact ⟨lines front, (unlines_lines front).symm, fun _ => feed_not_mem_of_mem_lines⟩

/-! ## Lines between line feeds -/

/-- A line between two line feeds. -/
def enclosed (line : List Char) : List Char :=
  '\n' :: line ++ ['\n']

theorem mem_dropLast_iff {α : Type} (x : α) (items : List α) :
    x ∈ items.dropLast ↔ ∃ before next after, items = before ++ x :: next :: after := by
  constructor
  · intro member
    have filled : items ≠ [] := by
      rintro rfl
      cases member
    obtain ⟨before, after, cut⟩ := List.append_of_mem member
    have all := List.dropLast_concat_getLast filled
    rw [cut, List.append_assoc, List.cons_append] at all
    cases after with
    | nil => exact ⟨before, _, [], all.symm⟩
    | cons next after => exact ⟨before, next, _, all.symm⟩
  · rintro ⟨before, next, after, rfl⟩
    rw [List.dropLast_append_cons, List.dropLast_cons_cons]
    exact List.mem_append_right before List.mem_cons_self

/-- A text holds a line if it has the line with a line feed at both ends, the first of which may
be the one before the text. -/
theorem holdsLine_iff {line : List Char} (single : '\n' ∉ line) (cs : List Char) :
    HoldsLine line cs ↔ enclosed line <:+: '\n' :: cs := by
  rw [HoldsLine, mem_dropLast_iff]
  constructor
  · rintro ⟨before, next, after, all⟩
    refine ⟨before.flatMap (List.cons '\n'), next ++ after.flatMap (List.cons '\n'), ?_⟩
    rw [← flatMap_lines, all]
    simp [enclosed]
  · rintro ⟨before, after, cut⟩
    obtain ⟨next, others, rest⟩ := List.exists_cons_of_ne_nil (lines_ne_nil after)
    cases before with
    | nil =>
        have tail : cs = line ++ '\n' :: after := by
          simpa [enclosed] using (List.tail_eq_of_cons_eq cut).symm
        refine ⟨[], next, others, ?_⟩
        rw [tail, lines_append_feed, rest, lines, splitAll_of_not_mem single]
        rfl
    | cons c before =>
        have tail : cs = before ++ '\n' :: (line ++ '\n' :: after) := by
          simpa [enclosed] using (List.tail_eq_of_cons_eq cut).symm
        refine ⟨lines before, next, others, ?_⟩
        rw [tail, lines_append_feed, lines_append_feed, rest, lines, lines,
          splitAll_of_not_mem single]
        rfl

variable {pattern front back : List Char} {c : Char}

theorem infix_cons_iff_of_not_mem (filled : pattern ≠ []) (guard : c ∉ pattern) :
    pattern <:+: c :: back ↔ pattern <:+: back := by
  rw [List.infix_cons_iff]
  refine or_iff_right fun atStart => ?_
  rcases List.prefix_cons_iff.mp atStart with empty | ⟨rest, cut, -⟩
  · exact filled empty
  · exact guard (cut ▸ List.mem_cons_self)

/-- A character outside of a pattern keeps the texts around it apart. -/
theorem infix_append_cons_iff (filled : pattern ≠ []) (guard : c ∉ pattern) :
    pattern <:+: front ++ c :: back ↔ pattern <:+: front ∨ pattern <:+: back := by
  rw [List.infix_append_iff, infix_cons_iff_of_not_mem filled guard]
  constructor
  · rintro (inFront | inBack | ⟨first, second, cut, atEnd, atStart⟩)
    · exact .inl inFront
    · exact .inr inBack
    · rcases List.prefix_cons_iff.mp atStart with rfl | ⟨rest, rfl, -⟩
      · rw [List.append_nil] at cut
        exact .inl (cut ▸ atEnd.isInfix)
      · rw [cut] at guard
        exact absurd (List.mem_append_right first List.mem_cons_self) guard
  · rintro (inFront | inBack)
    · exact .inl inFront
    · exact .inr (.inl inBack)

/-- A pattern starts behind a text that lacks its first character. -/
theorem infix_append_iff_of_head_not_mem {start : Char} (absent : start ∉ front) :
    start :: pattern <:+: front ++ back ↔ start :: pattern <:+: back := by
  rw [List.infix_append_iff]
  constructor
  · rintro (inFront | inBack | ⟨first, second, cut, atEnd, atStart⟩)
    · exact absurd (inFront.subset List.mem_cons_self) absent
    · exact inBack
    · cases first with
      | nil => exact cut ▸ atStart.isInfix
      | cons c first =>
          have same : start = c := List.head_eq_of_cons_eq cut
          exact absurd (atEnd.subset (same ▸ List.mem_cons_self)) absent
  · exact fun inBack => .inr (.inl inBack)

/-! ## Texts of one line -/

theorem not_holdsLine_of_single {line cs : List Char} (single : '\n' ∉ cs) :
    ¬ HoldsLine line cs := by
  rw [HoldsLine, lines, splitAll_of_not_mem single]
  exact List.not_mem_nil

theorem exists_digitChar_of_mem_toDigits {n : Nat} {c : Char} (member : c ∈ Nat.toDigits 16 n) :
    ∃ d < 16, c = Nat.digitChar d := by
  induction n using Nat.strongRecOn generalizing c with
  | ind n ih =>
      rw [Nat.toDigits_eq_if (by decide)] at member
      split at member
      · next small => exact ⟨n, small, by simpa using member⟩
      · rcases List.mem_append.mp member with front | last
        · exact ih (n / 16) (by omega) front
        · exact ⟨n % 16, Nat.mod_lt n (by decide), by simpa using last⟩

theorem feed_not_mem_upperHex (width n : Nat) : '\n' ∉ upperHex width n := by
  have visible : ∀ d < 16, '\n' ≠ (Nat.digitChar d).toUpper := by decide
  simp only [upperHex, List.mem_append, List.mem_replicate, List.mem_map, not_or]
  refine ⟨fun zero => absurd zero.2 (by decide), ?_⟩
  rintro ⟨c, member, upper⟩
  obtain ⟨d, small, rfl⟩ := exists_digitChar_of_mem_toDigits member
  exact visible d small upper.symm

end Text
end BlogMigration
