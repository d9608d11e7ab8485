import BlogMigration.Proofs.Text.Lines

/-!
# Lines of Markdown

In Markdown a line is ended by a line feed, by a carriage return, or by a carriage return and a line
feed together.
-/

namespace BlogMigration
namespace Text

/-- The text with a line feed for each ending of a line. -/
def unifyEndings : List Char → List Char
  | [] => []
  | '\r' :: '\n' :: rest => '\n' :: unifyEndings rest
  | '\r' :: rest => '\n' :: unifyEndings rest
  | c :: rest => c :: unifyEndings rest

/-- The lines of a Markdown text. -/
def markdownLines (cs : List Char) : List (List Char) :=
  lines (unifyEndings cs)

theorem unifyEndings_return {rest : List Char} (apart : rest.head? ≠ some '\n') :
    unifyEndings ('\r' :: rest) = '\n' :: unifyEndings rest := by
  rw [unifyEndings]
  rintro tail rfl
  exact apart rfl

theorem unifyEndings_cons {c : Char} (other : c ≠ '\r') (rest : List Char) :
    unifyEndings (c :: rest) = c :: unifyEndings rest := by
  rw [unifyEndings]
  · rintro tail rfl
    exact absurd rfl other
  · exact fun same => absurd same other

theorem getLast?_cons_of_eq {c last : Char} {cs : List Char} (ended : cs.getLast? = some last) :
    (c :: cs).getLast? = some last := by
  rw [List.getLast?_cons, ended, Option.getD_some]

/-- The endings of two texts are those of their parts, unless an ending is cut into its two
characters. -/
theorem unifyEndings_append {front back : List Char}
    (whole : front.getLast? = some '\r' → back.head? ≠ some '\n') :
    unifyEndings (front ++ back) = unifyEndings front ++ unifyEndings back := by
  fun_induction unifyEndings front with
  | case1 => rfl
  | case2 rest ih =>
      have later : rest.getLast? = some '\r' → back.head? ≠ some '\n' := fun ended =>
        whole (getLast?_cons_of_eq (getLast?_cons_of_eq ended))
      exact congrArg (List.cons '\n') (ih later)
  | case3 rest apart ih =>
      have later : rest.getLast? = some '\r' → back.head? ≠ some '\n' := fun ended =>
        whole (getLast?_cons_of_eq ended)
      -- The carriage return is an ending of its own, also where `front` ends with it.
      have next : (rest ++ back).head? ≠ some '\n' := by
        cases rest with
        | nil => exact whole rfl
        | cons c rest =>
            intro feed
            cases feed
            exact apart rest rfl
      rw [List.cons_append, unifyEndings_return next, ih later]
      rfl
  | case4 c rest first other ih =>
      have later : rest.getLast? = some '\r' → back.head? ≠ some '\n' := fun ended =>
        whole (getLast?_cons_of_eq ended)
      rw [List.cons_append, unifyEndings_cons other, ih later]
      rfl

/-- A line feed parts the lines before it from those after it, unless a carriage return before it is
part of the same ending. -/
theorem markdownLines_append_feed {front : List Char} (whole : front.getLast? ≠ some '\r')
    (back : List Char) :
    markdownLines (front ++ '\n' :: back) = markdownLines front ++ markdownLines back := by
  rw [markdownLines, unifyEndings_append fun ended => absurd ended whole,
    unifyEndings_cons (by decide), lines_append_feed]
  rfl

theorem markdownLines_append_return_feed (front back : List Char) :
    markdownLines (front ++ '\r' :: '\n' :: back) = markdownLines front ++ markdownLines back := by
  rw [markdownLines, unifyEndings_append fun _ => by simp, unifyEndings, lines_append_feed]
  rfl

theorem markdownLines_concat_return (front : List Char) :
    markdownLines (front ++ ['\r']) = markdownLines front ++ [[]] := by
  rw [markdownLines, unifyEndings_append fun _ => by simp]
  exact lines_append_feed _ []

theorem markdownLines_of_not_mem {cs : List Char} (feed : '\n' ∉ cs) (ended : '\r' ∉ cs) :
    markdownLines cs = [cs] := by
  have kept : unifyEndings cs = cs := by
    clear feed
    induction cs with
    | nil => rfl
    | cons c rest ih =>
        obtain ⟨other, later⟩ : '\r' ≠ c ∧ '\r' ∉ rest := by simpa using ended
        rw [unifyEndings_cons (Ne.symm other), ih later]
  rw [markdownLines, kept, lines, splitAll_of_not_mem feed]

/-- The three endings of lines. -/
example : markdownLines "a\rb\r\nc\n".toList = ["a".toList, "b".toList, "c".toList, []] := by
  decide

end Text
end BlogMigration
