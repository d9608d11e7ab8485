import BlogMigration.FrontMatter.Page
import BlogMigration.Proofs.Text.Lines

/-!
# Reading content files

A reader of content files finds the front matter by its delimiter lines: the first line has to be
the delimiter, and the front matter ends at the next line that is equal to it. It finds what was
written exactly when the front matter consists of whole lines and holds no delimiter itself.
-/

namespace BlogMigration
namespace FrontMatter

open Text (lines unlines IsWhole HoldsLine)

def Format.mark (format : Format) : List Char :=
  format.delimiter.toList

def Value.strings : Value → List String
  | .text s => [s]
  | .flag _ => []
  | .texts list => list

/-- A key consists of lower-case letters. -/
def IsKey (key : String) : Prop :=
  key ≠ "" ∧ key.toList.all Char.isLower = true

instance (key : String) : Decidable (IsKey key) :=
  inferInstanceAs (Decidable (_ ∧ _))

theorem IsKey.isLower_of_mem {key : String} (isKey : IsKey key) {c : Char}
    (member : c ∈ key.toList) : c.isLower = true :=
  List.all_eq_true.mp isKey.2 c member

theorem IsKey.not_mem {key : String} (isKey : IsKey key) {c : Char} (other : c.isLower = false) :
    c ∉ key.toList := by
  intro member
  rw [isKey.isLower_of_mem member] at other
  cases other

theorem flagText_eq_concat (b : Bool) : ∃ front, flagText b = front ++ ['e'] := by
  cases b
  · exact ⟨"fals".toList, by decide⟩
  · exact ⟨"tru".toList, by decide⟩

theorem feed_not_mem_flagText (b : Bool) : '\n' ∉ flagText b := by
  cases b <;> decide

/-- The text of the lines before the first one that is equal to a mark, and the text after it. -/
def untilMark (mark : List Char) : List (List Char) → Option (List Char × List Char)
  | [] => none
  | line :: rest =>
    if line = mark then some ([], List.intercalate ['\n'] rest)
    else (untilMark mark rest).map fun (front, back) => (line ++ '\n' :: front, back)

/-- The front matter of a content file, and what follows its closing delimiter. -/
def read? (format : Format) (content : String) : Option (String × String) :=
  match lines content.toList with
  | first :: rest =>
    if first = format.mark then
      (untilMark format.mark rest).map fun (front, back) =>
        (String.ofList front, String.ofList back)
    else none
  | [] => none

theorem untilMark_append {mark : List Char} {before : List (List Char)} (fresh : mark ∉ before)
    (after : List (List Char)) :
    untilMark mark (before ++ mark :: after) =
      some (unlines before, List.intercalate ['\n'] after) := by
  induction before with
  | nil => exact if_pos rfl
  | cons line rest ih =>
      have apart : line ≠ mark := fun same => fresh (same ▸ List.mem_cons_self)
      have others := ih fun member => fresh (List.mem_cons_of_mem line member)
      rw [List.cons_append, untilMark, if_neg apart, others]
      simp [unlines]

/-- What the reader takes for front matter are the lines before the mark. -/
theorem untilMark_eq_some {mark : List Char} {all : List (List Char)} {front back : List Char}
    (found : untilMark mark all = some (front, back)) :
    ∃ before after, all = before ++ mark :: after ∧ mark ∉ before ∧ front = unlines before := by
  induction all generalizing front with
  | nil => cases found
  | cons line rest ih =>
      rw [untilMark] at found
      split at found
      · next same =>
          cases found
          exact ⟨[], rest, by rw [same]; rfl, List.not_mem_nil, rfl⟩
      · next apart =>
          obtain ⟨⟨inner, last⟩, innerFound, same⟩ := Option.map_eq_some_iff.mp found
          cases same
          obtain ⟨before, after, rfl, fresh, rfl⟩ := ih innerFound
          refine ⟨line :: before, after, rfl, ?_, by simp [unlines]⟩
          simp [Ne.symm apart, fresh]

theorem dropLast_lines_unlines {before : List (List Char)}
    (single : ∀ line ∈ before, '\n' ∉ line) : (lines (unlines before)).dropLast = before := by
  rw [Text.lines_unlines single, List.dropLast_concat]

/-- A text before a mark is found exactly when it consists of whole lines other than the mark. -/
theorem untilMark_lines_iff {mark : List Char} (single : '\n' ∉ mark) (front back : List Char) :
    untilMark mark (lines (front ++ mark ++ '\n' :: back)) = some (front, back) ↔
      IsWhole front ∧ ¬ HoldsLine mark front := by
  constructor
  · intro found
    obtain ⟨before, after, all, fresh, rfl⟩ := untilMark_eq_some found
    have each (line : List Char) (member : line ∈ before) : '\n' ∉ line :=
      Text.feed_not_mem_of_mem_lines (all ▸ List.mem_append_left _ member)
    refine ⟨Text.isWhole_unlines before, ?_⟩
    rw [HoldsLine, dropLast_lines_unlines each]
    exact fresh
  · rintro ⟨whole, fresh⟩
    obtain ⟨before, rfl, each⟩ := whole.eq_unlines
    rw [HoldsLine, dropLast_lines_unlines each] at fresh
    have cut : lines (unlines before ++ mark ++ '\n' :: back) =
        before ++ mark :: lines back := by
      rw [List.append_assoc, Text.lines_unlines_append each, Text.lines_append_feed, lines,
        Text.splitAll_of_not_mem single]
      rfl
    rw [cut, untilMark_append fresh, lines, Text.intercalate_splitAll]

/-- The front matter of a page is read back exactly when it consists of whole lines and holds no
delimiter. -/
theorem read?_page_iff (format : Format) (fields : List Field) (body : String) :
    read? format (page format fields body) =
        some (String.ofList (fieldsText format fields), "\n" ++ body) ↔
      IsWhole (fieldsText format fields) ∧ ¬ HoldsLine format.mark (fieldsText format fields) := by
  have single : '\n' ∉ format.mark := by
    cases format <;> decide
  rw [← untilMark_lines_iff single (fieldsText format fields) ('\n' :: body.toList)]
  have text : (page format fields body).toList =
      format.mark ++ '\n' ::
        (fieldsText format fields ++ format.mark ++ '\n' :: '\n' :: body.toList) := by
    simp [page, delimiterLine, Format.mark]
  have first : lines (page format fields body).toList = format.mark ::
      lines (fieldsText format fields ++ format.mark ++ '\n' :: '\n' :: body.toList) := by
    rw [text, Text.lines_append_feed, lines, Text.splitAll_of_not_mem single]
    rfl
  have rest : "\n" ++ body = String.ofList ('\n' :: body.toList) := by
    rw [← String.toList_inj]
    simp
  rw [read?, first, rest]
  simp only [↓reduceIte, Option.map_eq_some_iff, Prod.exists, Prod.mk.injEq, String.ofList_inj]
  constructor
  · rintro ⟨front, back, found, rfl, rfl⟩
    exact found
  · exact fun found => ⟨_, _, found, rfl, rfl⟩

end FrontMatter
end BlogMigration
