import BlogMigration.Proofs.FrontMatter.Reading
import Mathlib.Data.List.Basic

/-!
# Delimiters in YAML

The only line feeds that stand for themselves are those of literal blocks, whose lines are indented,
so no line of the fields starts with two dashes. A field ends its last line only if the last
character is no line break of any kind: a literal block that ends with a line or paragraph separator
gets no line feed, and what follows the fields stands on the same line.
-/

namespace BlogMigration
namespace FrontMatter
namespace Yaml

open Text (HoldsLine IsWhole enclosed)

def dashes : List Char := ['\n', '-', '-']

/-- No line of the text starts with two dashes. -/
def Clear (cs : List Char) : Prop :=
  ¬ dashes <:+: '\n' :: cs

/-! ## Starts of lines -/

theorem infix_append_iff {front : List Char} (single : '\n' ∉ front) (cs : List Char) :
    dashes <:+: front ++ cs ↔ dashes <:+: cs :=
  Text.infix_append_iff_of_head_not_mem single

theorem infix_cons_iff {c : Char} (other : c ≠ '\n') (cs : List Char) :
    dashes <:+: c :: cs ↔ dashes <:+: cs := by
  have single : '\n' ∉ [c] := by simpa using other.symm
  exact infix_append_iff single cs

theorem clear_iff (cs : List Char) :
    Clear cs ↔ ¬ ['-', '-'] <+: cs ∧ ¬ dashes <:+: cs := by
  rw [Clear, List.infix_cons_iff, dashes, List.cons_prefix_cons, not_or]
  simp

theorem Clear.not_infix {cs : List Char} (clear : Clear cs) : ¬ dashes <:+: cs :=
  ((clear_iff cs).mp clear).2

theorem clear_cons {c : Char} {cs : List Char} (other : c ≠ '-')
    (inner : ¬ dashes <:+: c :: cs) : Clear (c :: cs) := by
  refine (clear_iff _).mpr ⟨fun start => ?_, inner⟩
  exact other (List.cons_prefix_cons.mp start).1.symm

theorem Clear.cons {c : Char} {cs : List Char} (clear : Clear cs) (other : c ≠ '-') :
    Clear (c :: cs) := by
  refine clear_cons other ?_
  by_cases feed : c = '\n'
  · rwa [feed]
  · rw [infix_cons_iff feed]
    exact clear.not_infix

/-- A text without dashes has no line of the delimiter. -/
theorem Clear.not_holdsLine {cs : List Char} (clear : Clear cs) :
    ¬ HoldsLine Format.yaml.mark cs := by
  rw [Text.holdsLine_iff (by decide)]
  have start : dashes <:+: enclosed Format.yaml.mark := ⟨[], ['-', '\n'], by decide⟩
  exact fun inside => clear (start.trans inside)

/-! ## Scalars -/

theorem feed_not_mem_singleQuotedText {fresh : Bool} {cs : List Char} (single : '\n' ∉ cs) :
    '\n' ∉ singleQuotedText fresh cs := by
  induction cs generalizing fresh with
  | nil => cases fresh <;> decide
  | cons c rest ih =>
      obtain ⟨other, singleRest⟩ := List.ne_and_not_mem_of_not_mem_cons single
      have start : '\n' ∉ if fresh then indentation else [] := by
        cases fresh <;> decide
      have character : '\n' ∉ if c = '\'' then ['\'', '\''] else [c] := by
        split
        · decide
        · simpa using other
      rw [singleQuotedText]
      split
      · simp [other, ih singleRest]
      · exact List.not_mem_append (List.not_mem_append start character) (ih singleRest)

theorem feed_not_mem_codePointEscape (n : Nat) : '\n' ∉ codePointEscape n := by
  unfold codePointEscape
  split
  · simpa using Text.feed_not_mem_upperHex 2 n
  · split
    · simpa using Text.feed_not_mem_upperHex 4 n
    · simpa using Text.feed_not_mem_upperHex 8 n

theorem feed_not_mem_doubleQuotedChar (c : Char) : '\n' ∉ doubleQuotedChar c := by
  unfold doubleQuotedChar
  split
  case h_15 other _ _ _ _ _ _ _ _ _ =>
      split
      · simpa using Ne.symm other
      · exact feed_not_mem_codePointEscape _
  all_goals decide

/-- A scalar other than a literal block has one line. -/
theorem feed_not_mem_inStyle {cs : List Char} (other : style cs ≠ .literal) :
    '\n' ∉ inStyle (style cs) cs := by
  by_cases feed : '\n' ∈ cs
  · have shape : style cs = .doubleQuoted := by
      simp only [style, List.contains_iff_mem, feed, if_true] at other ⊢
      split
      · next block => simp [block] at other
      · rfl
    rw [shape, inStyle]
    simp [feed_not_mem_doubleQuotedChar]
  · cases shape : style cs with
    | plain => exact feed
    | singleQuoted => simp [inStyle, feed_not_mem_singleQuotedText feed]
    | doubleQuoted => simp [inStyle, feed_not_mem_doubleQuotedChar]
    | literal => exact absurd shape other

/-- The lines of a literal block are indented. -/
theorem clear_literalText_append {rest : List Char} (clear : Clear rest) (cs : List Char) :
    Clear (literalText true cs ++ rest) ∧ ¬ dashes <:+: literalText false cs ++ rest := by
  -- Both at once, as every line break leads from the second text to the first.
  induction cs with
  | nil => exact ⟨clear, clear.not_infix⟩
  | cons c others ih =>
      obtain ⟨ihFresh, ihInside⟩ := ih
      simp only [literalText]
      split
      · next lineBreak =>
        have other : c ≠ '-' := by
          rintro rfl
          cases lineBreak
        have both := ihFresh.cons other
        exact ⟨both, both.not_infix⟩
      · next inLine =>
        have other : c ≠ '\n' := by
          rintro rfl
          exact inLine rfl
        have inside : ¬ dashes <:+: c :: (literalText false others ++ rest) := by
          rwa [infix_cons_iff other]
        refine ⟨clear_cons (by decide) ?_, by simpa using inside⟩
        simpa [infix_cons_iff] using inside

theorem feed_not_mem_hints (cs : List Char) :
    '\n' ∉ '|' :: indentationHint cs ++ endingHint cs := by
  have start : '\n' ∉ indentationHint cs := by
    unfold indentationHint
    split <;> decide
  have ending : '\n' ∉ endingHint cs := by
    unfold endingHint
    split
    · decide
    · split
      · decide
      · split <;> decide
  simp [start, ending]

theorem not_infix_string_append (s : String) {rest : List Char} (clear : Clear rest) :
    ¬ dashes <:+: string s ++ rest := by
  by_cases block : style s.toList = .literal
  · have inside := (clear_literalText_append clear s.toList).1
    rw [string, block, inStyle, List.append_assoc, infix_append_iff (feed_not_mem_hints _)]
    exact inside
  · rw [string, infix_append_iff (feed_not_mem_inStyle block)]
    exact clear.not_infix

/-! ## Fields -/

/-- After the text its line ends, or what follows goes on with it. -/
theorem exists_ended_append (cs : List Char) {rest : List Char} (clear : Clear rest) :
    ∃ after, Clear after ∧ ended cs ++ rest = cs ++ after := by
  unfold ended
  split
  · exact ⟨rest, clear, rfl⟩
  · exact ⟨'\n' :: rest, clear.cons (by decide), by simp⟩

theorem clear_items_append (list : List String) {rest : List Char} (clear : Clear rest) :
    Clear ((list.flatMap fun s => ended ("- ".toList ++ string s)) ++ rest) := by
  induction list with
  | nil => exact clear
  | cons s others ih =>
      rw [List.flatMap_cons, List.append_assoc]
      obtain ⟨after, clearAfter, shape⟩ := exists_ended_append ("- ".toList ++ string s) ih
      have item : "- ".toList ++ string s ++ after = '-' :: ' ' :: (string s ++ after) := rfl
      have inner : ¬ dashes <:+: '-' :: ' ' :: (string s ++ after) := by
        rw [infix_cons_iff (by decide), infix_cons_iff (by decide)]
        exact not_infix_string_append s clearAfter
      rw [shape, item]
      exact (clear_iff _).mpr ⟨by simp, inner⟩

theorem clear_key_append {key : String} (isKey : IsKey key) {cs : List Char}
    (inner : ¬ dashes <:+: cs) : Clear (key.toList ++ cs) := by
  have whole : ¬ dashes <:+: key.toList ++ cs := by
    rwa [infix_append_iff (isKey.not_mem (by decide))]
  cases letters : key.toList with
  | nil => exact absurd (String.toList_eq_nil_iff.mp letters) isKey.1
  | cons c others =>
      have other : c ≠ '-' := by
        rintro rfl
        exact isKey.not_mem (c := '-') (by decide) (by simp [letters])
      rw [letters] at whole
      exact clear_cons other whole

/-- A field starts with its key and makes its own lines start with anything but two dashes. -/
theorem clear_field_append {entry : Field} (isKey : IsKey entry.1) {rest : List Char}
    (clear : Clear rest) : Clear (field entry ++ rest) := by
  obtain ⟨key, value⟩ := entry
  cases value with
  | text s =>
      obtain ⟨after, clearAfter, shape⟩ :=
        exists_ended_append (key.toList ++ ": ".toList ++ string s) clear
      rw [field, shape, List.append_assoc, List.append_assoc]
      refine clear_key_append isKey ?_
      rw [infix_append_iff (by decide)]
      exact not_infix_string_append s clearAfter
  | flag b =>
      obtain ⟨after, clearAfter, shape⟩ :=
        exists_ended_append (key.toList ++ ": ".toList ++ flagText b) clear
      rw [field, shape, List.append_assoc, List.append_assoc]
      refine clear_key_append isKey ?_
      rw [infix_append_iff (by decide), infix_append_iff (feed_not_mem_flagText b)]
      exact clearAfter.not_infix
  | texts list =>
      rw [field, List.append_assoc, List.append_assoc]
      refine clear_key_append isKey ?_
      have start : ":\n".toList = ':' :: ['\n'] := rfl
      rw [start, List.cons_append, infix_cons_iff (by decide)]
      exact clear_items_append list clear

theorem clear_fieldsText {fields : List Field} (keys : ∀ entry ∈ fields, IsKey entry.1) :
    Clear (fieldsText .yaml fields) := by
  induction fields with
  | nil => exact (clear_iff _).mpr ⟨by decide, by decide⟩
  | cons entry rest ih =>
      exact clear_field_append (keys entry (by simp))
        (ih fun other member => keys other (by simp [member]))

/-! ## Ends -/

/-- A text ends with a line break other than a line feed. -/
def EndsOddly (cs : List Char) : Prop :=
  ∃ c, cs.getLast? = some c ∧ isBreak c = true ∧ c ≠ '\n'

/-- A text is written as a literal block that ends with a line or paragraph separator. -/
def Unended (cs : List Char) : Prop :=
  style cs = .literal ∧ (cs.getLast? = some '\u2028' ∨ cs.getLast? = some '\u2029')

theorem ended_ne_nil (cs : List Char) : ended cs ≠ [] := by
  unfold ended
  split
  · rintro rfl
    contradiction
  · simp

theorem getLast?_ended_iff (cs : List Char) :
    (ended cs).getLast? = some '\n' ↔ ¬ EndsOddly cs := by
  cases last : cs.getLast? with
  | none => simp [ended, endsWith, EndsOddly, last]
  | some c =>
      by_cases lineBreak : isBreak c = true
      · simp [ended, endsWith, EndsOddly, last, lineBreak]
      · simp [ended, endsWith, EndsOddly, last, lineBreak]

theorem getLast?_literalText (fresh : Bool) (cs : List Char) :
    (literalText fresh cs).getLast? = cs.getLast? := by
  induction cs generalizing fresh with
  | nil => rfl
  | cons c rest ih =>
      rw [literalText]
      split
      · rw [List.getLast?_cons, List.getLast?_cons, ih]
      · rw [List.getLast?_append, List.getLast?_cons, List.getLast?_cons, ih]
        rfl

theorem endsOddly_append_cons_iff {c : Char} (even : isBreak c = true → c = '\n')
    (front cs : List Char) : EndsOddly (front ++ c :: cs) ↔ EndsOddly cs := by
  rw [EndsOddly, EndsOddly, List.getLast?_append, List.getLast?_cons]
  cases cs.getLast? with
  | none => simpa using even
  | some last => simp

theorem not_endsOddly_concat {c : Char} (even : isBreak c = true → c = '\n')
    (front : List Char) : ¬ EndsOddly (front ++ [c]) := by
  rw [endsOddly_append_cons_iff even]
  simp [EndsOddly]

/-- Only two of the line breaks other than the line feed show by themselves. -/
theorem isBreak_printable {c : Char} (shown : isPrintable c = true) :
    (isBreak c = true ∧ c ≠ '\n') ↔ c = '\u2028' ∨ c = '\u2029' := by
  constructor
  · rintro ⟨lineBreak, other⟩
    simp only [isBreak, Bool.or_eq_true, beq_iff_eq] at lineBreak
    rcases lineBreak with (((feed | hidden) | hidden) | separator) | separator
    · exact absurd feed other
    · rw [hidden] at shown
      exact absurd shown (by decide)
    · rw [hidden] at shown
      exact absurd shown (by decide)
    · exact .inl separator
    · exact .inr separator
  · rintro (rfl | rfl) <;> decide

theorem canBeLiteral_of_style {cs : List Char} (block : style cs = .literal) :
    canBeLiteral cs = true := by
  simp only [style] at block
  split at block
  · split at block
    · assumption
    · cases block
  · split at block
    · cases block
    · split at block <;> cases block

theorem canBePlain_of_style {cs : List Char} (bare : style cs = .plain) : canBePlain cs = true := by
  simp only [style] at bare
  split at bare
  · split at bare <;> cases bare
  · split at bare
    · next both => exact (Bool.and_eq_true_iff.mp both).2
    · split at bare <;> cases bare

theorem endsOddly_literal_iff {cs : List Char} (block : style cs = .literal) :
    EndsOddly (inStyle .literal cs) ↔ Unended cs := by
  have shown : ∀ c ∈ cs, isPrintable c = true := by
    have able := canBeLiteral_of_style block
    simp only [canBeLiteral, Bool.and_eq_true, List.all_eq_true] at able
    exact able.1.1
  rw [inStyle, endsOddly_append_cons_iff (fun _ => rfl), Unended, and_iff_right block, EndsOddly,
    getLast?_literalText]
  cases last : cs.getLast? with
  | none => simp
  | some c => simpa using isBreak_printable (shown c (List.mem_of_getLast? last))

/-- The scalars of strings end with no odd line break but for those unended. -/
theorem endsOddly_string_iff (s : String) : EndsOddly (string s) ↔ Unended s.toList := by
  rw [string]
  cases shape : style s.toList with
  | plain =>
      have able := canBePlain_of_style shape
      simp only [canBePlain, Bool.and_eq_true, List.all_eq_true, Bool.not_eq_true'] at able
      have even : ¬ EndsOddly s.toList := by
        rintro ⟨c, last, lineBreak, -⟩
        rw [(able.1.1.1.1.1 c (List.mem_of_getLast? last)).2] at lineBreak
        cases lineBreak
      simpa [inStyle, Unended, shape] using even
  | singleQuoted =>
      have even := not_endsOddly_concat (c := '\'') (by decide)
        ('\'' :: singleQuotedText false s.toList)
      simpa [inStyle, Unended, shape] using even
  | doubleQuoted =>
      have even := not_endsOddly_concat (c := '"') (by decide)
        ('"' :: s.toList.flatMap doubleQuotedChar)
      simpa [inStyle, Unended, shape] using even
  | literal => exact endsOddly_literal_iff shape

/-- The last line of a field has its line feed, unless the last string is unended. -/
theorem getLast?_field_iff (entry : Field) :
    (field entry).getLast? = some '\n' ↔
      ¬ ∃ s, entry.2.strings.getLast? = some s ∧ Unended s.toList := by
  obtain ⟨key, value⟩ := entry
  cases value with
  | text s =>
      have start : key.toList ++ ": ".toList ++ string s =
          (key.toList ++ [':']) ++ ' ' :: string s := by simp
      rw [field, getLast?_ended_iff, start, endsOddly_append_cons_iff (by decide),
        endsOddly_string_iff]
      simp [Value.strings]
  | flag b =>
      have even : ¬ EndsOddly (key.toList ++ ": ".toList ++ flagText b) := by
        obtain ⟨front, shape⟩ := flagText_eq_concat b
        rw [shape, ← List.append_assoc]
        exact not_endsOddly_concat (by decide) _
      simpa [field, getLast?_ended_iff, Value.strings] using even
  | texts list =>
      rcases List.eq_nil_or_concat list with rfl | ⟨others, s, rfl⟩
      · simp [field, Value.strings]
      · have item : "- ".toList ++ string s = ['-'] ++ ' ' :: string s := rfl
        simp only [field, List.concat_eq_append, List.flatMap_append, List.flatMap_singleton]
        rw [← List.append_assoc, List.getLast?_append_of_ne_nil _ (ended_ne_nil _),
          getLast?_ended_iff, item, endsOddly_append_cons_iff (by decide), endsOddly_string_iff]
        simp [Value.strings]

theorem field_ne_nil (entry : Field) : field entry ≠ [] := by
  unfold field
  split
  · exact ended_ne_nil _
  · exact ended_ne_nil _
  · simp

/-- The last string of the fields, if the last field has any. -/
def lastString? (fields : List Field) : Option String :=
  fields.getLast?.bind fun entry => entry.2.strings.getLast?

/-- The fields are whole lines unless their last string is unended. -/
theorem isWhole_fieldsText_iff (fields : List Field) :
    IsWhole (fieldsText .yaml fields) ↔
      ¬ ∃ s, lastString? fields = some s ∧ Unended s.toList := by
  rcases List.eq_nil_or_concat fields with rfl | ⟨front, entry, rfl⟩
  · simp [fieldsText, IsWhole, lastString?]
  · have text : fieldsText .yaml (front.concat entry) =
        fieldsText .yaml front ++ field entry := by
      simp [fieldsText, fieldText]
    rw [text, IsWhole, List.getLast?_append_of_ne_nil _ (field_ne_nil entry),
      or_iff_right (List.append_ne_nil_of_right_ne_nil _ (field_ne_nil entry)),
      getLast?_field_iff, lastString?, List.concat_eq_append, List.getLast?_concat]
    rfl

end Yaml
end FrontMatter
end BlogMigration
