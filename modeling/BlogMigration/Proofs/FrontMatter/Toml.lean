import BlogMigration.Proofs.FrontMatter.Reading

/-!
# Delimiters in TOML

A line feed stands for itself in the long styles of strings, so the lines of a text are lines of
its field. Escapes and quotes part lines but can neither make up nor take away a line of the
delimiter: the fields hold the delimiter exactly when one of their texts does.
-/

namespace BlogMigration
namespace FrontMatter
namespace Toml

open Text (HoldsLine enclosed)

def mark : List Char := ['+', '+', '+']

theorem feed_not_mem_mark : '\n' ∉ mark := by
  decide

theorem enclosed_ne_nil : enclosed mark ≠ [] :=
  List.cons_ne_nil _ _

/-! ## Characters of strings -/

theorem feed_not_mem_basicChar {long : Bool} {c : Char} (other : c ≠ '\n') :
    '\n' ∉ basicChar long c := by
  unfold basicChar
  split
  case h_3 => exact absurd rfl other
  case h_7 =>
      split
      · have digits := Text.feed_not_mem_upperHex 4 c.toNat
        simp [digits]
      · simpa using other.symm
  all_goals decide

/-- A character of a long basic string stands for itself, unless it is escaped and is none of the
delimiter. -/
theorem basicChar_long (c : Char) :
    basicChar true c = [c] ∨
      c ∉ enclosed mark ∧ ∃ tail, '\n' ∉ tail ∧ basicChar true c = '\\' :: tail := by
  unfold basicChar
  split
  case h_3 => exact .inl rfl
  case h_7 =>
      split
      · next control =>
        refine .inr ⟨?_, 'u' :: Text.upperHex 4 c.toNat, ?_, rfl⟩
        · have plain : (enclosed mark).any isControl = false := by decide
          exact fun member => List.any_eq_false.mp plain c member control
        · simpa using Text.feed_not_mem_upperHex 4 c.toNat
      · exact .inl rfl
  all_goals exact .inr ⟨by decide, _, by decide, rfl⟩

theorem feed_not_mem_basicText {style : Style} {run : Nat} {cs : List Char} (single : '\n' ∉ cs) :
    '\n' ∉ basicText style run cs := by
  induction cs generalizing run with
  | nil => exact List.not_mem_nil
  | cons c rest ih =>
      obtain ⟨other, singleRest⟩ := List.ne_and_not_mem_of_not_mem_cons single
      rw [basicText]
      split
      · split <;> simp [ih singleRest]
      · exact List.not_mem_append (feed_not_mem_basicChar other.symm) (ih singleRest)

/-- What is written for one character of a text leaves the places of the delimiter as they are. -/
theorem infix_escape_iff {c : Char} {tail rest written front : List Char}
    (outside : c ∉ enclosed mark) (single : '\n' ∉ tail)
    (alike : ∀ front, enclosed mark <:+: front ++ written ↔ enclosed mark <:+: front ++ rest) :
    enclosed mark <:+: front ++ '\\' :: (tail ++ written) ↔
      enclosed mark <:+: front ++ c :: rest := by
  have after : enclosed mark <:+: tail ++ written ↔ enclosed mark <:+: rest :=
    (Text.infix_append_iff_of_head_not_mem single).trans (alike [])
  rw [Text.infix_append_cons_iff enclosed_ne_nil (by decide : '\\' ∉ enclosed mark), after,
    Text.infix_append_cons_iff enclosed_ne_nil outside]

theorem infix_keep_iff {c : Char} {rest written front : List Char}
    (alike : ∀ front, enclosed mark <:+: front ++ written ↔ enclosed mark <:+: front ++ rest) :
    enclosed mark <:+: front ++ c :: written ↔ enclosed mark <:+: front ++ c :: rest := by
  simpa using alike (front ++ [c])

/-- The content of a long basic string has the delimiter where the text has it. -/
theorem infix_basicText_iff (run : Nat) (cs front : List Char) :
    enclosed mark <:+: front ++ basicText .longBasic run cs ↔
      enclosed mark <:+: front ++ cs := by
  -- Over all fronts, as characters that stand for themselves are moved there one by one.
  induction cs generalizing run front with
  | nil => exact Iff.rfl
  | cons c rest ih =>
      rw [basicText]
      split
      · next quote =>
        subst quote
        split
        · exact infix_keep_iff (ih _)
        · have single : '\n' ∉ ['"'] := by decide
          exact infix_escape_iff (by decide) single (ih 0)
      · rcases basicChar_long c with same | ⟨outside, tail, single, same⟩
        · rw [show Style.longBasic.isLong = true from rfl, same]
          exact infix_keep_iff (ih 0)
        · rw [show Style.longBasic.isLong = true from rfl, same]
          exact infix_escape_iff outside single (ih 0)

/-! ## Strings -/

theorem isPlainIn_of_feed {style : Style} {cs : List Char} (short : style.isLong = false)
    (feed : '\n' ∈ cs) : isPlainIn style cs = false := by
  simp [isPlainIn, short, feed]

/-- A text with a line feed is written in one of the long styles. -/
theorem style_of_feed {cs : List Char} (feed : '\n' ∈ cs) :
    style cs = .longBasic ∨ style cs = .longLiteral := by
  have basic : isPlainIn .basic cs = false := isPlainIn_of_feed rfl feed
  have literal : isPlainIn .literal cs = false := isPlainIn_of_feed rfl feed
  simp only [style, basic, literal, Bool.false_eq_true, List.contains_iff_mem, feed, if_true,
    if_false]
  split
  · exact .inl rfl
  · split
    · exact .inr rfl
    · exact .inl rfl

theorem delimiter_eq (style : Style) :
    ∃ quote others, style.delimiter = quote :: others ∧ style.delimiter = others ++ [quote] ∧
      quote ∉ enclosed mark ∧ '\n' ∉ others := by
  cases style <;> exact ⟨_, _, rfl, rfl, by decide, by decide⟩

theorem feed_not_mem_delimiter (style : Style) : '\n' ∉ style.delimiter := by
  cases style <;> decide

theorem not_infix_of_single {cs : List Char} (single : '\n' ∉ cs) : ¬ enclosed mark <:+: cs :=
  fun inside => single (inside.subset List.mem_cons_self)

theorem infix_delimited_iff (style : Style) (cs : List Char) :
    enclosed mark <:+: style.delimiter ++ (cs ++ style.delimiter) ↔ enclosed mark <:+: cs := by
  obtain ⟨quote, others, shape, -, outside, single⟩ := delimiter_eq style
  rw [enclosed, List.cons_append,
    Text.infix_append_iff_of_head_not_mem (feed_not_mem_delimiter style), shape,
    ← List.cons_append, ← enclosed, Text.infix_append_cons_iff enclosed_ne_nil outside]
  exact or_iff_left (not_infix_of_single single)

/-- A string has the delimiter as a line exactly when its text has. -/
theorem infix_string_iff (s : String) : enclosed mark <:+: string s ↔ HoldsLine mark s.toList := by
  rw [string, inStyle, List.append_assoc, List.append_assoc, ← List.append_assoc _ (content _ _),
    infix_delimited_iff]
  by_cases feed : '\n' ∈ s.toList
  -- The line feed that starts a long string stands for the one before the text.
  · rw [Text.holdsLine_iff feed_not_mem_mark]
    rcases style_of_feed feed with long | long
    · rw [long]
      simpa [Style.isLong, content, Style.isEscaped, feed] using
        infix_basicText_iff 0 s.toList ['\n']
    · rw [long]
      simp [Style.isLong, content, Style.isEscaped, feed]
  · have single : '\n' ∉ content (style s.toList) s.toList := by
      rw [content]
      split
      · exact feed_not_mem_basicText feed
      · exact feed
    simpa [feed, Text.not_holdsLine_of_single feed] using not_infix_of_single single

/-! ## Fields -/

theorem infix_intercalate_iff (pieces : List (List Char)) :
    enclosed mark <:+: List.intercalate [',', ' '] pieces ↔
      ∃ piece ∈ pieces, enclosed mark <:+: piece := by
  induction pieces with
  | nil => simp [enclosed]
  | cons piece rest ih =>
      cases rest with
      | nil => simp
      | cons next others =>
          have shape : List.intercalate [',', ' '] (piece :: next :: others) =
              piece ++ ',' :: ' ' :: List.intercalate [',', ' '] (next :: others) := by
            simp [List.intercalate]
          rw [shape, Text.infix_append_cons_iff enclosed_ne_nil (by decide),
            Text.infix_cons_iff_of_not_mem enclosed_ne_nil (by decide), ih]
          simp

theorem infix_value_iff (v : Value) :
    enclosed mark <:+: value v ↔ ∃ text ∈ v.strings, HoldsLine mark text.toList := by
  cases v with
  | text s => simpa [value, Value.strings] using infix_string_iff s
  | flag b =>
      simpa [value, Value.strings] using not_infix_of_single (feed_not_mem_flagText b)
  | texts list =>
      rw [value, List.cons_append, Text.infix_cons_iff_of_not_mem enclosed_ne_nil (by decide),
        Text.infix_append_cons_iff enclosed_ne_nil (by decide), infix_intercalate_iff,
        or_iff_left (not_infix_of_single List.not_mem_nil)]
      constructor
      · rintro ⟨_, member, inside⟩
        obtain ⟨s, listed, rfl⟩ := List.mem_map.mp member
        exact ⟨s, listed, (infix_string_iff s).mp inside⟩
      · rintro ⟨s, listed, held⟩
        exact ⟨string s, List.mem_map_of_mem listed, (infix_string_iff s).mpr held⟩

/-- A value ends with a character that is none of the delimiter. -/
theorem value_eq_concat (v : Value) :
    ∃ front last, value v = front ++ [last] ∧ last ∉ enclosed mark := by
  cases v with
  | text s =>
      obtain ⟨quote, others, -, shape, outside, -⟩ := delimiter_eq (style s.toList)
      obtain ⟨front, ending⟩ : ∃ front, value (.text s) = front ++ (style s.toList).delimiter :=
        ⟨_, rfl⟩
      exact ⟨front ++ others, quote, by rw [ending, shape, List.append_assoc], outside⟩
  | flag b =>
      obtain ⟨front, shape⟩ := flagText_eq_concat b
      exact ⟨front, 'e', shape, by decide⟩
  | texts list => exact ⟨_, ']', rfl, by decide⟩

theorem infix_value_append_iff (v : Value) (back : List Char) :
    enclosed mark <:+: value v ++ back ↔ enclosed mark <:+: value v ∨ enclosed mark <:+: back := by
  obtain ⟨front, last, shape, outside⟩ := value_eq_concat v
  have alone : enclosed mark <:+: value v ↔ enclosed mark <:+: front := by
    rw [shape, Text.infix_append_cons_iff enclosed_ne_nil outside]
    exact or_iff_left (not_infix_of_single List.not_mem_nil)
  rw [alone, shape, List.append_assoc, List.singleton_append,
    Text.infix_append_cons_iff enclosed_ne_nil outside]

/-- The delimiter before the end of a field is a line of one of its texts. -/
theorem infix_field_append_iff {entry : Field} (isKey : IsKey entry.1) (rest : List Char) :
    enclosed mark <:+: '\n' :: (field entry ++ rest) ↔
      (∃ text ∈ entry.2.strings, HoldsLine mark text.toList) ∨
        enclosed mark <:+: '\n' :: rest := by
  have shape : '\n' :: (field entry ++ rest) =
      ('\n' :: entry.1.toList) ++ ' ' :: '=' :: ' ' :: (value entry.2 ++ '\n' :: rest) := by
    simp [field]
  have key : ¬ enclosed mark <:+: '\n' :: entry.1.toList := by
    rw [← Text.holdsLine_iff feed_not_mem_mark]
    exact Text.not_holdsLine_of_single (isKey.not_mem (by decide))
  rw [shape, Text.infix_append_cons_iff enclosed_ne_nil (by decide), or_iff_right key,
    Text.infix_cons_iff_of_not_mem enclosed_ne_nil (by decide),
    Text.infix_cons_iff_of_not_mem enclosed_ne_nil (by decide), infix_value_append_iff,
    infix_value_iff]

/-- The front matter holds the delimiter exactly when one of its texts does. -/
theorem holdsLine_fieldsText_iff {fields : List Field} (keys : ∀ entry ∈ fields, IsKey entry.1) :
    HoldsLine mark (fieldsText .toml fields) ↔
      ∃ entry ∈ fields, ∃ text ∈ entry.2.strings, HoldsLine mark text.toList := by
  rw [Text.holdsLine_iff feed_not_mem_mark]
  induction fields with
  | nil => simp [fieldsText, enclosed, mark, List.infix_cons_iff]
  | cons entry rest ih =>
      have shape : fieldsText .toml (entry :: rest) = field entry ++ fieldsText .toml rest := rfl
      rw [shape, infix_field_append_iff (keys entry (by simp)),
        ih fun other member => keys other (by simp [member])]
      simp

theorem isWhole_fieldsText (fields : List Field) : Text.IsWhole (fieldsText .toml fields) := by
  rcases List.eq_nil_or_concat fields with rfl | ⟨front, last, rfl⟩
  · exact .inl rfl
  · refine .inr ?_
    rw [fieldsText, List.concat_eq_append, List.flatMap_append, List.flatMap_singleton,
      fieldText, field,
      ← List.append_assoc, List.getLast?_concat]

end Toml
end FrontMatter
end BlogMigration
