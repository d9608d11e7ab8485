import BlogMigration.Cards.Catalog
import BlogMigration.Proofs.Render.Walker
import BlogMigration.Proofs.Text.Numerals

/-!
# Headings

A block is meant to be a heading if its tag is the letter h and the digit of a level from 1 to 6.
The level is read as any numeral, though, so that a tag makes a heading as well if it has a plus
sign or zeros before the digit.
-/

namespace BlogMigration
namespace Render

open Mobiledoc (Marker Document)

/-- A tag is the letter h and the digit of a level. -/
def IsHeadingTag (tag : String) (level : Nat) : Prop :=
  (1 ≤ level ∧ level ≤ 6) ∧ tag = "h" ++ toString level

/-- A tag is the letter h and a level, written with a plus sign or with zeros before its digit. -/
def PadsLevel (tag : String) (level : Nat) : Prop :=
  (1 ≤ level ∧ level ≤ 6) ∧ ∃ mark digits, (mark = '+' ∨ mark = '0') ∧
    Text.WritesNumber digits level ∧ tag.toList = 'h' :: mark :: digits

/-- What stands before the text of a heading. -/
def headingMark (level : Nat) : String :=
  String.ofList (List.replicate level '#') ++ " "

/-- An output shows a text as the heading that its tag asks for, or as a paragraph if its tag asks
neither for a heading nor for a quotation. -/
structure IsPrintedByTag (tag text output : String) : Prop where
  heading : ∀ level, IsHeadingTag tag level → output = headingMark level ++ text ++ "\n\n"
  paragraph : tag ≠ "blockquote" → tag ≠ "aside" → (∀ level, ¬ IsHeadingTag tag level) →
    output = text ++ "\n\n"

variable {tag : String} {level : Nat}

theorem isHeadingTag_iff :
    IsHeadingTag tag level ↔
      (1 ≤ level ∧ level ≤ 6) ∧ tag.toList = 'h' :: Nat.toDigits 10 level := by
  rw [IsHeadingTag, ← String.toList_inj, Nat.toString_eq_ofList_toDigits]
  simp

/-- A level is read from the tags of headings, and from those that write it in another way. -/
theorem headingLevel?_eq_some_iff :
    headingLevel? tag = some level ↔ IsHeadingTag tag level ∨ PadsLevel tag level := by
  rw [isHeadingTag_iff, PadsLevel, ← and_or_left, headingLevel?]
  split
  · next rest shape =>
      rw [Option.filter_eq_some_iff, Text.unsignedNumeral?_eq_some_iff, Text.writesNumber_iff,
        shape]
      simp only [Bool.and_eq_true, decide_eq_true_eq, List.cons.injEq, true_and]
      rw [and_comm]
      refine and_congr_right fun _ => ?_
      constructor
      · rintro ((plain | ⟨digits, zero, writes⟩) | ⟨digits, plus, writes⟩)
        · exact .inl plain
        · exact .inr ⟨'0', digits, .inr rfl, writes, zero⟩
        · exact .inr ⟨'+', digits, .inl rfl, writes, plus⟩
      · rintro (plain | ⟨-, digits, rfl | rfl, writes, written⟩)
        · exact .inl (.inl plain)
        · exact .inr ⟨digits, written, writes⟩
        · exact .inl (.inr ⟨digits, written, writes⟩)
  · next other =>
      refine iff_of_false (by simp) ?_
      rintro ⟨-, plain | ⟨mark, digits, -, -, written⟩⟩
      · exact other _ plain
      · exact other _ written

theorem isQuotation_eq_false_of_headingLevel? (read : headingLevel? tag = some level) :
    isQuotation tag = false := by
  refine Bool.eq_false_iff.mpr fun quotes => ?_
  rw [isQuotation, Bool.or_eq_true, beq_iff_eq, beq_iff_eq] at quotes
  have none : headingLevel? tag = none := by
    rcases quotes with rfl | rfl <;> decide
  simp [none] at read

theorem renderBlock_of_headingLevel? (read : headingLevel? tag = some level) (text : String) :
    renderBlock tag text = headingMark level ++ text ++ "\n\n" := by
  simp [renderBlock, isQuotation_eq_false_of_headingLevel? read, read, headingMark]

theorem renderBlock_of_paragraph (read : headingLevel? tag = none)
    (plain : isQuotation tag = false) (text : String) :
    renderBlock tag text = text ++ "\n\n" := by
  simp [renderBlock, plain, read]

/-- The tag of a heading has one digit behind its letter. -/
theorem PadsLevel.not_isHeadingTag (pads : PadsLevel tag level) (other : Nat) :
    ¬ IsHeadingTag tag other := by
  rw [isHeadingTag_iff]
  rintro ⟨bounds, written⟩
  obtain ⟨-, mark, digits, -, writes, padded⟩ := pads
  have digit : (Nat.toDigits 10 other).length = 1 := by
    rw [Nat.toDigits_of_lt_base (by omega)]
    rfl
  rw [padded, List.cons.injEq] at written
  rw [← written.2, List.length_cons, Nat.add_eq_right, List.length_eq_zero_iff] at digit
  exact writes.ne_nil digit

/-- Something stands before the text of a heading. -/
theorem headingMark_append_ne (level : Nat) (text : String) : headingMark level ++ text ≠ text := by
  intro same
  have lengths := congrArg String.length same
  have space : " ".length = 1 := rfl
  simp only [headingMark, String.length_append, space] at lengths
  omega

theorem isPrintedByTag_renderBlock_iff (tag text : String) :
    IsPrintedByTag tag text (renderBlock tag text) ↔ ∀ level, ¬ PadsLevel tag level := by
  constructor
  · intro printed level pads
    have read := headingLevel?_eq_some_iff.mpr (.inr pads)
    have plain := isQuotation_eq_false_of_headingLevel? read
    rw [isQuotation, Bool.or_eq_false_iff, beq_eq_false_iff_ne, beq_eq_false_iff_ne] at plain
    have paragraph := printed.paragraph plain.1 plain.2 pads.not_isHeadingTag
    rw [renderBlock_of_headingLevel? read, String.append_left_inj] at paragraph
    exact headingMark_append_ne level text paragraph
  · intro unpadded
    constructor
    · intro level heading
      exact renderBlock_of_headingLevel? (headingLevel?_eq_some_iff.mpr (.inl heading)) text
    · intro block aside noHeading
      have read : headingLevel? tag = none := by
        refine Option.eq_none_iff_forall_ne_some.mpr fun level read => ?_
        exact (headingLevel?_eq_some_iff.mp read).elim (noHeading level) (unpadded level)
      exact renderBlock_of_paragraph read (by simp [isQuotation, block, aside]) text

/-- A section of text is printed as its tag asks for exactly when the tag does not write a level
with a plus sign or with zeros before the digit. Such a tag makes a heading of the level. -/
theorem renderSection_markup_isPrintedByTag_iff (catalog : Catalog) (document : Document)
    (tag : String) (markers : List Marker) :
    let text := renderMarkers catalog document markers
    let output := renderSection catalog document (.markup tag markers)
    (IsPrintedByTag tag text output ↔ ∀ level, ¬ PadsLevel tag level) ∧
      ∀ level, PadsLevel tag level → output = headingMark level ++ text ++ "\n\n" := by
  intro text output
  have printed : output = renderBlock tag text := renderSection_eq_sectionText _ _ _
  rw [printed]
  refine ⟨isPrintedByTag_renderBlock_iff tag text, fun level pads => ?_⟩
  exact renderBlock_of_headingLevel? (headingLevel?_eq_some_iff.mpr (.inr pads)) _

/-- A document with one section, a text in a block of the given tag. -/
def taggedText (tag : String) : Document where
  version := none
  markups := []
  atoms := []
  cards := []
  sections := [.markup tag [⟨.text "a", [], 0⟩]]

theorem renderSection_markup_isPrintedByTag_iff_zeros :
    let catalog := Cards.catalog .html Images.identity
    let markers : List Marker := [⟨.text "a", [], 0⟩]
    let padded := renderSection catalog (taggedText "h003") (.markup "h003" markers)
    let plain := renderSection catalog (taggedText "h7") (.markup "h7" markers)
    (PadsLevel "h003" 3 ∧ padded = headingMark 3 ++ "a" ++ "\n\n" ∧
      ¬ IsPrintedByTag "h003" "a" padded) ∧
    (∀ level, ¬ PadsLevel "h7" level) ∧ IsPrintedByTag "h7" "a" plain := by
  intro catalog markers padded plain
  have pads : PadsLevel "h003" 3 :=
    ⟨by decide, '0', ['0', '3'], .inr rfl, ⟨1, by decide⟩, by decide⟩
  have unpadded (level : Nat) : ¬ PadsLevel "h7" level := by
    rintro ⟨-, mark, digits, rfl | rfl, -, written⟩ <;> simp at written
  obtain ⟨printed, heading⟩ :=
    renderSection_markup_isPrintedByTag_iff catalog (taggedText "h003") "h003" markers
  have plainPrinted :=
    (renderSection_markup_isPrintedByTag_iff catalog (taggedText "h7") "h7" markers).1.mpr unpadded
  exact ⟨⟨pads, heading 3 pads, fun whole => printed.mp whole 3 pads⟩, unpadded, plainPrinted⟩

/-- A plus sign between the letter and the digit makes a heading of a tag that is not that of one.
-/
theorem signedLevel_makes_heading :
    let catalog := Cards.catalog .html Images.identity
    let output := renderDocument catalog (taggedText "h+1")
    output = "# a\n\n" ∧ (∀ level, ¬ IsHeadingTag "h+1" level) ∧
      ¬ IsPrintedByTag "h+1" "a" output := by
  intro catalog output
  have shown : output = "# a\n\n" := by decide
  have pads : PadsLevel "h+1" 1 := ⟨by decide, '+', ['1'], .inl rfl, ⟨0, by decide⟩, by decide⟩
  refine ⟨shown, pads.not_isHeadingTag, fun printed => ?_⟩
  have paragraph := printed.paragraph (by decide) (by decide) pads.not_isHeadingTag
  rw [shown] at paragraph
  exact absurd paragraph (by decide)

end Render
end BlogMigration
