import BlogMigration.Cards.Catalog
import BlogMigration.Proofs.Render.Walker
import BlogMigration.Proofs.Text.Lines

/-!
# Quotations

A quotation has its mark before the first line, and behind every line feed of its text. So each line
of the text stands behind one mark, whatever the text is, and the text is what is left of the lines
without their marks.
-/

namespace BlogMigration
namespace Render

open Mobiledoc (Marker Document)
open Text (lines)

def quotationMark : List Char :=
  ['>', ' ']

/-- A text is a quotation of another one: all its lines have the mark before them, and joined
without their marks they are the other text. -/
structure Quotes (quoted plain : List Char) : Prop where
  marked : ∀ line ∈ lines quoted, quotationMark <+: line
  restored : List.intercalate ['\n'] ((lines quoted).map (List.drop quotationMark.length)) = plain

/-- Within a quotation every line but the first one gets a mark. -/
theorem lines_flatMap_quotedLineChar {cs first : List Char} {others : List (List Char)}
    (cut : lines cs = first :: others) :
    lines (cs.flatMap quotedLineChar) = first :: others.map (quotationMark ++ ·) := by
  induction cs generalizing first others with
  | nil =>
      cases cut
      rfl
  | cons c rest ih =>
      obtain ⟨next, later, after⟩ := List.exists_cons_of_ne_nil (Text.lines_ne_nil rest)
      by_cases feed : c = '\n'
      · have here : lines (c :: rest) = [] :: lines rest := by
          rw [feed]
          exact Text.lines_append_feed [] rest
        have marked : lines ((c :: rest).flatMap quotedLineChar) =
            [] :: lines (quotationMark ++ rest.flatMap quotedLineChar) := by
          rw [feed]
          exact Text.lines_append_feed [] _
        rw [here, after, List.cons.injEq] at cut
        obtain ⟨rfl, rfl⟩ := cut
        rw [marked, lines, Text.splitAll_append_of_not_mem (by decide), ← lines, ih after]
        rfl
      · have here := Text.lines_cons_of_ne feed rest
        rw [here, after, List.modifyHead_cons, List.cons.injEq] at cut
        obtain ⟨rfl, rfl⟩ := cut
        have single : (c :: rest).flatMap quotedLineChar = c :: rest.flatMap quotedLineChar := by
          simp [quotedLineChar, feed]
        rw [single, Text.lines_cons_of_ne feed, ih after, List.modifyHead_cons]

/-- The lines of a quotation are those of its text, each behind a mark. -/
theorem lines_quotation (cs : List Char) :
    lines (quotationMark ++ cs.flatMap quotedLineChar) = (lines cs).map (quotationMark ++ ·) := by
  obtain ⟨first, others, cut⟩ := List.exists_cons_of_ne_nil (Text.lines_ne_nil cs)
  rw [lines, Text.splitAll_append_of_not_mem (by decide), ← lines,
    lines_flatMap_quotedLineChar cut, cut]
  rfl

theorem quotes_quotation (cs : List Char) :
    Quotes (quotationMark ++ cs.flatMap quotedLineChar) cs := by
  constructor
  · rw [lines_quotation, List.forall_mem_map]
    exact fun line _ => List.prefix_append _ _
  · have unmarked : List.drop quotationMark.length ∘ (quotationMark ++ ·) = id := by
      funext line
      exact List.drop_left
    rw [lines_quotation, List.map_map, unmarked, List.map_id, lines, Text.intercalate_splitAll]

/-- Without the empty line behind it, the output of a quotation quotes that of a paragraph with the
same markers: the marks can be taken off line by line, and what is left is the paragraph. -/
theorem renderSection_quotation_quotes_paragraph (catalog : Catalog) (document : Document)
    {tag : String} (quotation : tag = "blockquote" ∨ tag = "aside") (markers : List Marker) :
    ∃ quoted plain : String,
      renderSection catalog document (.markup tag markers) = quoted ++ "\n\n" ∧
      renderSection catalog document (.markup "p" markers) = plain ++ "\n\n" ∧
      Quotes quoted.toList plain.toList := by
  generalize text : renderMarkers catalog document markers = plain
  have quotes : isQuotation tag = true := by
    rcases quotation with rfl | rfl <;> rfl
  have paragraph : isQuotation "p" = false ∧ headingLevel? "p" = none := by decide
  refine ⟨"> " ++ Text.expand quotedLineChar plain, plain, ?_, ?_, ?_⟩
  · simp [renderSection_eq_sectionText, sectionText, renderBlock, text, quotes]
  · simp [renderSection_eq_sectionText, sectionText, renderBlock, text, paragraph]
  · rw [String.toList_append, Text.toList_expand]
    exact quotes_quotation plain.toList

/-- A link around a text with line feeds at both ends and a mark of its own, and a soft return. -/
theorem renderSection_quotation_quotes_paragraph_marked :
    let catalog := Cards.catalog .html Images.identity
    let markers : List Marker := [⟨.text "\na\n\n> b\n", [0], 0⟩, ⟨.atom 0, [], 1⟩]
    let document : Document :=
      ⟨none, [⟨"a", [("href", "/x\ny")]⟩], [⟨"soft-return", "", .object []⟩], [], []⟩
    ("aside" = "blockquote" ∨ "aside" = "aside") ∧
      renderSection catalog document (.markup "aside" markers) =
        "> [\n> a\n> \n> > b\n> \n> ](</x%0Ay>)" ++ "\n\n" ∧
      Quotes "> [\n> a\n> \n> > b\n> \n> ](</x%0Ay>)".toList
        "[\na\n\n> b\n\n](</x%0Ay>)".toList := by
  intro catalog markers document
  have quotation : "aside" = "blockquote" ∨ "aside" = "aside" := .inr rfl
  have shown : renderSection catalog document (.markup "aside" markers) =
      "> [\n> a\n> \n> > b\n> \n> ](</x%0Ay>)" ++ "\n\n" := by decide
  have paragraph : renderSection catalog document (.markup "p" markers) =
      "[\na\n\n> b\n\n](</x%0Ay>)" ++ "\n\n" := by decide
  obtain ⟨quoted, plain, first, second, quotes⟩ :=
    renderSection_quotation_quotes_paragraph catalog document quotation markers
  rw [shown, String.append_left_inj] at first
  rw [paragraph, String.append_left_inj] at second
  subst first second
  exact ⟨quotation, shown, quotes⟩

end Render
end BlogMigration
