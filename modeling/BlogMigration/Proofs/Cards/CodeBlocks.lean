import BlogMigration.Cards.Plain
import BlogMigration.Proofs.Render.Payloads
import BlogMigration.Proofs.Text.LineEndings

/-!
# Blocks of code

Markdown reads a fenced block from a line of at least three backticks up to the next line of at
least as many. A block of code is fenced by three backticks whatever its code is. It is read back,
and nothing is left outside of it, unless a line of the code is a fence itself or the code ends in a
carriage return, which the line feed behind the code makes a part of its own ending.
-/

namespace BlogMigration
namespace Cards

open Text (markdownLines)
open Render

/-! ## Fenced blocks -/

/-- A fenced block, by the text behind its first fence and the lines between its fences. -/
structure FencedBlock where
  language : List Char
  content : List (List Char)
  deriving DecidableEq, Repr

/-- A line of enough backticks, behind at most three spaces and before any number of them. -/
def closesFence (count : Nat) (line : List Char) : Bool :=
  let marks := line.dropWhile (· == ' ')
  decide ((line.takeWhile (· == ' ')).length ≤ 3) &&
    decide (count ≤ (marks.takeWhile (· == '`')).length) &&
    (marks.dropWhile (· == '`')).all (· == ' ')

/-- The number of backticks that a line opens a block with, and the language behind them. -/
def openedFence? (line : List Char) : Option (Nat × List Char) :=
  let count := (line.takeWhile (· == '`')).length
  let language := line.dropWhile (· == '`')
  if 3 ≤ count ∧ '`' ∉ language then some (count, language) else none

/-- Reads lines up to one that closes the fence. -/
def untilFence? (count : Nat) : List (List Char) → Option (List (List Char) × List (List Char))
  | [] => none
  | line :: rest =>
    if closesFence count line then some ([], rest)
    else (untilFence? count rest).map fun read => (line :: read.1, read.2)

/-- Reads a fenced block from lines, and gives the lines behind it. -/
def fencedBlock? : List (List Char) → Option (FencedBlock × List (List Char))
  | [] => none
  | line :: rest =>
    (openedFence? line).bind fun fence =>
      (untilFence? fence.1 rest).map fun read => (⟨fence.2, read.1⟩, read.2)

theorem openedFence?_append {language : List Char} (plain : '`' ∉ language) :
    openedFence? ("```".toList ++ language) = some (3, language) := by
  cases language with
  | nil => decide
  | cons c rest =>
      obtain ⟨apart, later⟩ : '`' ≠ c ∧ '`' ∉ rest := by simpa using plain
      simp [openedFence?, Ne.symm apart, apart, later]

theorem untilFence?_append {count : Nat} {fence : List Char}
    (closes : closesFence count fence = true) {content : List (List Char)}
    (inside : ∀ line ∈ content, closesFence count line = false) (after : List (List Char)) :
    untilFence? count (content ++ fence :: after) = some (content, after) := by
  induction content with
  | nil => simp [untilFence?, closes]
  | cons line content ih =>
      obtain ⟨here, there⟩ := List.forall_mem_cons.mp inside
      simp [untilFence?, here, ih there]

/-- The lines that are read stand before a fence, and none of them is one. -/
theorem exists_of_untilFence? {count : Nat} {all content after : List (List Char)}
    (read : untilFence? count all = some (content, after)) :
    (∀ line ∈ content, closesFence count line = false) ∧
      ∃ fence, all = content ++ fence :: after := by
  induction all generalizing content with
  | nil => cases read
  | cons line rest ih =>
      rw [untilFence?] at read
      split at read
      · cases read
        exact ⟨fun _ => nofun, line, rfl⟩
      · next here =>
          obtain ⟨⟨later, left⟩, found, same⟩ := Option.map_eq_some_iff.mp read
          cases same
          obtain ⟨there, fence, rfl⟩ := ih found
          refine ⟨List.forall_mem_cons.mpr ⟨?_, there⟩, fence, rfl⟩
          simpa using here

/-- Lines before a fence are read if none of them is one. -/
theorem untilFence?_append_iff {count : Nat} {fence : List Char}
    (closes : closesFence count fence = true) (content after : List (List Char)) :
    untilFence? count (content ++ fence :: after) = some (content, after) ↔
      ∀ line ∈ content, closesFence count line = false :=
  ⟨fun read => (exists_of_untilFence? read).1, fun inside => untilFence?_append closes inside after⟩

/-- No more lines are read than stand before a fence. -/
theorem untilFence?_append_ne {count : Nat} {fence line : List Char} (other : fence ≠ line)
    (content after left : List (List Char)) :
    untilFence? count (content ++ fence :: after) ≠ some (content ++ [line], left) := by
  intro read
  obtain ⟨-, last, cut⟩ := exists_of_untilFence? read
  rw [List.append_assoc, List.append_cancel_left_eq] at cut
  exact other (List.head_eq_of_cons_eq cut)

/-! ## Cards of code -/

namespace Code

/-- The language that the block is tagged with, nothing if there is none. -/
def tag (code : Code) : String :=
  (nonEmpty code.language).getD ""

/-- No character of the language ends the line of the fence or belongs to the fence. Languages made
of letters and digits are of this kind. -/
def IsTaggable (code : Code) : Prop :=
  ∀ language, code.language = some language →
    '`' ∉ language.toList ∧ '\n' ∉ language.toList ∧ '\r' ∉ language.toList

/-- A code that three backticks hold: none of its lines ends the block, and no carriage return at
its end makes one ending with the line feed behind the code. -/
def IsHeld (code : Code) : Prop :=
  (∀ line ∈ markdownLines code.code.toList, closesFence 3 line = false) ∧
    code.code.toList.getLast? ≠ some '\r'

theorem IsTaggable.tag {code : Code} (taggable : code.IsTaggable) :
    '`' ∉ code.tag.toList ∧ '\n' ∉ code.tag.toList ∧ '\r' ∉ code.tag.toList := by
  rw [Code.tag]
  cases given : nonEmpty code.language with
  | none => decide
  | some language => exact taggable language (nonEmpty_eq_some_iff.mp given).1

def fenced (code : Code) : List Char :=
  code.code.toList ++ '\n' :: "```\n".toList

theorem markdownLines_render {code : Code} (taggable : code.IsTaggable) :
    markdownLines code.render.toList =
      ("```".toList ++ code.tag.toList) :: markdownLines code.fenced := by
  obtain ⟨-, feed, ended⟩ := taggable.tag
  have text : code.render.toList = ("```".toList ++ code.tag.toList) ++ '\n' :: code.fenced := by
    simp [render, Code.tag, fenced]
  have noFeed : '\n' ∉ "```".toList ++ code.tag.toList := by simpa using feed
  have noReturn : '\r' ∉ "```".toList ++ code.tag.toList := by simpa using ended
  have whole : ("```".toList ++ code.tag.toList).getLast? ≠ some '\r' := fun last =>
    noReturn (List.mem_of_getLast? last)
  rw [text, Text.markdownLines_append_feed whole, Text.markdownLines_of_not_mem noFeed noReturn,
    List.singleton_append]

theorem markdownLines_fence : markdownLines "```\n".toList = "```".toList :: markdownLines [] := by
  decide

/-- The lines behind the first fence are read as the lines of the code, and none is left, exactly
if the code is held. -/
theorem untilFence?_fenced_iff (code : Code) :
    untilFence? 3 (markdownLines code.fenced) =
        some (markdownLines code.code.toList, markdownLines []) ↔
      code.IsHeld := by
  have closes : closesFence 3 "```".toList = true := by decide
  by_cases ended : code.code.toList.getLast? = some '\r'
  -- The line feed behind the code is part of the last ending of the code, behind which the code has
  -- an empty line that the block lacks.
  · obtain ⟨front, same⟩ := List.getLast?_eq_some_iff.mp ended
    have text : code.fenced = front ++ '\r' :: '\n' :: "```\n".toList := by
      simp [fenced, same]
    refine iff_of_false ?_ fun held => held.2 ended
    rw [text, same, Text.markdownLines_append_return_feed, Text.markdownLines_concat_return,
      markdownLines_fence]
    exact untilFence?_append_ne (by decide) _ _ _
  · rw [fenced, Text.markdownLines_append_feed ended, markdownLines_fence,
      untilFence?_append_iff closes, IsHeld, and_iff_left ended]

theorem fencedBlock?_render_iff {code : Code} (taggable : code.IsTaggable) :
    fencedBlock? (markdownLines code.render.toList) =
        some (⟨code.tag.toList, markdownLines code.code.toList⟩, markdownLines []) ↔
      code.IsHeld := by
  rw [← untilFence?_fenced_iff, markdownLines_render taggable, fencedBlock?,
    openedFence?_append taggable.tag.1, Option.bind_some]
  simp [Option.map_eq_some_iff, Prod.ext_iff]

end Code

/-- A block of code is tagged with its language, holds exactly the lines of the code and leaves
nothing outside, if and only if three backticks hold the code. -/
theorem code_fenced_iff {payload : Json} {text : String} (rendered : code payload = .ok text) :
    ∃ card, Code.read? payload = some card ∧
      (card.IsTaggable →
        (fencedBlock? (markdownLines text.toList) =
            some (⟨card.tag.toList, markdownLines card.code.toList⟩, markdownLines []) ↔
          card.IsHeld)) := by
  rw [code] at rendered
  cases read : readPayload ["code"] Code.read? payload with
  | error reason =>
      rw [read] at rendered
      cases rendered
  | ok card =>
      rw [read] at rendered
      cases rendered
      exact ⟨card, (readPayload_eq_ok_iff.mp read).2.2, Code.fencedBlock?_render_iff⟩

def codeIn (language text : String) : Json :=
  .object [("code", .string text), ("language", .string language)]

/-- Shorter runs of backticks, and runs behind other characters, do not end a block. -/
theorem code_fenced_iff_backticks :
    code (codeIn "md" "``\n    ```\n> ```\n") = .ok "```md\n``\n    ```\n> ```\n\n```\n" ∧
      fencedBlock? (markdownLines "```md\n``\n    ```\n> ```\n\n```\n".toList) =
        some (⟨"md".toList, ["``".toList, "    ```".toList, "> ```".toList, []]⟩, [[]]) := by
  have rendered : code (codeIn "md" "``\n    ```\n> ```\n") =
      .ok "```md\n``\n    ```\n> ```\n\n```\n" := congrArg Except.ok (by decide)
  have lines : markdownLines "``\n    ```\n> ```\n".toList =
      ["``".toList, "    ```".toList, "> ```".toList, []] := by decide
  obtain ⟨card, read, fenced⟩ := code_fenced_iff rendered
  cases read
  rw [lines] at fenced
  refine ⟨rendered, (fenced ?_).mpr ⟨?_, by decide⟩⟩
  · rintro language ⟨⟩
    decide
  · rw [lines]
    simp only [List.forall_mem_cons]
    decide

/-- Code that is a fence itself ends its block at once, and the fence behind it stands outside. -/
theorem code_ends_own_block :
    code (codeIn "" "```") = .ok "```\n```\n```\n" ∧
      fencedBlock? (markdownLines "```\n```\n```\n".toList) =
        some (⟨[], []⟩, ["```".toList, []]) :=
  ⟨congrArg Except.ok (by decide), by decide⟩

end Cards
end BlogMigration
