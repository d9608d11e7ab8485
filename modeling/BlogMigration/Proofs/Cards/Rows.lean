import BlogMigration.Proofs.Cards.Outlines

/-!
# Rows of galleries

The images of a gallery stand in rows of a fixed size, of which only the last one may be shorter.
The printer goes through the images by their numbers and starts a new row before some of them. What
it prints are the rows, one after the other, each of them started and ended once.
-/

namespace BlogMigration
namespace Cards

open Images (Normalizer)
open Mobiledoc (Picks)
open Render

/-! ## Rows -/

/-- Items in consecutive rows of a size. A row that more items follow is full. -/
inductive InRows {α : Type} (size : Nat) : List α → List (List α) → Prop where
  | last {row : List α} (fits : row.length ≤ size) : InRows size row [row]
  | full {row rest : List α} {rows : List (List α)} (filled : row.length = size)
      (more : rest ≠ []) (later : InRows size rest rows) : InRows size (row ++ rest) (row :: rows)

namespace InRows

variable {α : Type} {size : Nat} {items : List α} {rows others : List (List α)}

theorem flatten (grouped : InRows size items rows) : rows.flatten = items := by
  induction grouped with
  | last fits => simp
  | full filled more later ih => rw [List.flatten_cons, ih]

/-- The items fill their rows, and the last row is begun at most. There is always a row. -/
theorem length_eq (positive : 0 < size) (grouped : InRows size items rows) :
    rows.length = max 1 ((items.length + (size - 1)) / size) := by
  induction grouped with
  | @last row fits =>
      have begun : (row.length + (size - 1)) / size ≤ 1 :=
        Nat.lt_succ_iff.mp ((Nat.div_lt_iff_lt_mul positive).mpr (by omega))
      rw [List.length_singleton, Nat.max_eq_left begun]
  | @full row rest rows filled more later ih =>
      have some : 0 < rest.length := List.length_pos_iff.mpr more
      have others : 1 ≤ (rest.length + (size - 1)) / size :=
        (Nat.one_le_div_iff positive).mpr (by omega)
      have first : (row ++ rest).length + (size - 1) = rest.length + (size - 1) + size := by
        rw [List.length_append, filled]
        omega
      rw [List.length_cons, ih, Nat.max_eq_right others, first, Nat.add_div_right _ positive,
        Nat.max_eq_right (Nat.le_add_left 1 _)]

/-- No row is empty but the only row of no items. -/
theorem ne_nil_of_mem (positive : 0 < size) (grouped : InRows size items rows) {row : List α}
    (member : row ∈ rows) : row ≠ [] ∨ rows = [[]] := by
  induction grouped with
  | last fits =>
      rcases eq_or_ne row [] with rfl | filled
      · exact .inr (by rw [List.mem_singleton.mp member])
      · exact .inl filled
  | @full first rest rows filled more later ih =>
      refine .inl ?_
      rcases List.mem_cons.mp member with rfl | inRest
      · rintro rfl
        rw [← filled] at positive
        exact Nat.lt_irrefl 0 positive
      · refine (ih inRest).resolve_right ?_
        rintro rfl
        exact more later.flatten.symm

theorem not_last_of_full {row rest : List α} (filled : row.length = size) (more : rest ≠ []) :
    ¬ (row ++ rest).length ≤ size := by
  have some : 0 < rest.length := List.length_pos_iff.mpr more
  rw [List.length_append]
  omega

/-- Items stand in rows of a size in one way only. -/
theorem unique (grouped : InRows size items rows) (other : InRows size items others) :
    others = rows := by
  induction grouped generalizing others with
  | last fits =>
      cases other with
      | last _ => rfl
      | full filled more later => exact absurd fits (not_last_of_full filled more)
  | @full row rest rows filled more later ih =>
      generalize same : row ++ rest = items at other
      cases other with
      | last fits =>
          rw [← same] at fits
          exact absurd fits (not_last_of_full filled more)
      | full filledToo moreToo laterToo =>
          obtain ⟨rfl, rfl⟩ := List.append_inj same (filled.trans filledToo.symm)
          rw [ih laterToo]

end InRows

namespace Gallery

/-! ## Printed rows -/

def rowText (row : List GalleryImage) : String :=
  rowStart ++ String.join (row.map imageLine) ++ rowEnd

def rowsHtml (rows : List (List GalleryImage)) (caption : Option String) : String :=
  "<figure>\n  <div>\n" ++ String.join (rows.map rowText) ++ "  </div>\n" ++
    captionLines caption ++ "</figure>\n"

/-- The images that stand in the open row before the image of a number is printed. The first row is
open before there are images, and every other row is started with its first image. -/
structure IsOpenRow (index : Nat) (opened : List GalleryImage) : Prop where
  fits : opened.length ≤ rowSize
  place : ∃ before, index = before * rowSize + opened.length
  begun : 0 < index → 0 < opened.length

namespace IsOpenRow

variable {index : Nat} {opened : List GalleryImage}

/-- A new row is started exactly where the open one is full. -/
theorem starts_iff (current : IsOpenRow index opened) :
    (0 < index ∧ index % rowSize = 0) ↔ opened.length = rowSize := by
  obtain ⟨fits, ⟨before, rfl⟩, begun⟩ := current
  simp only [rowSize] at *
  constructor
  · rintro ⟨positive, multiple⟩
    have started := begun positive
    omega
  · intro full
    omega

theorem add (current : IsOpenRow index opened) (free : opened.length ≠ rowSize)
    (image : GalleryImage) : IsOpenRow (index + 1) (opened ++ [image]) where
  fits := by
    rw [List.length_append, List.length_singleton]
    exact Nat.lt_of_le_of_ne current.fits free
  place := by
    obtain ⟨before, rfl⟩ := current.place
    exact ⟨before, by simp [Nat.add_assoc]⟩
  begun _ := by simp

theorem next (current : IsOpenRow index opened) (full : opened.length = rowSize)
    (image : GalleryImage) : IsOpenRow (index + 1) [image] where
  fits := by
    rw [List.length_singleton, rowSize]
    decide
  place := by
    obtain ⟨before, rfl⟩ := current.place
    exact ⟨before + 1, by rw [full, Nat.succ_mul, List.length_singleton]⟩
  begun _ := Nat.one_pos

end IsOpenRow

/-- What is printed after an open row completes it and goes on with the rows after it. -/
theorem exists_rows {index : Nat} {opened : List GalleryImage} (current : IsOpenRow index opened)
    (rest : List GalleryImage) :
    ∃ rows, InRows rowSize (opened ++ rest) rows ∧
      rowStart ++ String.join (opened.map imageLine) ++ imageLines index rest ++ rowEnd =
        String.join (rows.map rowText) := by
  induction rest generalizing index opened with
  | nil =>
      refine ⟨[opened], ?_, by simp [imageLines, rowText, String.join_cons]⟩
      rw [List.append_nil]
      exact .last current.fits
  | cons image rest ih =>
      rw [imageLines]
      by_cases full : opened.length = rowSize
      · obtain ⟨rows, grouped, printed⟩ := ih (current.next full image)
        refine ⟨opened :: rows, .full full (List.cons_ne_nil image rest) grouped, ?_⟩
        rw [if_pos (current.starts_iff.mpr full), List.map_cons, String.join_cons, ← printed,
          rowText]
        simp [String.join_cons, String.append_assoc]
      · obtain ⟨rows, grouped, printed⟩ := ih (current.add full image)
        rw [List.append_assoc, List.singleton_append] at grouped
        refine ⟨rows, grouped, ?_⟩
        rw [if_neg (mt current.starts_iff.mp full), ← printed]
        simp [String.join_cons, String.append_assoc]

/-- A gallery is printed by its rows. -/
theorem exists_toHtml_eq (gallery : Gallery) :
    ∃ rows, InRows rowSize gallery.images rows ∧
      gallery.toHtml = rowsHtml rows gallery.caption := by
  have first : IsOpenRow 0 [] := ⟨Nat.zero_le _, ⟨0, rfl⟩, id⟩
  obtain ⟨rows, grouped, printed⟩ := exists_rows first gallery.images
  refine ⟨rows, grouped, ?_⟩
  unfold toHtml rowsHtml
  rw [← printed]
  simp [String.append_assoc]

/-! ## Rows that are read back -/

open Html

/-- The pieces of a row: its start, its images and its end. -/
def rowBlock (row : List GalleryImage) : List Piece :=
  start "div" "\n    " :: (row.flatMap imagePieces ++ [stop "div" "\n    "])

def rowsPieces (rows : List (List GalleryImage)) : List Piece :=
  start "figure" "" :: start "div" "\n  " :: (rows.flatMap rowBlock ++ [stop "div" "\n  "])

theorem prints_rowText (row : List GalleryImage) :
    Prints closesItself (rowText row) (rowBlock row) := by
  have printed := (prints_rowStart.append (.join prints_imageLine row)).append prints_rowEnd
  exact printed

theorem isInside_flatMap {α : Type} {shown : α → List Piece}
    (inside : ∀ item, (shown item).all Piece.isInside = true) (items : List α) :
    (items.flatMap shown).all Piece.isInside = true := by
  rw [List.all_flatMap, List.all_eq_true]
  exact fun item _ => inside item

theorem isInside_rowBlock (row : List GalleryImage) :
    (rowBlock row).all Piece.isInside = true := by
  rw [rowBlock, List.all_cons, List.all_append, isInside_flatMap isInside_imagePieces]
  decide

/-- The rows are read back from the HTML of a gallery, each with its own start and end. -/
theorem content_rowsHtml (rows : List (List GalleryImage)) (caption : Option String) :
    Html.content (rowsHtml rows caption) = rowsPieces rows := by
  have first : Prints closesItself "  <div>\n" [start "div" "\n  "] := by
    simpa using prints_start closesItself "div" "  " rfl rfl
  have last : Prints closesItself "  </div>\n" [stop "div" "\n  "] := by
    simpa using prints_stop closesItself "div" "  " rfl
  have printed := (first.append (.join prints_rowText rows)).append last
  have inside : ([start "div" "\n  "] ++ rows.flatMap rowBlock ++ [stop "div" "\n  "]).all
      Piece.isInside = true := by
    rw [List.all_append, List.all_append, isInside_flatMap isInside_rowBlock]
    decide
  have figure := isFigure_of_prints rfl printed (exists_captionOrEnd caption) inside
    (named_captionOrEnd caption) (leaves_captionOrEnd caption)
  have parted : rowsHtml rows caption = "<figure>\n" ++
      ("  <div>\n" ++ String.join (rows.map rowText) ++ "  </div>\n") ++
        (captionLines caption ++ "</figure>\n") := by
    unfold rowsHtml
    simp [← String.toList_inj]
  rw [parted]
  exact figure.content_eq

end Gallery

/-- The payload of a gallery of four images, with an entry between them that is none. -/
def fourPictures : Json :=
  .object [("images", .array [pictureEntry "a.png" "", pictureEntry "b.png" "", .null,
    pictureEntry "c.png" "", pictureEntry "d.png" ""]), ("caption", .string "Trip")]

end Cards
end BlogMigration
