import BlogMigration.Proofs.Cards.Galleries
import BlogMigration.Proofs.Cards.Structure

/-!
# The structure of figures

Galleries and bookmarks are printed as figures, line by line. What stands in a figure before its
caption is read back: its tags depend on the number of images and on which details there are, and
every text of the payload is the value of an attribute or the text of an element.
-/

namespace BlogMigration
namespace Cards
namespace Html

/-! ## Contents of figures -/

/-- A tag after which nothing of a figure follows but its caption and its end. -/
def Mark.leavesContent : Mark → Bool
  | .opening tag => tag.name == "figcaption"
  | .closing name => name == "figure"

/-- The pieces of a figure before its caption, or before its end if it has none. -/
def content (html : String) : List Piece :=
  (pieces html).takeWhile fun piece => !piece.mark.leavesContent

/-- The tag that ends the content of a figure. -/
def contentEnd? (html : String) : Option Mark :=
  ((pieces html).find? fun piece => piece.mark.leavesContent).map Piece.mark

/-- A piece that is read back from the content of a figure. -/
def Piece.isInside (piece : Piece) : Bool :=
  piece.mark.isNamed && !piece.mark.leavesContent

/-- A text is a figure with the given content, which the tag of the piece `last` ends. -/
structure IsFigure (html : String) (inner : List Piece) (last : Piece) : Prop where
  printed : ∃ closed more,
    html = String.join ((inner ++ [last]).map (Piece.text closed)) ++ more
  inside : inner.all Piece.isInside = true
  named : last.mark.isNamed = true
  leaves : last.mark.leavesContent = true

namespace IsFigure

variable {html : String} {inner : List Piece} {last : Piece}

theorem isInside_of_mem (figure : IsFigure html inner last) {piece : Piece}
    (member : piece ∈ inner) :
    piece.mark.isNamed = true ∧ piece.mark.leavesContent = false := by
  simpa [Piece.isInside] using List.all_eq_true.mp figure.inside piece member

theorem pieces_eq (figure : IsFigure html inner last) :
    ∃ more, pieces html = inner ++ last :: more := by
  obtain ⟨closed, more, rfl⟩ := figure.printed
  have named : (inner ++ [last]).all (fun piece => piece.mark.isNamed) = true := by
    simp only [List.all_append, List.all_cons, List.all_nil, Bool.and_true, Bool.and_eq_true]
    exact ⟨List.all_eq_true.mpr fun piece member => (figure.isInside_of_mem member).1, figure.named⟩
  refine ⟨piecesFrom [] more.toList, ?_⟩
  rw [pieces, String.toList_append, piecesFrom_join named, List.append_assoc,
    List.singleton_append]

/-- The content of a figure is read back. -/
theorem content_eq (figure : IsFigure html inner last) : content html = inner := by
  obtain ⟨more, read⟩ := figure.pieces_eq
  have kept : ∀ piece ∈ inner, (!piece.mark.leavesContent) = true := fun piece member => by
    rw [(figure.isInside_of_mem member).2, Bool.not_false]
  rw [content, read, List.takeWhile_append_of_pos kept,
    List.takeWhile_cons_of_neg (by simp [figure.leaves]), List.append_nil]

/-- The end of the content of a figure is read back. -/
theorem contentEnd?_eq (figure : IsFigure html inner last) : contentEnd? html = some last.mark := by
  obtain ⟨more, read⟩ := figure.pieces_eq
  have skipped : inner.find? (fun piece => piece.mark.leavesContent) = none :=
    List.find?_eq_none.mpr fun piece member => by simp [figure.isInside_of_mem member]
  rw [contentEnd?, read, List.find?_append, skipped, Option.none_or, List.find?_cons]
  simp [figure.leaves]

end IsFigure

/-! ## Lines -/

/-- A text of whole lines is printed from pieces, the line feed at its end being part of the text
before the next piece. -/
def Prints (closed : String → Bool) (lines : String) (printed : List Piece) : Prop :=
  "\n" ++ lines = String.join (printed.map (Piece.text closed)) ++ "\n"

variable {closed : String → Bool}

theorem Prints.empty : Prints closed "" [] := rfl

theorem Prints.append {first second : String} {earlier later : List Piece}
    (here : Prints closed first earlier) (there : Prints closed second later) :
    Prints closed (first ++ second) (earlier ++ later) := by
  rw [Prints] at here there ⊢
  rw [← String.append_assoc, here, String.append_assoc, there, List.map_append, String.join_append,
    String.append_assoc]

theorem Prints.join {α : Type} {line : α → String} {shown : α → List Piece}
    (each : ∀ item, Prints closed (line item) (shown item)) (items : List α) :
    Prints closed (String.join (items.map line)) (items.flatMap shown) := by
  induction items with
  | nil => exact .empty
  | cons item rest ih =>
      rw [List.map_cons, String.join_cons, List.flatMap_cons]
      exact (each item).append ih

/-! ## Elements -/

/-- The start of an element without attributes, after a text. -/
def start (name before : String) : Piece := ⟨before, .opening (plainTag name)⟩

def stop (name before : String) : Piece := ⟨before, .closing name⟩

theorem isInside_start {name : String} (inside : (start name "").isInside = true)
    (before : String) : (start name before).isInside = true :=
  inside

theorem isInside_stop {name : String} (inside : (stop name "").isInside = true)
    (before : String) : (stop name before).isInside = true :=
  inside

/-- The start of an element with one attribute, after a text. -/
def startWith (name key value before : String) : Piece := ⟨before, .opening ⟨name, [(key, value)]⟩⟩

theorem isInside_startWith {name key : String} (inside : (startWith name key "" "").isInside = true)
    (value before : String) : (startWith name key value before).isInside = true :=
  inside

/-! ### Lines of elements

The text before a tag at the start of a line is the end of the line before it and the indent, in
which nothing is escaped. -/

section

variable (closed) (name indent : String) (layout : escapeText ("\n" ++ indent) = "\n" ++ indent)

include layout

theorem prints_start (plain : closed name = false) :
    Prints closed (indent ++ "<" ++ name ++ ">\n") [start name ("\n" ++ indent)] := by
  rw [Prints, ← String.toList_inj]
  simp [Piece.text, layout, Mark.text, start, Tag.text, plainTag, form, plain]

theorem prints_startWith (plain : closed name = false) (key value : String) :
    Prints closed (indent ++ "<" ++ name ++ " " ++ key ++ "=\"" ++ escapeAttribute value ++ "\">\n")
      [startWith name key value ("\n" ++ indent)] := by
  rw [Prints, ← String.toList_inj]
  simp [Piece.text, layout, Mark.text, startWith, Tag.text, attributeText, form, plain]

theorem prints_stop :
    Prints closed (indent ++ "</" ++ name ++ ">\n") [stop name ("\n" ++ indent)] := by
  rw [Prints, ← String.toList_inj]
  simp [Piece.text, layout, Mark.text, stop]

theorem prints_element (plain : closed name = false) (text : String) :
    Prints closed (indent ++ "<" ++ name ++ ">" ++ escapeText text ++ ("</" ++ name ++ ">\n"))
      [start name ("\n" ++ indent), stop name text] := by
  rw [Prints, ← String.toList_inj]
  simp [Piece.text, layout, Mark.text, start, stop, Tag.text, plainTag, form, plain]

end

/-- The start of the caption of a figure, or its end if it has none. -/
def captionOrEnd (caption : Option String) : Piece :=
  if caption.isSome then start "figcaption" "\n  " else stop "figure" "\n"

theorem named_captionOrEnd (caption : Option String) :
    (captionOrEnd caption).mark.isNamed = true := by
  rw [captionOrEnd]
  split <;> decide

theorem leaves_captionOrEnd (caption : Option String) :
    (captionOrEnd caption).mark.leavesContent = true := by
  rw [captionOrEnd]
  split <;> decide

/-- Lines in the element of figures make a figure. -/
theorem isFigure_of_prints {lines back : String} {printed : List Piece} {last : Piece}
    (plain : closed "figure" = false) (front : Prints closed lines printed)
    (follows : ∃ more, "\n" ++ back = last.text closed ++ more)
    (inside : printed.all Piece.isInside = true) (named : last.mark.isNamed = true)
    (leaves : last.mark.leavesContent = true) :
    IsFigure ("<figure>\n" ++ lines ++ back) (start "figure" "" :: printed) last where
  printed := by
    obtain ⟨more, followed⟩ := follows
    have opened : "<figure>" = (start "figure" "").text closed := by
      simp [Piece.text, Mark.text, start, Tag.text, plainTag, form, escapeText, plain,
        ← String.toList_inj]
    have parted : "<figure>\n" ++ lines ++ back = "<figure>" ++ ("\n" ++ lines) ++ back := by
      simp [← String.toList_inj]
    refine ⟨closed, more, ?_⟩
    rw [Prints] at front
    rw [parted, front, opened, String.append_assoc, String.append_assoc, followed]
    simp [String.join_append, String.join_cons, String.append_assoc]
  inside := by
    rw [List.all_cons, inside]
    decide
  named := named
  leaves := leaves

end Html

/-! ## Galleries -/

namespace Gallery

open Html

def imagePieces (image : GalleryImage) : List Piece :=
  [start "div" "\n      ", ⟨"", .opening (image.shown.tag "img")⟩, stop "div" ""]

/-- The pieces of the lines of images from the one of number `index` on. -/
def rowPieces (index : Nat) : List GalleryImage → List Piece
  | [] => []
  | image :: rest =>
    (if 0 < index ∧ index % rowSize = 0 then [stop "div" "\n    ", start "div" "\n    "] else []) ++
      imagePieces image ++ rowPieces (index + 1) rest

def contentPieces (gallery : Gallery) : List Piece :=
  start "figure" "" :: start "div" "\n  " :: start "div" "\n    " ::
    (rowPieces 0 gallery.images ++ [stop "div" "\n    ", stop "div" "\n  "])

/-- In a gallery the tags of images close themselves. -/
def closesItself (name : String) : Bool := name == "img"

theorem prints_rowStart : Prints closesItself rowStart [start "div" "\n    "] := by
  simpa [rowStart] using prints_start closesItself "div" "    " rfl rfl

theorem prints_rowEnd : Prints closesItself rowEnd [stop "div" "\n    "] := by
  simpa [rowEnd] using prints_stop closesItself "div" "    " rfl

theorem prints_imageLine (image : GalleryImage) :
    Prints closesItself (imageLine image) (imagePieces image) := by
  have closes : closesItself (image.shown.tag "img").name = true := rfl
  rw [Prints, imageLine_eq, ← String.toList_inj]
  simp [imagePieces, Piece.text, Mark.text, start, stop, Tag.text, plainTag, form, escapeText,
    textChar, closes]
  simp [closesItself]

theorem prints_imageLines (index : Nat) (images : List GalleryImage) :
    Prints closesItself (imageLines index images) (rowPieces index images) := by
  induction images generalizing index with
  | nil => exact .empty
  | cons image later ih =>
      rw [imageLines, rowPieces]
      refine .append (.append ?_ (prints_imageLine image)) (ih (index + 1))
      split
      · exact .append prints_rowEnd prints_rowStart
      · exact .empty

theorem prints_lines (gallery : Gallery) :
    Prints closesItself
      ("  <div>\n" ++ rowStart ++ imageLines 0 gallery.images ++ rowEnd ++ "  </div>\n")
      (start "div" "\n  " :: start "div" "\n    " ::
        (rowPieces 0 gallery.images ++ [stop "div" "\n    ", stop "div" "\n  "])) := by
  have first : Prints closesItself "  <div>\n" [start "div" "\n  "] := by
    simpa using prints_start closesItself "div" "  " rfl rfl
  have last : Prints closesItself "  </div>\n" [stop "div" "\n  "] := by
    simpa using prints_stop closesItself "div" "  " rfl
  have printed := (((first.append prints_rowStart).append
    (prints_imageLines 0 gallery.images)).append prints_rowEnd).append last
  simpa using printed

theorem isInside_imagePieces (image : GalleryImage) :
    (imagePieces image).all Piece.isInside = true := by
  have named : (Mark.opening (image.shown.tag "img")).isNamed = true :=
    isNamed_opening (show "img" ≠ "" by decide) (image.shown.named_tag (by decide))
  have picture : Piece.isInside ⟨"", .opening (image.shown.tag "img")⟩ = true := by
    rw [Piece.isInside, named]
    rfl
  simp (disch := decide) [imagePieces, picture, isInside_start, isInside_stop]

theorem isInside_rowPieces (index : Nat) (images : List GalleryImage) :
    (rowPieces index images).all Piece.isInside = true := by
  induction images generalizing index with
  | nil => rfl
  | cons image later ih =>
      rw [rowPieces, List.all_append, List.all_append, isInside_imagePieces, ih, Bool.and_true,
        Bool.and_true]
      split <;> decide

/-- After its rows a gallery goes on with its caption, or ends. -/
theorem exists_captionOrEnd (caption : Option String) :
    ∃ more, "\n" ++ (captionLines caption ++ "</figure>\n") =
      (captionOrEnd caption).text closesItself ++ more := by
  unfold captionLines
  cases caption with
  | none =>
      refine ⟨"\n", String.toList_inj.mp ?_⟩
      simp [captionOrEnd, Piece.text, Mark.text, stop, escapeText, textChar]
  | some caption =>
      refine ⟨"\n    " ++ caption ++ "\n  </figcaption>\n</figure>\n", String.toList_inj.mp ?_⟩
      simp [captionOrEnd, Piece.text, Mark.text, start, Tag.text, plainTag, form, closesItself,
        escapeText, textChar]

/-- A gallery is a figure of its images. -/
theorem isFigure_toHtml (gallery : Gallery) :
    IsFigure gallery.toHtml (contentPieces gallery) (captionOrEnd gallery.caption) := by
  have parted : gallery.toHtml = "<figure>\n" ++
      ("  <div>\n" ++ rowStart ++ imageLines 0 gallery.images ++ rowEnd ++ "  </div>\n") ++
        (captionLines gallery.caption ++ "</figure>\n") := by
    unfold toHtml
    simp [← String.toList_inj]
  rw [parted, contentPieces]
  refine isFigure_of_prints rfl (prints_lines gallery) (exists_captionOrEnd _) ?_
    (named_captionOrEnd _) (leaves_captionOrEnd _)
  simp only [List.all_cons, List.all_append, isInside_rowPieces]
  decide

end Gallery

/-! ## Bookmarks -/

namespace Bookmark

open Html

/-- Pieces that are there only with a value. -/
def optionalPieces (value : Option String) (shown : String → List Piece) : List Piece :=
  (value.map shown).getD []

def namePieces (name : String) : List Piece :=
  [start "span" "\n        ", stop "span" name]

def sitePieces (bookmark : Bookmark) : List Piece :=
  if bookmark.icon.isSome || bookmark.author.isSome || bookmark.publisher.isSome then
    start "div" "\n      " ::
      (optionalPieces bookmark.icon (fun icon => [startWith "img" "src" icon "\n        "]) ++
        optionalPieces bookmark.author namePieces ++
        optionalPieces bookmark.publisher namePieces ++ [stop "div" "\n      "])
  else []

/-- An image of the bookmarked page in an element of its own. -/
def thumbnailPieces (path : String) : List Piece :=
  [start "div" "\n    ", startWith "img" "src" path "", stop "div" ""]

def linkPieces (bookmark : Bookmark) : List Piece :=
  startWith "a" "href" bookmark.url "\n  " :: start "div" "\n    " ::
    start "div" "\n      " :: stop "div" bookmark.title ::
    start "div" "\n      " :: stop "div" bookmark.description ::
    (sitePieces bookmark ++ stop "div" "\n    " ::
      (optionalPieces bookmark.thumbnail thumbnailPieces ++ [stop "a" "\n  "]))

def contentPieces (bookmark : Bookmark) : List Piece :=
  start "figure" "" :: linkPieces bookmark

/-- In a bookmark no element closes itself. -/
def closesItself (_name : String) : Bool := false

theorem prints_optionalLine {line : String → String} {shown : String → List Piece}
    (prints : ∀ value, Prints closesItself (line value) (shown value)) (value : Option String) :
    Prints closesItself (optionalLine value line) (optionalPieces value shown) := by
  cases value with
  | none => exact .empty
  | some value => exact prints value

theorem prints_nameLine (name : String) :
    Prints closesItself ("        <span>" ++ escapeText name ++ "</span>\n") (namePieces name) := by
  simpa [namePieces] using prints_element closesItself "span" "        " rfl rfl name

theorem prints_siteLines (bookmark : Bookmark) :
    Prints closesItself (siteLines bookmark) (sitePieces bookmark) := by
  have first : Prints closesItself "      <div>\n" [start "div" "\n      "] := by
    simpa using prints_start closesItself "div" "      " rfl rfl
  have iconLine (icon : String) :
      Prints closesItself ("        <img src=\"" ++ escapeAttribute icon ++ "\">\n")
        [startWith "img" "src" icon "\n        "] := by
    simpa using prints_startWith closesItself "img" "        " rfl rfl "src" icon
  have last : Prints closesItself "      </div>\n" [stop "div" "\n      "] := by
    simpa using prints_stop closesItself "div" "      " rfl
  unfold siteLines sitePieces
  split
  · have printed := (((first.append (prints_optionalLine iconLine bookmark.icon)).append
      (prints_optionalLine prints_nameLine bookmark.author)).append
      (prints_optionalLine prints_nameLine bookmark.publisher)).append last
    simpa using printed
  · exact .empty

def linkLines (bookmark : Bookmark) : String :=
  ("  <a href=\"" ++ escapeAttribute bookmark.url ++ "\">\n") ++ "    <div>\n" ++
    ("      <div>" ++ escapeText bookmark.title ++ "</div>\n") ++
    ("      <div>" ++ escapeText bookmark.description ++ "</div>\n") ++
    siteLines bookmark ++ "    </div>\n" ++
    optionalLine bookmark.thumbnail
      (fun path => "    <div><img src=\"" ++ escapeAttribute path ++ "\"></div>\n") ++
    "  </a>\n"

theorem prints_linkLines (bookmark : Bookmark) :
    Prints closesItself (linkLines bookmark) (linkPieces bookmark) := by
  have first : Prints closesItself ("  <a href=\"" ++ escapeAttribute bookmark.url ++ "\">\n")
      [startWith "a" "href" bookmark.url "\n  "] := by
    simpa using prints_startWith closesItself "a" "  " rfl rfl "href" bookmark.url
  have second : Prints closesItself "    <div>\n" [start "div" "\n    "] := by
    simpa using prints_start closesItself "div" "    " rfl rfl
  have textLine (text : String) :
      Prints closesItself ("      <div>" ++ escapeText text ++ "</div>\n")
        [start "div" "\n      ", stop "div" text] := by
    simpa using prints_element closesItself "div" "      " rfl rfl text
  have middle : Prints closesItself "    </div>\n" [stop "div" "\n    "] := by
    simpa using prints_stop closesItself "div" "    " rfl
  have thumbnailLine (path : String) :
      Prints closesItself ("    <div><img src=\"" ++ escapeAttribute path ++ "\"></div>\n")
        (thumbnailPieces path) := by
    rw [Prints, ← String.toList_inj]
    simp [thumbnailPieces, Piece.text, Mark.text, start, stop, startWith, Tag.text, attributeText,
      plainTag, form, closesItself, escapeText, textChar]
  have last : Prints closesItself "  </a>\n" [stop "a" "\n  "] := by
    simpa using prints_stop closesItself "a" "  " rfl
  have printed := ((((((first.append second).append (textLine bookmark.title)).append
    (textLine bookmark.description)).append (prints_siteLines bookmark)).append middle).append
    (prints_optionalLine thumbnailLine bookmark.thumbnail)).append last
  unfold linkLines linkPieces
  simpa using printed

theorem isInside_optionalPieces {shown : String → List Piece}
    (inside : ∀ value, (shown value).all Piece.isInside = true) (value : Option String) :
    (optionalPieces value shown).all Piece.isInside = true := by
  cases value with
  | none => rfl
  | some value => exact inside value

theorem isInside_sitePieces (bookmark : Bookmark) :
    (sitePieces bookmark).all Piece.isInside = true := by
  have icon (path : String) :
      [startWith "img" "src" path "\n        "].all Piece.isInside = true := by
    simp (disch := decide) [isInside_startWith]
  have name (name : String) : (namePieces name).all Piece.isInside = true := by
    simp (disch := decide) [namePieces, isInside_start, isInside_stop]
  rw [sitePieces]
  split
  · simp only [List.all_cons, List.all_append, isInside_optionalPieces icon,
      isInside_optionalPieces name]
    decide
  · rfl

theorem isInside_linkPieces (bookmark : Bookmark) :
    (linkPieces bookmark).all Piece.isInside = true := by
  have thumbnail (path : String) : (thumbnailPieces path).all Piece.isInside = true := by
    simp (disch := decide) [thumbnailPieces, isInside_start, isInside_startWith, isInside_stop]
  simp (disch := decide) [linkPieces, isInside_sitePieces, isInside_optionalPieces thumbnail,
    isInside_start, isInside_startWith, isInside_stop]

/-- A bookmark is a figure of the link to its page. -/
theorem isFigure_toHtml (bookmark : Bookmark) :
    IsFigure bookmark.toHtml (contentPieces bookmark) (captionOrEnd bookmark.caption) := by
  have parted : bookmark.toHtml = "<figure>\n" ++ linkLines bookmark ++
      (optionalLine bookmark.caption
        (fun caption => "  <figcaption>" ++ caption ++ "</figcaption>\n") ++ "</figure>\n") := by
    unfold toHtml linkLines
    simp [← String.toList_inj]
  have ends : ∃ more, "\n" ++ (optionalLine bookmark.caption
        (fun caption => "  <figcaption>" ++ caption ++ "</figcaption>\n") ++ "</figure>\n") =
      (captionOrEnd bookmark.caption).text closesItself ++ more := by
    unfold optionalLine
    cases bookmark.caption with
    | none =>
        refine ⟨"\n", String.toList_inj.mp ?_⟩
        simp [captionOrEnd, Piece.text, Mark.text, stop, escapeText, textChar]
    | some caption =>
        refine ⟨caption ++ "</figcaption>\n</figure>\n", String.toList_inj.mp ?_⟩
        simp [captionOrEnd, Piece.text, Mark.text, start, Tag.text, plainTag, form, closesItself,
          escapeText, textChar]
  rw [parted, contentPieces]
  exact isFigure_of_prints rfl (prints_linkLines bookmark) ends (isInside_linkPieces bookmark)
    (named_captionOrEnd _) (leaves_captionOrEnd _)

end Bookmark

end Cards
end BlogMigration
