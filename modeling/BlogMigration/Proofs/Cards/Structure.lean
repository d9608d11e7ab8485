import BlogMigration.Proofs.Cards.Entities

/-!
# The structure of HTML

A text in HTML is a sequence of tags with a text before each of them. The reader takes a tag
wherever there is one and decodes the entities of the texts in between. What is printed from tags
and escaped texts is read back: whatever the texts and the values of attributes are, they never add
a tag.
-/

namespace BlogMigration
namespace Cards
namespace Html

/-- A tag that opens or closes an element. -/
inductive Mark where
  | opening (tag : Tag)
  | closing (name : String)
  deriving DecidableEq, Repr

/-- A tag and the text before it. -/
structure Piece where
  before : String
  mark : Mark
  deriving DecidableEq, Repr

/-! ## Reading -/

/-- Reads the name of a closing tag and its end. -/
def closing? (cs : List Char) : Option (Mark × List Char) :=
  (Text.dropFront? ['>'] (cs.dropWhile isNameChar)).map fun rest =>
    (.closing (String.ofList (cs.takeWhile isNameChar)), rest)

def mark? (cs : List Char) : Option (Mark × List Char) :=
  match Text.dropFront? ['<', '/'] cs with
  | some named => closing? named
  | none => (form.read? cs).map fun found => (.opening found.1, found.2)

/-- Reads the pieces of a text after the text `before` them, which is as it was written. Where no
tag can be read, a character belongs to the text. -/
def piecesFrom (before : List Char) : List Char → List Piece
  | [] => []
  | c :: rest =>
    match mark? (c :: rest) with
    | some (mark, after) =>
      if _shorter : after.length ≤ rest.length then
        ⟨String.ofList (decodeEntities before), mark⟩ :: piecesFrom [] after
      else piecesFrom (before ++ [c]) rest
    | none => piecesFrom (before ++ [c]) rest
termination_by cs => cs.length

/-- The tags of a text and the texts before them. -/
def pieces (html : String) : List Piece :=
  piecesFrom [] html.toList

/-! ## Printing -/

/-- A tag as text. The elements of some names close themselves. -/
def Mark.text (closed : String → Bool) : Mark → String
  | .opening tag => tag.text form.start (if closed tag.name then "/>" else ">") escapeAttribute
  | .closing name => "</" ++ name ++ ">"

/-- A tag after an escaped text. -/
def Piece.text (closed : String → Bool) (piece : Piece) : String :=
  escapeText piece.before ++ piece.mark.text closed

def Mark.name : Mark → String
  | .opening tag => tag.name
  | .closing name => name

def Mark.attributeNames : Mark → List String
  | .opening tag => tag.attributes.map Prod.fst
  | .closing _ => []

/-- The names in a tag are made of characters of names, and its own is not empty. -/
def Mark.isNamed (mark : Mark) : Bool :=
  !mark.name.isEmpty && isName mark.name && mark.attributeNames.all isName

theorem isNamed_opening {tag : Tag} (nonempty : tag.name ≠ "") (named : tag.Named) :
    (Mark.opening tag).isNamed = true := by
  have attributes : (tag.attributes.map Prod.fst).all isName = true := by
    simpa [List.all_map] using named.attributes
  simp [Mark.isNamed, Mark.name, Mark.attributeNames, nonempty, named.name, attributes]

/-! ## Reading back -/

theorem read?_of_ne {c : Char} (apart : '<' ≠ c) (rest : List Char) :
    form.read? (c :: rest) = none := by
  have unstarted : Text.dropFront? form.start.toList (c :: rest) = none := by
    simp [form, Text.dropFront?, apart]
  rw [TagForm.read?, unstarted]
  rfl

/-- Text without the first character of tags is passed over. -/
theorem piecesFrom_append {between : List Char} (plain : '<' ∉ between)
    (before rest : List Char) :
    piecesFrom before (between ++ rest) = piecesFrom (before ++ between) rest := by
  induction between generalizing before with
  | nil => rw [List.nil_append, List.append_nil]
  | cons c cs ih =>
      rw [List.mem_cons, not_or] at plain
      have unread : mark? (c :: (cs ++ rest)) = none := by
        simp [mark?, Text.dropFront?, plain.1, read?_of_ne plain.1]
      rw [List.cons_append, piecesFrom, unread]
      simp only [ih plain.2, List.append_assoc, List.singleton_append]

/-- A tag ends the text before it. -/
theorem piecesFrom_mark {mark : Mark} {written rest : List Char} (nonempty : written ≠ [])
    (read : mark? (written ++ rest) = some (mark, rest)) (before : List Char) :
    piecesFrom before (written ++ rest) =
      ⟨String.ofList (decodeEntities before), mark⟩ :: piecesFrom [] rest := by
  cases written with
  | nil => exact absurd rfl nonempty
  | cons c cs =>
      have shorter : rest.length ≤ (cs ++ rest).length := by simp
      rw [List.cons_append] at read ⊢
      rw [piecesFrom, read]
      exact dif_pos shorter

variable {closed : String → Bool}

theorem Mark.text_ne_nil (mark : Mark) : (mark.text closed).toList ≠ [] := by
  cases mark with
  | opening tag => simp [Mark.text, Tag.text, form]
  | closing name => simp [Mark.text]

theorem mark?_closing {name : String} (named : isName name = true) (rest : List Char) :
    mark? (((Mark.closing name).text closed).toList ++ rest) = some (.closing name, rest) := by
  have ends : isNameChar '>' = false := by decide
  have parts : ((Mark.closing name).text closed).toList ++ rest =
      '<' :: '/' :: (name.toList ++ '>' :: rest) := by simp [Mark.text]
  rw [parts]
  simp [mark?, Text.dropFront?, closing?, takeWhile_name named ends, dropWhile_name named ends]

theorem mark?_opening {tag : Tag} (nonempty : tag.name ≠ "") (named : tag.Named)
    (rest : List Char) :
    mark? (((Mark.opening tag).text closed).toList ++ rest) = some (.opening tag, rest) := by
  rw [Mark.text]
  generalize chosen : (if closed tag.name then "/>" else ">") = stop
  have listed : stop ∈ form.stops := by
    rw [← chosen]
    split <;> decide
  -- A name has no slash, so what starts an opening tag does not start a closing one.
  have opens : Text.dropFront? ['<', '/']
      ((tag.text form.start stop escapeAttribute).toList ++ rest) = none := by
    cases first : tag.name.toList with
    | nil => exact absurd (String.toList_eq_nil_iff.mp first) nonempty
    | cons c cs =>
        have other : '/' ≠ c := by
          rintro rfl
          have plain := List.all_eq_true.mp named.name
          exact absurd (plain '/' (by simp [first])) (by decide)
        simp [Tag.text, form, first, Text.dropFront?, other]
  rw [mark?, opens]
  simp only [(form_undoes listed).read?_text named rest, Option.map_some]

/-- A printed tag is read back, whatever its values are and whatever follows it. -/
theorem mark?_text {mark : Mark} (named : mark.isNamed = true) (rest : List Char) :
    mark? ((mark.text closed).toList ++ rest) = some (mark, rest) := by
  simp only [Mark.isNamed, Bool.and_eq_true, Bool.not_eq_true', List.all_eq_true] at named
  obtain ⟨⟨nonempty, plain⟩, attributes⟩ := named
  cases mark with
  | opening tag =>
      have written : tag.Named :=
        ⟨plain, fun pair member => attributes pair.1 (List.mem_map_of_mem member)⟩
      exact mark?_opening (by simpa [Mark.name] using nonempty) written rest
  | closing name => exact mark?_closing plain rest

/-- Printed pieces are read back, whatever their texts and values are. -/
theorem piecesFrom_join {pieces : List Piece}
    (named : pieces.all (fun piece => piece.mark.isNamed) = true) (rest : List Char) :
    piecesFrom [] ((String.join (pieces.map (Piece.text closed))).toList ++ rest) =
      pieces ++ piecesFrom [] rest := by
  induction pieces with
  | nil => simp
  | cons piece later ih =>
      rw [List.all_cons, Bool.and_eq_true] at named
      have escaped : '<' ∉ (escapeText piece.before).toList := not_mem_escapeText (by decide) _
      rw [List.map_cons, String.join_cons, Piece.text, String.toList_append, String.toList_append,
        List.append_assoc, List.append_assoc, piecesFrom_append escaped, List.nil_append,
        piecesFrom_mark piece.mark.text_ne_nil (mark?_text named.1 _), ih named.2,
        decodeEntities_escapeText, String.ofList_toList, List.cons_append]

end Html
end Cards
end BlogMigration
