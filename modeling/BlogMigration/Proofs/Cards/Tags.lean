import BlogMigration.Text.Split

/-!
# Tags read back from a text

An opening tag has a name and attributes in double quotes. The languages of tags differ in how a tag
starts and stops and in how a value is written between its quotes. A reader takes a tag from the
front of a text, and a text is read by taking a tag wherever there is one. What is printed by a
language is read back by its reader, whatever the values are.
-/

namespace BlogMigration
namespace Cards

/-- An opening tag, with the names and the values of its attributes in order. -/
structure Tag where
  name : String
  attributes : List (String × String)
  deriving DecidableEq, Repr

def Tag.value? (name : String) (tag : Tag) : Option String :=
  (tag.attributes.find? fun pair => pair.1 == name).map Prod.snd

/-- A character of the name of a tag or of an attribute. -/
def isNameChar (c : Char) : Bool :=
  !c.isWhitespace && !(['=', '"', '/', '<', '>'].contains c)

def isName (name : String) : Bool :=
  name.toList.all isNameChar

/-- A language of tags: what a tag starts with, what it may stop with, and how the value is read
that follows an opening quote, up to its closing quote. -/
structure TagForm where
  start : String
  stops : List String
  value? : List Char → Option (List Char × List Char)

namespace TagForm

/-- What follows the stop of a tag. -/
def stop? (form : TagForm) (cs : List Char) : Option (List Char) :=
  form.stops.findSome? fun stop => Text.dropFront? stop.toList cs

/-- Reads a space, a name, an equals sign and a quoted value. -/
def attribute? (form : TagForm) (cs : List Char) : Option ((String × String) × List Char) := do
  let cs ← Text.dropFront? [' '] cs
  let quoted ← Text.dropFront? ['=', '"'] (cs.dropWhile isNameChar)
  let (value, rest) ← form.value? quoted
  return ((String.ofList (cs.takeWhile isNameChar), String.ofList value), rest)

/-- Reads attributes up to a stop. -/
def attributes? (form : TagForm) (cs : List Char) :
    Option (List (String × String) × List Char) :=
  match form.stop? cs with
  | some rest => some ([], rest)
  | none =>
    match form.attribute? cs with
    | none => none
    | some (pair, more) =>
      -- A value takes up text in every language here; the test makes the end of the reading plain.
      if _shorter : more.length < cs.length then
        (form.attributes? more).map fun (later, rest) => (pair :: later, rest)
      else none
termination_by cs.length

def read? (form : TagForm) (cs : List Char) : Option (Tag × List Char) := do
  let cs ← Text.dropFront? form.start.toList cs
  let (attributes, rest) ← form.attributes? (cs.dropWhile isNameChar)
  return (⟨String.ofList (cs.takeWhile isNameChar), attributes⟩, rest)

/-- Reads the tags of a text. Where no tag can be read, one character is skipped. -/
def readAll (form : TagForm) : List Char → List Tag
  | [] => []
  | c :: rest =>
    match form.read? (c :: rest) with
    | some (tag, after) =>
      if _shorter : after.length ≤ rest.length then tag :: form.readAll after
      else form.readAll rest
    | none => form.readAll rest
termination_by cs => cs.length

def tags (form : TagForm) (text : String) : List Tag :=
  form.readAll text.toList

end TagForm

/-! ## Printing -/

def attributeText (escape : String → String) (pair : String × String) : String :=
  " " ++ pair.1 ++ "=\"" ++ escape pair.2 ++ "\""

/-- A tag between a start and a stop, its values escaped. -/
def Tag.text (start stop : String) (escape : String → String) (tag : Tag) : String :=
  start ++ tag.name ++ String.join (tag.attributes.map (attributeText escape)) ++ stop

/-- The attribute of a name with its value, if it has one. -/
def attributeOf (name : String) (value : Option String) : List (String × String) :=
  (value.map fun value => (name, value)).toList

/-- The names in a tag are made of characters of names. -/
structure Tag.Named (tag : Tag) : Prop where
  name : isName tag.name = true
  attributes : ∀ pair ∈ tag.attributes, isName pair.1 = true

theorem named_attributeOf {name : String} (named : isName name = true)
    (value : Option String) :
    ∀ pair ∈ attributeOf name value, isName pair.1 = true := by
  cases value with
  | none => exact fun pair member => nomatch member
  | some value =>
      intro pair member
      cases List.mem_singleton.mp member
      exact named

/-- A form undoes an escape, and a stop of it cannot be taken for an attribute or for a part of
a name. -/
structure TagForm.Undoes (form : TagForm) (escape : String → String) (stop : String) : Prop where
  value : ∀ (value : String) (rest : List Char),
    form.value? ((escape value).toList ++ '"' :: rest) = some (value.toList, rest)
  stopped : ∀ rest, form.stop? (stop.toList ++ rest) = some rest
  ends : ∃ c cs, stop.toList = c :: cs ∧ isNameChar c = false
  apart : ∀ (name : String) (rest : List Char), isName name = true →
    form.stop? (' ' :: (name.toList ++ '=' :: rest)) = none

/-! ## Reading back -/

variable {form : TagForm} {escape : String → String} {stop : String}

theorem takeWhile_name {name : String} (named : isName name = true) {c : Char}
    (ends : isNameChar c = false) (rest : List Char) :
    (name.toList ++ c :: rest).takeWhile isNameChar = name.toList := by
  rw [List.takeWhile_append_of_pos (List.all_eq_true.mp named),
    List.takeWhile_cons_of_neg (by simp [ends]),
    List.append_nil]

theorem dropWhile_name {name : String} (named : isName name = true) {c : Char}
    (ends : isNameChar c = false) (rest : List Char) :
    (name.toList ++ c :: rest).dropWhile isNameChar = c :: rest := by
  rw [List.dropWhile_append_of_pos (List.all_eq_true.mp named),
    List.dropWhile_cons_of_neg (by simp [ends])]

theorem toList_attributeText (pair : String × String) (rest : List Char) :
    (attributeText escape pair).toList ++ rest =
      ' ' :: (pair.1.toList ++
        '=' :: '"' :: ((escape pair.2).toList ++ '"' :: rest)) := by
  simp [attributeText]

namespace TagForm.Undoes

theorem attribute?_text (undoes : form.Undoes escape stop) {pair : String × String}
    (named : isName pair.1 = true) (rest : List Char) :
    form.attribute? ((attributeText escape pair).toList ++ rest) = some (pair, rest) := by
  have plain : isNameChar '=' = false := by decide
  rw [toList_attributeText, attribute?]
  simp only [Text.dropFront?, if_true, Option.bind_eq_bind, Option.bind_some,
    takeWhile_name named plain, dropWhile_name named plain, undoes.value]
  simp

theorem attributes?_texts (undoes : form.Undoes escape stop) {attributes : List (String × String)}
    (named : ∀ pair ∈ attributes, isName pair.1 = true)
    (rest : List Char) :
    form.attributes? ((String.join (attributes.map (attributeText escape))).toList ++
      (stop.toList ++ rest)) = some (attributes, rest) := by
  induction attributes with
  | nil =>
      rw [attributes?, List.map_nil, String.join_nil, String.toList_empty, List.nil_append,
        undoes.stopped]
  | cons pair later ih =>
      obtain ⟨here, there⟩ := List.forall_mem_cons.mp named
      rw [List.map_cons, String.join_cons, String.toList_append, List.append_assoc]
      generalize held : (String.join (later.map (attributeText escape))).toList ++
        (stop.toList ++ rest) = more at ih ⊢
      have unstopped : form.stop? ((attributeText escape pair).toList ++ more) = none := by
        rw [toList_attributeText]
        exact undoes.apart pair.1 _ here
      have shorter : more.length < ((attributeText escape pair).toList ++ more).length := by
        rw [toList_attributeText]
        simp only [List.length_cons, List.length_append]
        omega
      rw [attributes?, unstopped]
      simp only [undoes.attribute?_text here, dif_pos shorter, ih there, Option.map_some]

/-- A name is over where the attributes start, or where the tag stops. -/
theorem exists_cons_texts (undoes : form.Undoes escape stop)
    (attributes : List (String × String)) (rest : List Char) :
    ∃ c more, (String.join (attributes.map (attributeText escape))).toList ++
      (stop.toList ++ rest) = c :: more ∧ isNameChar c = false := by
  cases attributes with
  | nil =>
      obtain ⟨c, cs, first, ends⟩ := undoes.ends
      exact ⟨c, cs ++ rest, by simp [first], ends⟩
  | cons pair later =>
      rw [List.map_cons, String.join_cons, String.toList_append, List.append_assoc,
        toList_attributeText]
      exact ⟨' ', _, rfl, by decide⟩

/-- A printed tag is read back, whatever its values are and whatever follows it. -/
theorem read?_text (undoes : form.Undoes escape stop) {tag : Tag} (named : tag.Named)
    (rest : List Char) :
    form.read? ((tag.text form.start stop escape).toList ++ rest) = some (tag, rest) := by
  have parts : (tag.text form.start stop escape).toList ++ rest = form.start.toList ++
      (tag.name.toList ++ ((String.join (tag.attributes.map (attributeText escape))).toList ++
        (stop.toList ++ rest))) := by
    simp only [Tag.text, String.toList_append, List.append_assoc]
  have started (cs : List Char) :
      Text.dropFront? form.start.toList (form.start.toList ++ cs) = some cs :=
    Text.dropFront?_eq_some_iff.mpr rfl
  have read := undoes.attributes?_texts named.attributes rest
  obtain ⟨c, more, follows, ends⟩ := undoes.exists_cons_texts tag.attributes rest
  rw [follows] at read
  rw [parts, follows, read?, started]
  simp only [Option.bind_eq_bind, Option.bind_some, takeWhile_name named.name ends,
    dropWhile_name named.name ends, read]
  simp

/-- A printed tag is the next tag of a text. -/
theorem readAll_text (undoes : form.Undoes escape stop) {tag : Tag} (named : tag.Named)
    (rest : List Char) :
    form.readAll ((tag.text form.start stop escape).toList ++ rest) = tag :: form.readAll rest := by
  have read := undoes.read?_text named rest
  generalize front : (tag.text form.start stop escape).toList = cs at read ⊢
  have nonempty : cs ≠ [] := by
    obtain ⟨c, more, first, -⟩ := undoes.ends
    rw [← front, Tag.text, String.toList_append, first]
    simp
  cases cs with
  | nil => exact absurd rfl nonempty
  | cons c cs =>
      have shorter : rest.length ≤ (cs ++ rest).length := by simp
      rw [List.cons_append] at read ⊢
      rw [readAll, read]
      exact dif_pos shorter

end TagForm.Undoes

/-! ## Texts between tags -/

theorem TagForm.attributes?_eq_none {cs : List Char} (unstopped : form.stop? cs = none)
    (unread : form.attribute? cs = none) : form.attributes? cs = none := by
  rw [attributes?, unstopped, unread]

/-- What starts like a tag and goes on with a slash in place of a name is no tag. -/
theorem TagForm.read?_slash {rest : List Char} (unstopped : form.stop? ('/' :: rest) = none) :
    form.read? (form.start.toList ++ '/' :: rest) = none := by
  have started : Text.dropFront? form.start.toList (form.start.toList ++ '/' :: rest) =
      some ('/' :: rest) := Text.dropFront?_eq_some_iff.mpr rfl
  have unread : form.attributes? ('/' :: rest) = none := attributes?_eq_none unstopped rfl
  have slash : isNameChar '/' = false := by decide
  rw [read?, started]
  simp [slash, unread]

theorem TagForm.readAll_nil : form.readAll [] = [] := by
  rw [readAll]

theorem TagForm.readAll_cons_of_none {c : Char} {rest : List Char}
    (unread : form.read? (c :: rest) = none) :
    form.readAll (c :: rest) = form.readAll rest := by
  rw [readAll, unread]

/-- No tag is read from a text without the first character of tags. -/
theorem TagForm.readAll_append_of_not_mem {first : Char} {more between : List Char}
    (start : form.start.toList = first :: more) (absent : first ∉ between) (rest : List Char) :
    form.readAll (between ++ rest) = form.readAll rest := by
  induction between with
  | nil => rfl
  | cons c cs ih =>
      rw [List.mem_cons, not_or] at absent
      obtain ⟨apart, later⟩ := absent
      have unread : form.read? (c :: (cs ++ rest)) = none := by
        rw [read?, start, Text.dropFront?, if_neg apart]
        rfl
      rw [List.cons_append, readAll_cons_of_none unread, ih later]

end Cards
end BlogMigration
