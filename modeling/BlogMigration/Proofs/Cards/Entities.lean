import BlogMigration.Cards.Html
import BlogMigration.Proofs.Cards.Tags
import Mathlib.Data.List.Basic

/-!
# Tags of HTML

The reader of HTML knows opening tags with quoted attributes. A value goes up to the next quote, and
its entities stand for the characters that were escaped.
-/

namespace BlogMigration
namespace Cards
namespace Html

/-! ## Entities -/

/-- Attributes are escaped by putting the entities in the places of one character after another, the
ampersand first, so that those of the other entities stay. -/
theorem escapeAttribute_eq_expand (value : String) :
    escapeAttribute value =
      Text.expand (Text.swap '>' "&gt;".toList) (Text.expand (Text.swap '<' "&lt;".toList)
        (Text.expand (Text.swap '"' "&quot;".toList)
          (Text.expand (Text.swap '&' "&amp;".toList) value))) := by
  rw [Text.expand_expand, Text.expand_expand, Text.expand_expand, escapeAttribute]
  congr 1
  funext c
  fun_cases attributeChar c with
  | case5 c ampersand quote less greater =>
      simp [Text.swap_of_ne ampersand, Text.swap_of_ne quote, Text.swap_of_ne less,
        Text.swap_of_ne greater]
  | _ => rfl

/-- Texts are escaped in the same way, without the quote. -/
theorem escapeText_eq_expand (value : String) :
    escapeText value =
      Text.expand (Text.swap '>' "&gt;".toList) (Text.expand (Text.swap '<' "&lt;".toList)
        (Text.expand (Text.swap '&' "&amp;".toList) value)) := by
  rw [Text.expand_expand, Text.expand_expand, escapeText]
  congr 1
  funext c
  fun_cases textChar c with
  | case4 c ampersand less greater =>
      simp [Text.swap_of_ne ampersand, Text.swap_of_ne less, Text.swap_of_ne greater]
  | _ => rfl

/-- The text that stands for characters written as entities. An ampersand that starts none of the
four entities stands for itself. -/
def decodeEntities : List Char → List Char
  | '&' :: 'a' :: 'm' :: 'p' :: ';' :: rest => '&' :: decodeEntities rest
  | '&' :: 'q' :: 'u' :: 'o' :: 't' :: ';' :: rest => '"' :: decodeEntities rest
  | '&' :: 'l' :: 't' :: ';' :: rest => '<' :: decodeEntities rest
  | '&' :: 'g' :: 't' :: ';' :: rest => '>' :: decodeEntities rest
  | c :: rest => c :: decodeEntities rest
  | [] => []

theorem decodeEntities_cons {c : Char} (plain : c ≠ '&') (rest : List Char) :
    decodeEntities (c :: rest) = c :: decodeEntities rest := by
  rw [decodeEntities.eq_def]
  split <;> simp_all

/-- A character written for an attribute stands for itself. -/
theorem decodeEntities_attributeChar (c : Char) (rest : List Char) :
    decodeEntities (attributeChar c ++ rest) = c :: decodeEntities rest := by
  fun_cases attributeChar c with
  | case5 _ plain _ _ _ => exact decodeEntities_cons plain rest
  | _ => rfl

/-- A character written for the text of an element stands for itself. -/
theorem decodeEntities_textChar (c : Char) (rest : List Char) :
    decodeEntities (textChar c ++ rest) = c :: decodeEntities rest := by
  fun_cases textChar c with
  | case4 _ plain _ _ => exact decodeEntities_cons plain rest
  | _ => rfl

/-- A string is decoded if each of its characters is written so that it stands for itself. -/
theorem decodeEntities_expand {written : Char → List Char}
    (undone : ∀ c rest, decodeEntities (written c ++ rest) = c :: decodeEntities rest)
    (value : String) : decodeEntities (Text.expand written value).toList = value.toList := by
  rw [Text.toList_expand]
  induction value.toList with
  | nil => rfl
  | cons c cs ih => rw [List.flatMap_cons, undone, ih]

/-- Escaping an attribute is undone by decoding its entities. -/
theorem decodeEntities_escapeAttribute (value : String) :
    decodeEntities (escapeAttribute value).toList = value.toList :=
  decodeEntities_expand decodeEntities_attributeChar value

/-- Escaping a text is undone by decoding its entities. -/
theorem decodeEntities_escapeText (value : String) :
    decodeEntities (escapeText value).toList = value.toList :=
  decodeEntities_expand decodeEntities_textChar value

/-- Only one layer of entities is decoded. -/
example : decodeEntities "a &amp;lt; b".toList = "a &lt; b".toList := rfl

/-- No character of an attribute is written with one that would end a value or start a tag. -/
theorem not_mem_attributeChar {special : Char} (listed : special ∈ ['"', '<', '>']) (c : Char) :
    special ∉ attributeChar c := by
  simp only [List.mem_cons, List.not_mem_nil, or_false] at listed
  fun_cases attributeChar c with
  | case5 _ _ quote less greater =>
      rw [List.mem_singleton]
      rintro rfl
      exact listed.elim quote fun angle => angle.elim less greater
  | _ => rcases listed with rfl | rfl | rfl <;> decide

theorem not_mem_escapeAttribute {special : Char} (listed : special ∈ ['"', '<', '>'])
    (value : String) : special ∉ (escapeAttribute value).toList := by
  rw [escapeAttribute, Text.toList_expand, List.mem_flatMap]
  rintro ⟨c, -, written⟩
  exact not_mem_attributeChar listed c written

/-- No character of a text is written with one that would start or end a tag. -/
theorem not_mem_textChar {special : Char} (listed : special ∈ ['<', '>']) (c : Char) :
    special ∉ textChar c := by
  simp only [List.mem_cons, List.not_mem_nil, or_false] at listed
  fun_cases textChar c with
  | case4 _ _ less greater =>
      rw [List.mem_singleton]
      rintro rfl
      exact listed.elim less greater
  | _ => rcases listed with rfl | rfl <;> decide

theorem not_mem_escapeText {special : Char} (listed : special ∈ ['<', '>'])
    (value : String) : special ∉ (escapeText value).toList := by
  rw [escapeText, Text.toList_expand, List.mem_flatMap]
  rintro ⟨c, -, written⟩
  exact not_mem_textChar listed c written

/-- A value without special characters is written as it is. -/
theorem escapeAttribute_of_plain {value : String}
    (plain : ∀ c ∈ value.toList, attributeChar c = [c]) : escapeAttribute value = value :=
  Text.expand_eq_self plain

theorem attributeChar_of_isDigit {c : Char} (digit : c.isDigit = true) :
    attributeChar c = [c] := by
  fun_cases attributeChar c with
  | case5 => rfl
  | _ => exact absurd digit (by decide)

/-! ## Tags -/

/-- Reads a value up to the next quote and decodes its entities. -/
def value? (cs : List Char) : Option (List Char × List Char) :=
  match Text.splitFirst? '"' cs with
  | some (written, rest) => some (decodeEntities written, rest)
  | none => none

/-- Opening tags of HTML. -/
def form : TagForm where
  start := "<"
  stops := [">", "/>"]
  value? := value?

theorem value?_escapeAttribute (value : String) (rest : List Char) :
    value? ((escapeAttribute value).toList ++ '"' :: rest) = some (value.toList, rest) := by
  rw [value?, Text.splitFirst?_append (not_mem_escapeAttribute (by decide) value)]
  simp only [decodeEntities_escapeAttribute]

/-- The reader of tags undoes the escape of attributes, whether a tag closes itself or not. -/
theorem form_undoes {stop : String} (listed : stop ∈ form.stops) :
    form.Undoes escapeAttribute stop where
  value value rest := by
    simp only [form, value?_escapeAttribute]
  stopped rest := by
    rcases List.mem_pair.mp listed with rfl | rfl <;>
      simp [TagForm.stop?, form, Text.dropFront?]
  ends := by
    rcases List.mem_pair.mp listed with rfl | rfl
    · exact ⟨'>', [], rfl, by decide⟩
    · exact ⟨'/', ['>'], rfl, by decide⟩
  apart name rest _ := by
    simp [TagForm.stop?, form, Text.dropFront?]

def plainTag (name : String) : Tag := ⟨name, []⟩

theorem readAll_cons_of_ne {c : Char} (apart : '<' ≠ c) (rest : List Char) :
    form.readAll (c :: rest) = form.readAll rest := by
  have absent : '<' ∉ [c] := by simpa using apart
  exact TagForm.readAll_append_of_not_mem rfl absent rest

/-- An opening tag without attributes is read. -/
theorem readAll_plainTag (name : String) (named : isName name = true)
    (rest : List Char) :
    form.readAll ('<' :: (name.toList ++ '>' :: rest)) = plainTag name :: form.readAll rest := by
  have undoes : form.Undoes escapeAttribute ">" := form_undoes (by decide)
  have plain : (plainTag name).Named := ⟨named, fun pair member => nomatch member⟩
  have read := undoes.readAll_text plain rest
  simpa [Tag.text, plainTag, form] using read

/-- A closing tag is passed over. -/
theorem readAll_closing {c : Char} (more : '>' ≠ c) (rest : List Char) :
    form.readAll ('<' :: '/' :: c :: rest) = form.readAll (c :: rest) := by
  have unstopped : form.stop? ('/' :: c :: rest) = none := by
    simp [TagForm.stop?, form, Text.dropFront?, more]
  have unread : form.read? ('<' :: '/' :: c :: rest) = none := TagForm.read?_slash unstopped
  rw [TagForm.readAll_cons_of_none unread, readAll_cons_of_ne (by decide)]

end Html
end Cards
end BlogMigration
