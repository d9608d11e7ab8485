import BlogMigration.Cards.Shortcode
import BlogMigration.Proofs.Cards.Tags
import BlogMigration.Render.Error

/-!
# Tags of shortcodes

The reader of shortcodes knows opening tags. In a value a backslash stands for the character after
it, and the first quote that no backslash stands before ends the value.
-/

namespace BlogMigration
namespace Cards
namespace Shortcode

/-- Values are escaped by doubling their backslashes before the quotes get theirs. -/
theorem escapeParameter_eq_expand (value : String) :
    escapeParameter value =
      Text.expand (Text.swap '"' ['\\', '"']) (Text.expand (Text.swap '\\' ['\\', '\\']) value) := by
  rw [Text.expand_expand, escapeParameter]
  congr 1
  funext c
  fun_cases parameterChar c with
  | case3 c backslash quote => simp [Text.swap_of_ne backslash, Text.swap_of_ne quote]
  | _ => rfl

def value? : List Char → Option (List Char × List Char)
  | [] => none
  | '"' :: rest => some ([], rest)
  | ['\\'] => none
  | '\\' :: c :: rest => (value? rest).map fun (value, rest) => (c :: value, rest)
  | c :: rest => (value? rest).map fun (value, rest) => (c :: value, rest)

theorem value?_cons {c : Char} (quote : c ≠ '"') (backslash : c ≠ '\\') (rest : List Char) :
    value? (c :: rest) = (value? rest).map fun (value, rest) => (c :: value, rest) := by
  rw [value?.eq_def]
  split <;> simp_all

/-- A character written for a parameter stands for itself. -/
theorem value?_parameterChar (c : Char) (rest : List Char) :
    value? (parameterChar c ++ rest) =
      (value? rest).map fun (value, rest) => (c :: value, rest) := by
  fun_cases parameterChar c with
  | case3 _ backslash quote => exact value?_cons quote backslash rest
  | _ => rfl

theorem value?_escapeParameter (value : String) (rest : List Char) :
    value? ((escapeParameter value).toList ++ '"' :: rest) = some (value.toList, rest) := by
  rw [escapeParameter, Text.toList_expand]
  induction value.toList with
  | nil => rfl
  | cons c cs ih =>
      rw [List.flatMap_cons, List.append_assoc, value?_parameterChar, ih, Option.map_some]

/-- A quote in a value does not end it, and neither does the end of a tag. -/
example : value? "a\\\" >\x7d\x7d\" b".toList = some ("a\" >\x7d\x7d".toList, " b".toList) := rfl

def form : TagForm where
  start := "\x7b\x7b< "
  stops := [" >\x7d\x7d"]
  value? := value?

theorem form_undoes : form.Undoes escapeParameter " >\x7d\x7d" where
  value value rest := by
    simp only [form, value?_escapeParameter]
  stopped rest := rfl
  ends := ⟨' ', ['>', '\x7d', '\x7d'], rfl, by decide⟩
  apart name rest named := by
    have plain := List.all_eq_true.mp named
    cases first : name.toList with
    | nil => rfl
    | cons c cs =>
        have other : '>' ≠ c := by
          rintro rfl
          rw [first] at plain
          exact absurd (plain '>' List.mem_cons_self) (by decide)
        simp [TagForm.stop?, form, Text.dropFront?, other]

def tag (code : Shortcode) : Tag := ⟨code.name, code.parameters⟩

theorem openingTag_eq_text (code : Shortcode) :
    code.openingTag = code.tag.text form.start " >\x7d\x7d" escapeParameter :=
  rfl

/-- The opening tag of a shortcode is read back. -/
theorem readAll_openingTag {code : Shortcode} (named : code.tag.Named) (rest : List Char) :
    form.readAll (code.openingTag.toList ++ rest) = code.tag :: form.readAll rest := by
  rw [openingTag_eq_text]
  exact form_undoes.readAll_text named rest

/-- A parameter is added if it has a value that is not empty. -/
theorem optionalParam_eq (name : String) (value : Option String) (code : Shortcode) :
    code.optionalParam name value =
      { code with parameters := code.parameters ++ attributeOf name (Render.nonEmpty value) } := by
  cases value with
  | none => simp [optionalParam, attributeOf]
  | some value =>
      by_cases empty : value.isEmpty <;>
        simp [optionalParam, param, attributeOf, Render.nonEmpty, empty, Option.filter_some]

/-! ## Tags under construction -/

/-- A parameter added to a shortcode: always, or only with a value that is not empty. -/
inductive Addition where
  | param (name value : String)
  | optionalParam (name : String) (value : Option String)
  deriving DecidableEq, Repr

namespace Addition

def name : Addition → String
  | .param name _ => name
  | .optionalParam name _ => name

def addTo (code : Shortcode) : Addition → Shortcode
  | .param name value => code.param name value
  | .optionalParam name value => code.optionalParam name value

/-- The name and the value that are added, if any are. -/
def pair? : Addition → Option (String × String)
  | .param name value => some (name, value)
  | .optionalParam _ none => none
  | .optionalParam name (some value) => if value = "" then none else some (name, value)

theorem addTo_eq (code : Shortcode) (addition : Addition) :
    addition.addTo code =
      { code with parameters := code.parameters ++ addition.pair?.toList } := by
  cases addition with
  | param name value => rfl
  | optionalParam name value =>
      rw [addTo, optionalParam_eq]
      cases value with
      | none => rfl
      | some value =>
          by_cases empty : value = "" <;> simp [attributeOf, Render.nonEmpty, pair?, empty]

theorem name_of_pair? {addition : Addition} {pair : String × String}
    (added : addition.pair? = some pair) : pair.1 = addition.name := by
  revert added
  fun_cases pair? addition with
  | case1 => rintro ⟨⟩; rfl
  | case2 => rintro ⟨⟩
  | case3 => rintro ⟨⟩
  | case4 => rintro ⟨⟩; rfl

end Addition

/-- The shortcode of a name after a sequence of additions. -/
def built (name : String) (additions : List Addition) : Shortcode :=
  additions.foldl Addition.addTo (named name)

theorem foldl_addTo (additions : List Addition) (code : Shortcode) :
    additions.foldl Addition.addTo code =
      { code with parameters := code.parameters ++ additions.filterMap Addition.pair? } := by
  induction additions generalizing code with
  | nil => simp
  | cons addition later ih =>
      rw [List.foldl_cons, ih, Addition.addTo_eq]
      cases added : addition.pair? with
      | none => simp [List.filterMap_cons_none added]
      | some pair => simp [List.filterMap_cons_some added]

theorem built_tag (name : String) (additions : List Addition) :
    (built name additions).tag = ⟨name, additions.filterMap Addition.pair?⟩ := by
  rw [built, foldl_addTo]
  rfl

/-- The opening tag of a built shortcode is read back completely, to its name and to the added
parameters in order, whatever their values are. The parameters left out are the optional ones
without a value or with an empty one. -/
theorem read?_built {name : String} {additions : List Addition} (plain : isName name = true)
    (names : ∀ addition ∈ additions, isName addition.name = true) :
    form.read? (built name additions).openingTag.toList =
      some (⟨name, additions.filterMap Addition.pair?⟩, []) := by
  have written : (built name additions).tag.Named := by
    rw [built_tag]
    refine ⟨plain, fun pair member => ?_⟩
    obtain ⟨addition, listed, added⟩ := List.mem_filterMap.mp member
    rw [Addition.name_of_pair? added]
    exact names addition listed
  have read := form_undoes.read?_text written []
  rw [List.append_nil, ← openingTag_eq_text, built_tag] at read
  exact read

/-- Letters of any script, digits, hyphens and underscores make names. -/
example : isName "größe-2_x" = true := by decide

/-- Values that look like the end of a value or of a tag, and two that are left out. -/
def imitations : List Addition :=
  [.param "src" "\\\" >\x7d\x7d", .optionalParam "alt" (some ""), .optionalParam "title" none,
    .optionalParam "caption" (some "a\nb\\")]

theorem read?_built_imitations :
    (∀ addition ∈ imitations, isName addition.name = true) ∧
    form.read? (built "figure" imitations).openingTag.toList =
      some (⟨"figure", [("src", "\\\" >\x7d\x7d"), ("caption", "a\nb\\")]⟩, []) := by
  have names : ∀ addition ∈ imitations, isName addition.name = true := by
    simp only [imitations, List.forall_mem_cons]
    decide
  exact ⟨names, read?_built (by decide) names⟩

theorem readAll_feed (rest : List Char) :
    form.readAll ("\n".toList ++ rest) = form.readAll rest :=
  TagForm.readAll_append_of_not_mem rfl (by decide) rest

end Shortcode
end Cards
end BlogMigration
