import BlogMigration.Proofs.Export.Authors
import BlogMigration.Proofs.Export.Tags
import BlogMigration.Proofs.Images.Spellings
import BlogMigration.Proofs.Posts.FrontMatter

/-!
# Values of front matter

The post of a row has no empty texts and no empty names, so its front matter shows no empty values,
but for the path of the image, which is normalized only when the front matter is written. Of a few
paths the normalizer of a blog leaves nothing, and these are written as an empty text.
-/

namespace BlogMigration
namespace Images

/-- What is left of a path without the placeholder, where the address and the folder of the files
leave nothing of it. -/
inductive Hollow (address : Option String) : String → Prop where
  | empty : Hollow address ""
  | folder : Hollow address contentFolder
  | addressed {known : String} (given : blogAddress? address = some known) :
      Hollow address (known ++ contentFolder)

/-- A path of which nothing is left, with the placeholder or without it. -/
inductive Vanishes (address : Option String) : String → Prop where
  | marked {rest : String} (hollow : Hollow address rest) :
      Vanishes address (addressPlaceholder ++ rest)
  | bare {path : String} (unmarked : ¬ Begins addressPlaceholder path)
      (hollow : Hollow address path) : Vanishes address path

/-! ## Paths of which nothing is left -/

theorem stripFront_eq_iff {front path left : String} :
    stripFront front path = left ↔
      path = front ++ left ∨ ¬ Begins front path ∧ path = left := by
  rcases stripFront_cases front path with ⟨rest, rfl, stripped⟩ | ⟨other, kept⟩
  · have begins : Begins front (front ++ rest) := begins_append front rest
    rw [stripped]
    simp [begins]
  · have apart : ¬ Begins front path := fun ⟨rest, same⟩ => other rest same
    rw [kept]
    simp [apart, other]

theorem stripContent_eq_empty_iff {path : String} :
    stripContent path = "" ↔ path = "" ∨ path = contentFolder := by
  have apart : ¬ Begins contentFolder "" := by decide
  rw [stripContent, stripFront_eq_iff, String.append_empty]
  constructor
  · rintro (folder | ⟨-, empty⟩)
    · exact .inr folder
    · exact .inl empty
  · rintro (rfl | folder)
    · exact .inr ⟨apart, rfl⟩
    · exact .inl folder

theorem stripAddress_eq_iff {known path left : String} :
    stripAddress known path = left ↔
      (path = known ++ left ∧ IsRooted left) ∨ ¬ Begins (known ++ "/") path ∧ path = left := by
  by_cases begins : Begins (known ++ "/") path
  · obtain ⟨tail, rfl⟩ := begins
    have rooted : IsRooted ("/" ++ tail) := isRooted_slash_append tail
    have begins : Begins (known ++ "/") (known ++ "/" ++ tail) := begins_append _ tail
    rw [String.append_assoc] at begins ⊢
    rw [stripAddress_append known rooted]
    constructor
    · rintro rfl
      exact .inl ⟨rfl, rooted⟩
    · rintro (⟨same, -⟩ | ⟨apart, -⟩)
      · simpa [← String.toList_inj] using same
      · exact absurd begins apart
  · rw [stripAddress_of_not_begins begins]
    constructor
    · exact fun same => .inr ⟨begins, same⟩
    · rintro (⟨rfl, rooted⟩ | ⟨-, same⟩)
      · obtain ⟨tail, slashed⟩ := List.head?_eq_some_iff.mp rooted
        refine absurd ⟨String.ofList tail, ?_⟩ begins
        rw [← String.toList_inj]
        simp [slashed]
      · exact same

/-- The folder of the files has one slash, at its start, which no address leaves to it. -/
theorem not_begins_contentFolder {known : String} (filled : known ≠ "") :
    ¬ Begins (known ++ "/") contentFolder := by
  rintro ⟨rest, same⟩
  have chars : known.toList ++ '/' :: rest.toList = contentFolder.toList := by
    simp [same]
  cases first : known.toList with
  | nil => exact filled (String.toList_eq_nil_iff.mp first)
  | cons c tail =>
      rw [first] at chars
      have inName : '/' ∈ contentFolder.toList.tail := by
        rw [← chars]
        simp
      exact absurd inName (by decide)

theorem blogAddress?_filled {address : Option String} {known : String}
    (given : blogAddress? address = some known) : known ≠ "" := by
  have filled := (Option.filter_eq_some_iff.mp given).2
  simpa using filled

/-- The path behind the placeholder, without the address that may be known. -/
def withoutAddress (address : Option String) (path : String) : String :=
  match blogAddress? address with
  | some known => stripAddress known path
  | none => path

theorem blogPaths_eq (address : Option String) (path : String) :
    blogPaths address path =
      stripContent (withoutAddress address (stripFront addressPlaceholder path)) :=
  rfl

theorem stripContent_withoutAddress_eq_empty_iff {address : Option String} {path : String} :
    stripContent (withoutAddress address path) = "" ↔ Hollow address path := by
  rw [stripContent_eq_empty_iff, withoutAddress]
  cases given : blogAddress? address with
  | none =>
      constructor
      · rintro (rfl | rfl)
        · exact .empty
        · exact .folder
      · intro hollow
        cases hollow with
        | empty => exact .inl rfl
        | folder => exact .inr rfl
        | addressed other => exact absurd (given.symm.trans other) nofun
  | some known =>
      have filled : known ≠ "" := blogAddress?_filled given
      simp only [stripAddress_eq_iff]
      constructor
      · rintro ((⟨-, rooted⟩ | ⟨-, rfl⟩) | (⟨rfl, -⟩ | ⟨-, rfl⟩))
        · exact absurd rooted (by decide)
        · exact .empty
        · exact .addressed given
        · exact .folder
      · intro hollow
        cases hollow with
        | empty =>
            refine .inl (.inr ⟨fun begins => ?_, rfl⟩)
            have first := head?_of_begins (by simp) begins
            simp at first
        | folder => exact .inr (.inr ⟨not_begins_contentFolder filled, rfl⟩)
        | addressed other =>
            cases given.symm.trans other
            exact .inr (.inl ⟨rfl, by decide⟩)

theorem blogPaths_eq_empty_iff {address : Option String} {path : String} :
    blogPaths address path = "" ↔ Vanishes address path := by
  rw [blogPaths_eq, stripContent_withoutAddress_eq_empty_iff]
  constructor
  · intro hollow
    rcases stripFront_eq_iff.mp (Eq.refl (stripFront addressPlaceholder path)) with
      marked | ⟨unmarked, same⟩
    · rw [marked]
      exact .marked hollow
    · rw [← same] at hollow
      exact .bare unmarked hollow
  · intro vanishes
    cases vanishes with
    | marked hollow => rwa [stripFront_append]
    | bare unmarked hollow => rwa [stripFront_of_not_begins unmarked]

end Images

namespace Posts
namespace Post

open Export (Data PostRow)
open FrontMatter (Field Format)

/-- A field as front matter may have it: a date that was read, an optional text or an optional list
of texts that are not empty, or one of the fields that are always there. -/
inductive IsFilled (dated : Option Time.Timestamp) : Field → Prop where
  | date {time : Time.Timestamp} (read : dated = some time) :
      IsFilled dated ("date", .text time.text)
  | text {key value : String} (optional : key ∈ ["description", "image", "author", "summary"])
      (filled : value ≠ "") : IsFilled dated (key, .text value)
  | texts {key : String} {values : List String} (optional : key ∈ ["tags", "categories"])
      (some : values ≠ []) (filled : ∀ value ∈ values, value ≠ "") :
      IsFilled dated (key, .texts values)
  | always {entry : Field} (required : entry.1 ∈ ["title", "draft", "slug"]) :
      IsFilled dated entry

/-- A post without empty texts, but for its title, its slug and its body. -/
structure HasNoEmptyTexts (post : Post) : Prop where
  description : post.description ≠ some ""
  image : post.image ≠ some ""
  author : post.author ≠ some ""
  summary : post.summary ≠ some ""
  tags : ∀ name ∈ post.tags, name ≠ ""

/-! ## The post of a row -/

theorem author?_ne_empty (data : Data) (row : PostRow) : Export.author? data row ≠ some "" := by
  intro empty
  have names := Export.namesAuthor_author? data row
  generalize Export.author? data row = result at names empty
  cases names with
  | named author first filled => exact filled (Option.some.inj empty)
  | _ => cases empty

/-- Whatever the tables of an export hold, the post of a row has no empty texts. -/
theorem ofRow_hasNoEmptyTexts (data : Data) (reader : Time.Reader) (row : PostRow) :
    HasNoEmptyTexts (ofRow data reader row) where
  description := Render.nonEmpty_ne_empty row.metaDescription
  image := by
    intro empty
    rcases Option.or_eq_some_iff.mp empty with first | ⟨-, second⟩
    · exact Render.nonEmpty_ne_empty row.image first
    · exact Render.nonEmpty_ne_empty row.featureImage second
  author := author?_ne_empty data row
  summary := Render.nonEmpty_ne_empty row.customExcerpt
  tags := by
    intro name member
    obtain ⟨tagged, gives⟩ := Export.exists_namesTag_of_mem member
    cases gives with
    | intro marks first marked unmarked filled => exact filled

/-! ## The front matter of a post -/

theorem mem_textField_iff {key : String} {value : Option String} {entry : Field} :
    entry ∈ textField key value ↔ ∃ s, value = some s ∧ entry = (key, .text s) := by
  cases value <;> simp [textField]

theorem mem_listField_iff {key : String} {values : List String} {entry : Field} :
    entry ∈ listField key values ↔ values ≠ [] ∧ entry = (key, .texts values) := by
  unfold listField
  split
  · next none => simp [List.isEmpty_iff.mp none]
  · next some => simp [List.isEmpty_iff] at some; simp [some]

variable {post : Post}

/-- All fields but the image are filled, and the image is if something is left of its path. -/
theorem HasNoEmptyTexts.isFilled (filled : HasNoEmptyTexts post) {normalize : Images.Normalizer}
    {entry : Field} (member : entry ∈ post.frontMatter normalize)
    (image : entry.1 = "image" → ∀ path, post.image = some path → normalize path ≠ "") :
    IsFilled post.date entry := by
  simp only [frontMatter, List.mem_append, mem_textField_iff, mem_listField_iff,
    Option.map_eq_some_iff] at member
  rcases member with (((((((⟨_, ⟨time, read, rfl⟩, rfl⟩) | required) | ⟨s, given, rfl⟩) |
    ⟨_, ⟨path, given, rfl⟩, rfl⟩) | ⟨some, rfl⟩) | ⟨some, rfl⟩) | ⟨s, given, rfl⟩) | ⟨s, given, rfl⟩
  · exact .date read
  · refine .always ?_
    simp only [List.mem_cons, List.not_mem_nil, or_false] at required
    rcases required with rfl | rfl | rfl <;> simp
  · exact .text (by simp) fun empty => filled.description (empty ▸ given)
  · exact .text (by simp) (image rfl path given)
  · exact .texts (by simp) some filled.tags
  · exact .texts (by simp) some filled.tags
  · exact .text (by simp) fun empty => filled.author (empty ▸ given)
  · exact .text (by simp) fun empty => filled.summary (empty ▸ given)

theorem image_mem_frontMatter {normalize : Images.Normalizer} {path : String}
    (given : post.image = some path) :
    ("image", .text (normalize path)) ∈ post.frontMatter normalize := by
  simp [frontMatter, textField, given]

/-- An image is a filled field if its text is not empty. -/
theorem isFilled_image_iff {dated : Option Time.Timestamp} {value : String} :
    IsFilled dated ("image", .text value) ↔ value ≠ "" := by
  constructor
  · intro filled
    generalize shape : (("image", .text value) : Field) = entry at filled
    obtain ⟨key, text⟩ := Prod.mk.injEq .. ▸ shape
    cases filled with
    | date _ =>
        have other : "image" ≠ "date" := by decide
        exact absurd key other
    | text _ filled => exact FrontMatter.Value.text.inj text ▸ filled
    | texts _ _ _ => cases text
    | always required => exact absurd (key ▸ required) (by decide)
  · exact .text (by simp)

/--
Whatever a row and an export hold, the content of the post shows no optional value that is empty,
and a date only if one was read, but for the image. With the image this holds exactly when no path
is given of which the normalizer of the blog leaves nothing: the path counts as given before it is
normalized, and what is left of it is written even if that is nothing.
-/
theorem content_isFilled_iff (format : Format) (catalog : Render.Catalog) (data : Data)
    (reader : Time.Reader) (row : PostRow) (address : Option String) :
    let post := ofRow data reader row
    let normalize := Images.blogPaths address
    let fields := post.frontMatter normalize
    let dated := reader.read? (if isDraftRow row then row.createdAt else row.publishedAt)
    post.content format catalog normalize =
        FrontMatter.page format fields (post.body.render catalog) ∧
      (∀ entry ∈ fields, entry.1 ≠ "image" → IsFilled dated entry) ∧
      ((∀ entry ∈ fields, IsFilled dated entry) ↔
        ∀ path, post.image = some path → ¬ Images.Vanishes address path) := by
  intro post normalize fields dated
  have resolved : HasNoEmptyTexts post := ofRow_hasNoEmptyTexts data reader row
  refine ⟨rfl, fun entry member other => ?_, ?_⟩
  · exact resolved.isFilled member fun same => absurd same other
  · simp only [← Images.blogPaths_eq_empty_iff]
    constructor
    · intro each path given
      exact isFilled_image_iff.mp (each _ (image_mem_frontMatter given))
    · intro left entry member
      exact resolved.isFilled member fun _ => left

def pictured (path : String) : PostRow where
  id := none
  title := "t"
  slug := "s"
  markdown := none
  mobiledoc := none
  plaintext := none
  image := none
  featureImage := some path
  kind := none
  page := .null
  status := none
  metaDescription := none
  customExcerpt := none
  authorId := none
  publishedAt := .null
  createdAt := .null

def noTables : Data := ⟨[], [], [], [], [], []⟩

theorem content_isFilled_iff_cover :
    let reader : Time.Reader := ⟨.utc, none⟩
    let fields := (ofRow noTables reader (pictured Images.coverPath)).frontMatter
      (Images.blogPaths none)
    ("image", .text "/images/a.jpg") ∈ fields ∧
      ∀ entry ∈ fields, IsFilled (reader.read? .null) entry := by
  intro reader fields
  obtain ⟨-, -, filled⟩ := content_isFilled_iff .toml .empty noTables reader
    (pictured Images.coverPath) none
  refine ⟨by decide, filled.mpr fun path given => ?_⟩
  have same : path = Images.coverPath := (Option.some.inj given).symm
  rw [same, ← Images.blogPaths_eq_empty_iff]
  decide

/-- An image of which nothing is left is written as an empty text. -/
theorem pictured_contentFolder_shows_empty_image :
    let reader : Time.Reader := ⟨.utc, none⟩
    let post := ofRow noTables reader (pictured Images.contentFolder)
    let normalize := Images.blogPaths none
    post.content .toml .empty normalize =
        "+++\ntitle = \"t\"\ndraft = false\nslug = \"s\"\nimage = \"\"\n+++\n\n" ∧
      ¬ ∀ entry ∈ post.frontMatter normalize, IsFilled (reader.read? .null) entry := by
  intro reader post normalize
  refine ⟨by decide, fun each => ?_⟩
  have member : ("image", .text "") ∈ post.frontMatter normalize := by decide
  exact isFilled_image_iff.mp (each _ member) rfl

end Post
end Posts
end BlogMigration
