import BlogMigration.Posts.ContentFile
import BlogMigration.Proofs.FrontMatter.Toml
import BlogMigration.Proofs.FrontMatter.Yaml

/-!
# Front matter of posts

The content file of a post is read back, front matter and body, unless one of its strings tears the
front matter: in TOML one that holds the delimiter as a line, in YAML a last one that leaves its
line open. Nothing else about a post, a catalog or a normalizer matters.
-/

namespace BlogMigration
namespace FrontMatter

open Text (HoldsLine)

/-- The strings of the fields do not leave the end of the front matter where it was written. -/
def Torn (format : Format) (fields : List Field) : Prop :=
  match format with
  | .toml => ∃ entry ∈ fields, ∃ s ∈ entry.2.strings, HoldsLine format.mark s.toList
  | .yaml => ∃ s, Yaml.lastString? fields = some s ∧ Yaml.Unended s.toList

/-- A page of fields with proper keys is read back exactly when no string tears its front matter. -/
theorem read?_page_iff_not_torn {format : Format} {fields : List Field}
    (keys : ∀ entry ∈ fields, IsKey entry.1) (body : String) :
    read? format (page format fields body) =
        some (String.ofList (fieldsText format fields), "\n" ++ body) ↔
      ¬ Torn format fields := by
  rw [read?_page_iff]
  cases format with
  | toml =>
      rw [and_iff_right (Toml.isWhole_fieldsText fields)]
      exact not_congr (Toml.holdsLine_fieldsText_iff keys)
  | yaml =>
      rw [and_iff_left (Yaml.clear_fieldsText keys).not_holdsLine]
      exact Yaml.isWhole_fieldsText_iff fields

end FrontMatter

namespace Posts
namespace Post

open FrontMatter (Field Format IsKey)

theorem isKey_of_mem_textField {key : String} (isKey : IsKey key) {value : Option String}
    {entry : Field} (member : entry ∈ textField key value) : IsKey entry.1 := by
  cases value with
  | none => cases member
  | some value =>
      rw [List.mem_singleton.mp member]
      exact isKey

theorem isKey_of_mem_listField {key : String} (isKey : IsKey key) {values : List String}
    {entry : Field} (member : entry ∈ listField key values) : IsKey entry.1 := by
  unfold listField at member
  split at member
  · cases member
  · rw [List.mem_singleton.mp member]
    exact isKey

theorem isKey_of_mem_frontMatter {normalize : Images.Normalizer} {post : Post} {entry : Field}
    (member : entry ∈ post.frontMatter normalize) : IsKey entry.1 := by
  simp only [frontMatter, List.mem_append] at member
  rcases member with ((((((date | always) | description) | image) | tags) | categories) | author) |
    summary
  · exact isKey_of_mem_textField (by decide) date
  · have each : ∀ key ∈ ["title", "draft", "slug"], IsKey key := by decide
    refine each entry.1 ?_
    simp only [List.mem_cons, List.not_mem_nil, or_false] at always
    rcases always with rfl | rfl | rfl <;> simp
  · exact isKey_of_mem_textField (by decide) description
  · exact isKey_of_mem_textField (by decide) image
  · exact isKey_of_mem_listField (by decide) tags
  · exact isKey_of_mem_listField (by decide) categories
  · exact isKey_of_mem_textField (by decide) author
  · exact isKey_of_mem_textField (by decide) summary

/-- The content of a post starts with the delimiter and is cut at the closing one, behind which an
empty line and the rendered body stand, exactly when no string of the post tears the front
matter. -/
theorem read?_content_iff (format : Format) (catalog : Render.Catalog)
    (normalize : Images.Normalizer) (post : Post) :
    FrontMatter.read? format (post.content format catalog normalize) =
        some (String.ofList (FrontMatter.fieldsText format (post.frontMatter normalize)),
          "\n" ++ post.body.render catalog) ↔
      ¬ FrontMatter.Torn format (post.frontMatter normalize) :=
  FrontMatter.read?_page_iff_not_torn (fun _ => isKey_of_mem_frontMatter) _

/-- A post whose title has the delimiter of TOML as its second line. -/
def splitTitle : Post where
  id := none
  title := "a\n+++\nb"
  slug := "s"
  body := .plain ""
  date := none
  isDraft := false
  isPage := false
  description := none
  image := none
  author := none
  tags := []
  summary := none

/-- The front matter of the post is cut within its title, and all else is taken for its body. -/
theorem splitTitle_cuts_content :
    splitTitle.content .toml .empty Images.identity =
        "+++\ntitle = \"\"\"\na\n+++\nb\"\"\"\ndraft = false\nslug = \"s\"\n+++\n\n" ∧
      FrontMatter.read? .toml (splitTitle.content .toml .empty Images.identity) =
        some ("title = \"\"\"\na\n", "b\"\"\"\ndraft = false\nslug = \"s\"\n+++\n\n") := by
  decide

end Post
end Posts
end BlogMigration
