import BlogMigration.Export.Tables
import BlogMigration.Failure
import BlogMigration.Json.Record

/-!
# Reading exports

An export is a JSON value, either bare or as the first entry of a list under `db`. Every part of it
is a record, in which most fields have a default.
-/

namespace BlogMigration
namespace Export

open Json (Record)
open Json.Record (required? orElse? nullable?)

def rows? {α : Type} (read : Json → Option α) (value : Json) : Option (List α) :=
  value.array?.bind fun items => items.mapM read

/-- A string field with the empty string as its default. -/
def string? : Option Json → Option String :=
  orElse? "" Json.string?

/-- A field of any type, null by default. -/
def anything (field : Option Json) : Json :=
  field.getD .null

def Id.decode? : Json → Option Id
  | .string value => some (.text value)
  | value => value.signed?.map .number

def User.decode? (value : Json) : Option User := do
  match ← Record.ofJson? ["id", "name"] value with
  | [id, name] => return ⟨← required? Id.decode? id, ← string? name⟩
  | _ => none

def Tag.decode? (value : Json) : Option Tag := do
  match ← Record.ofJson? ["id", "name"] value with
  | [id, name] => return ⟨← required? Id.decode? id, ← string? name⟩
  | _ => none

def PostTag.decode? (value : Json) : Option PostTag := do
  match ← Record.ofJson? ["post_id", "tag_id", "sort_order"] value with
  | [postId, tagId, sortOrder] =>
    return ⟨← required? Id.decode? postId, ← required? Id.decode? tagId,
      ← orElse? 0 Json.signed? sortOrder⟩
  | _ => none

def PostAuthor.decode? (value : Json) : Option PostAuthor := do
  match ← Record.ofJson? ["post_id", "author_id", "sort_order"] value with
  | [postId, authorId, sortOrder] =>
    return ⟨← required? Id.decode? postId, ← required? Id.decode? authorId,
      ← orElse? 0 Json.signed? sortOrder⟩
  | _ => none

def Setting.decode? (value : Json) : Option Setting := do
  match ← Record.ofJson? ["key", "value"] value with
  | [key, value] => return ⟨← required? Json.string? key, anything value⟩
  | _ => none

/-- The fields of a post in the order in which an array lists them. -/
def PostRow.fieldNames : List String :=
  ["id", "title", "slug", "markdown", "mobiledoc", "plaintext", "image", "feature_image", "type",
    "page", "status", "meta_description", "custom_excerpt", "author_id", "published_at",
    "created_at"]

/-- A post needs no field at all. -/
def PostRow.decode? (value : Json) : Option PostRow := do
  match ← Record.ofJson? PostRow.fieldNames value with
  | [id, title, slug, markdown, mobiledoc, plaintext, image, featureImage, kind, page, status,
      metaDescription, customExcerpt, authorId, publishedAt, createdAt] =>
    return {
      id := ← nullable? Id.decode? id
      title := ← string? title
      slug := ← string? slug
      markdown := ← nullable? Json.string? markdown
      mobiledoc := ← nullable? Json.string? mobiledoc
      plaintext := ← nullable? Json.string? plaintext
      image := ← nullable? Json.string? image
      featureImage := ← nullable? Json.string? featureImage
      kind := ← nullable? Json.string? kind
      page := anything page
      status := ← nullable? Json.string? status
      metaDescription := ← nullable? Json.string? metaDescription
      customExcerpt := ← nullable? Json.string? customExcerpt
      authorId := ← nullable? Id.decode? authorId
      publishedAt := anything publishedAt
      createdAt := anything createdAt }
  | _ => none

def Data.empty : Data := ⟨[], [], [], [], [], []⟩

/-- A table that is absent has no rows. -/
def Data.decode? (value : Json) : Option Data := do
  match ← Record.ofJson?
      ["posts", "users", "tags", "posts_tags", "posts_authors", "settings"] value with
  | [posts, users, tags, postTags, postAuthors, settings] =>
    return {
      posts := ← orElse? [] (rows? PostRow.decode?) posts
      users := ← orElse? [] (rows? User.decode?) users
      tags := ← orElse? [] (rows? Tag.decode?) tags
      postTags := ← orElse? [] (rows? PostTag.decode?) postTags
      postAuthors := ← orElse? [] (rows? PostAuthor.decode?) postAuthors
      settings := ← orElse? [] (rows? Setting.decode?) settings }
  | _ => none

def Origin.decode? (value : Json) : Option Origin := do
  match ← Record.ofJson? ["exported_on", "version"] value with
  | [exportedOn, version] =>
    return ⟨← nullable? Json.signed? exportedOn, ← nullable? Json.string? version⟩
  | _ => none

def decodeEntry? (value : Json) : Option Export := do
  match ← Record.ofJson? ["meta", "data"] value with
  | [origin, data] =>
    return ⟨← orElse? ⟨none, none⟩ Origin.decode? origin, ← orElse? Data.empty Data.decode? data⟩
  | _ => none

/-- The export that a value holds, bare or as the first entry under `db`. -/
def ofJson (value : Json) : Except Failure Export := do
  let entry ← match value.field? "db" with
    | some (.array (first :: _)) => .ok first
    | some (.array []) => .error .emptyExport
    | _ => .ok value
  match decodeEntry? entry with
  | some result => .ok result
  | none => .error .malformedExport

def parse (text : String) : Except Failure Export :=
  match Json.parse? text with
  | some value => ofJson value
  | none => .error .malformedExport

def parseBytes (bytes : ByteArray) : Except Failure Export :=
  match String.fromUTF8? bytes with
  | some text => parse text
  | none => .error .malformedExport

end Export
end BlogMigration
