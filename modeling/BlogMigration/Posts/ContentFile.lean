import BlogMigration.Failure
import BlogMigration.FrontMatter.Page
import BlogMigration.Posts.Post
import BlogMigration.Text.Blank
import BlogMigration.Time.Rfc3339

/-!
# Content files of posts

Where a post is kept in a site, and what its file holds. A page stands in the content folder, any
other post in a folder of posts below it. The name of the file is the slug, which therefore may not
lead anywhere else.
-/

namespace BlogMigration
namespace Posts
namespace Post

open FrontMatter (Field Format)

def separators : List Char := ['/', '\\']

def isFileName (name : String) : Bool :=
  !name.isEmpty && !name.toList.any separators.contains && name != "." && name != ".."

def folder (post : Post) : List String :=
  if post.isPage then ["content"] else ["content", "post"]

def fileName (post : Post) : Except Failure String :=
  let name := Text.trimmed post.slug
  if isFileName name then .ok (name ++ ".md") else .error (.invalidSlug post.slug)

def path (post : Post) : Except Failure (List String) :=
  post.fileName.map fun name => post.folder ++ [name]

def textField (key : String) (value : Option String) : List Field :=
  match value with
  | some value => [(key, .text value)]
  | none => []

def listField (key : String) (values : List String) : List Field :=
  if values.isEmpty then [] else [(key, .texts values)]

/-- The front matter of a post. The tags are its categories as well. -/
def frontMatter (normalize : Images.Normalizer) (post : Post) : List Field :=
  textField "date" (post.date.map Time.Timestamp.text) ++
  [("title", .text post.title), ("draft", .flag post.isDraft), ("slug", .text post.slug)] ++
  textField "description" post.description ++
  textField "image" (post.image.map normalize) ++
  listField "tags" post.tags ++
  listField "categories" post.tags ++
  textField "author" post.author ++
  textField "summary" post.summary

/-- The content of the file of a post. There always is one, as front matter can always be written
(`FrontMatter.Value`). -/
def content (format : Format) (catalog : Render.Catalog) (normalize : Images.Normalizer)
    (post : Post) : String :=
  FrontMatter.page format (post.frontMatter normalize) (post.body.render catalog)

end Post
end Posts
end BlogMigration
