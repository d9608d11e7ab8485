import BlogMigration.Cards.Catalog
import BlogMigration.Export.Resolve
import BlogMigration.Time.Reader

/-!
# Posts

A post with its references to users and tags resolved, its body chosen, and its date read.
-/

namespace BlogMigration
namespace Posts

open Export (Id Data PostRow)

inductive Body where
  | markdown (source : String)
  | mobiledoc (source : String)
  | plain (source : String)
  deriving DecidableEq, Repr

namespace Body

def present (source : Option String) : Option String :=
  source.filter fun text => !Text.allBlank text

/-- The body of a post: Markdown before a document of cards, and that before plain text. -/
def choose (row : PostRow) : Body :=
  match present row.markdown, present row.mobiledoc with
  | some source, _ => .markdown source
  | none, some source => .mobiledoc source
  | none, none => .plain (row.plaintext.getD "")

def render (catalog : Render.Catalog) : Body → String
  | .markdown source => source
  | .mobiledoc source => Render.renderSource catalog source
  | .plain source => source

end Body

structure Post where
  id : Option Id
  title : String
  slug : String
  body : Body
  date : Option Time.Timestamp
  isDraft : Bool
  isPage : Bool
  description : Option String
  image : Option String
  author : Option String
  tags : List String
  summary : Option String
  deriving DecidableEq, Repr

namespace Post

def trueTexts : List String := ["1", "true"]

def isTrue : Json → Bool
  | .bool value => value
  | .string value => trueTexts.contains value
  | value => value.signed?.any (· ≠ 0)

def isDraftRow (row : PostRow) : Bool :=
  row.status.any fun status => Text.sameIgnoringAsciiCase status "draft"

/-- Whether a row is a page, by its type or by the older column for it. -/
def isPageRow (row : PostRow) : Bool :=
  (row.kind.any fun kind => Text.sameIgnoringAsciiCase kind "page") || isTrue row.page

def timeOf (row : PostRow) : Json :=
  if isDraftRow row then row.createdAt else row.publishedAt

/-- The post of a row. Drafts are dated by their creation, all others by their publication. -/
def ofRow (data : Data) (reader : Time.Reader) (row : PostRow) : Post where
  id := row.id
  title := row.title
  slug := row.slug
  body := Body.choose row
  date := reader.read? (timeOf row)
  isDraft := isDraftRow row
  isPage := isPageRow row
  description := Render.nonEmpty row.metaDescription
  image := (Render.nonEmpty row.image).or (Render.nonEmpty row.featureImage)
  author := Export.author? data row
  tags := Export.tagNames data row
  summary := Render.nonEmpty row.customExcerpt

def ofExport (source : Export) (reader : Time.Reader) : List Post :=
  source.data.posts.map (ofRow source.data reader)

end Post
end Posts
end BlogMigration
