import BlogMigration.Json.Value

/-!
# The tables of an export

An export holds the rows of the blog's database that matter for a migration. Rows refer to each
other by identifiers.
-/

namespace BlogMigration
namespace Export

/-- The identifier of a row. A number and a text are never the same identifier. -/
inductive Id where
  | number (value : Int)
  | text (value : String)
  deriving DecidableEq, Repr

structure User where
  id : Id
  name : String
  deriving DecidableEq, Repr

structure Tag where
  id : Id
  name : String
  deriving DecidableEq, Repr

structure PostTag where
  postId : Id
  tagId : Id
  sortOrder : Int
  deriving DecidableEq, Repr

/-- Gives an author to a post; the author of the lowest order is the primary one. -/
structure PostAuthor where
  postId : Id
  authorId : Id
  sortOrder : Int
  deriving DecidableEq, Repr

structure Setting where
  key : String
  value : Json

/-- A post as exported. Its times are kept as they came, for they have many forms. -/
structure PostRow where
  id : Option Id
  title : String
  slug : String
  markdown : Option String
  mobiledoc : Option String
  plaintext : Option String
  image : Option String
  featureImage : Option String
  kind : Option String
  page : Json
  status : Option String
  metaDescription : Option String
  customExcerpt : Option String
  authorId : Option Id
  publishedAt : Json
  createdAt : Json

structure Data where
  posts : List PostRow
  users : List User
  tags : List Tag
  postTags : List PostTag
  postAuthors : List PostAuthor
  settings : List Setting

structure Origin where
  exportedOn : Option Int
  version : Option String
  deriving DecidableEq, Repr

end Export

structure Export where
  origin : Export.Origin
  data : Export.Data

end BlogMigration
