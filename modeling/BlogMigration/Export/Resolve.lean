import BlogMigration.Export.Tables

/-!
# References between the rows of an export

The author and the tags of a post, found through the tables that connect them, and the settings of
the blog.
-/

namespace BlogMigration
namespace Export

/-- The row of the lowest order, the first one of several. -/
def firstLowest {α : Type} (order : α → Int) : List α → Option α
  | [] => none
  | row :: rest =>
    match firstLowest order rest with
    | none => some row
    | some lowest => if order lowest < order row then some lowest else some row

def authorsOf (data : Data) (post : Id) : List PostAuthor :=
  data.postAuthors.filter fun row => row.postId = post

def primaryAuthor? (data : Data) (post : Id) : Option Id :=
  (firstLowest PostAuthor.sortOrder (authorsOf data post)).map PostAuthor.authorId

def userName? (data : Data) (id : Id) : Option String :=
  ((data.users.find? fun user => user.id = id).map User.name).filter fun name => !name.isEmpty

/-- The name of the author of a post. The table of authors comes before the post's own column. -/
def author? (data : Data) (post : PostRow) : Option String :=
  ((post.id.bind (primaryAuthor? data)).or post.authorId).bind (userName? data)

/-- A tag name without the marks of an internal tag at its start. -/
def visibleName (name : String) : String :=
  String.ofList (name.toList.dropWhile (· == '#'))

/-- The rows that give tags to a post, by their order, and in the order of the table where that is
equal. -/
def tagRowsOf (data : Data) (post : Id) : List PostTag :=
  (data.postTags.filter fun row => row.postId = post).mergeSort fun x y =>
    decide (x.sortOrder ≤ y.sortOrder)

/-- The name that a row gives to its post, if there is such a tag and its name is not empty. -/
def tagName? (data : Data) (row : PostTag) : Option String :=
  ((data.tags.find? fun tag => tag.id = row.tagId).map fun tag => visibleName tag.name).filter
    fun name => !name.isEmpty

def tagNames (data : Data) (post : PostRow) : List String :=
  match post.id with
  | some id => (tagRowsOf data id).filterMap (tagName? data)
  | none => []

/-- The settings whose value is a string, the last of one key counting. -/
def settings (data : Data) : List (String × String) :=
  data.settings.foldl (fun known setting =>
    match setting.value with
    | .string value => (known.filter fun entry => entry.1 ≠ setting.key) ++ [(setting.key, value)]
    | _ => known) []

end Export
end BlogMigration
