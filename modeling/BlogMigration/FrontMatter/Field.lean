/-!
# Front matter

The head of a content file describes the page by named fields, in a fixed order. It stands between
two lines that are equal to the delimiter of its format, and one empty line parts it from the body.
-/

namespace BlogMigration
namespace FrontMatter

/-- What a field holds: one of the kinds of which both formats write every value. With dates,
numbers or tables a format could fail to write a field; no post has any. -/
inductive Value where
  | text (value : String)
  | flag (value : Bool)
  | texts (values : List String)
  deriving DecidableEq, Repr

abbrev Field := String × Value

inductive Format where
  | toml
  | yaml
  deriving DecidableEq, Repr

def Format.delimiter : Format → String
  | .toml => "+++"
  | .yaml => "---"

def flagText (value : Bool) : List Char :=
  (if value then "true" else "false").toList

end FrontMatter
end BlogMigration
