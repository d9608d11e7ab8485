import BlogMigration.FrontMatter.Toml
import BlogMigration.FrontMatter.Yaml.Text

/-!
# Content files

A content file is its front matter between two delimiter lines, an empty line, and the body.
-/

namespace BlogMigration
namespace FrontMatter

def fieldText (format : Format) (entry : Field) : List Char :=
  match format with
  | .toml => Toml.field entry
  | .yaml => Yaml.field entry

def fieldsText (format : Format) (fields : List Field) : List Char :=
  fields.flatMap (fieldText format)

def delimiterLine (format : Format) : List Char :=
  format.delimiter.toList ++ ['\n']

def page (format : Format) (fields : List Field) (body : String) : String :=
  String.ofList (delimiterLine format ++ fieldsText format fields ++ delimiterLine format ++ ['\n'])
    ++ body

end FrontMatter
end BlogMigration
