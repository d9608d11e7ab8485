import BlogMigration.Text.Split

/-!
# Shortcodes

A shortcode is a call inside Markdown, such as `figure` with a `src`. Its parameters are quoted, and
a backslash stands before a backslash or a quote in their values.
-/

namespace BlogMigration
namespace Cards

def parameterChar (c : Char) : List Char :=
  match c with
  | '\\' => ['\\', '\\']
  | '"' => ['\\', '"']
  | c => [c]

/-- The value of a parameter between its quotes. -/
def escapeParameter (value : String) : String :=
  Text.expand parameterChar value

structure Shortcode where
  name : String
  parameters : List (String × String)
  deriving DecidableEq, Repr

namespace Shortcode

def named (name : String) : Shortcode := ⟨name, []⟩

def param (name value : String) (code : Shortcode) : Shortcode :=
  { code with parameters := code.parameters ++ [(name, value)] }

def optionalParam (name : String) (value : Option String) (code : Shortcode) : Shortcode :=
  match value with
  | some value => if value.isEmpty then code else code.param name value
  | none => code

def parameterText (parameter : String × String) : String :=
  " " ++ parameter.1 ++ "=\"" ++ escapeParameter parameter.2 ++ "\""

def openingTag (code : Shortcode) : String :=
  "\x7b\x7b< " ++ code.name ++ String.join (code.parameters.map parameterText) ++ " >\x7d\x7d"

def closingTag (name : String) : String :=
  "\x7b\x7b< /" ++ name ++ " >\x7d\x7d"

end Shortcode
end Cards
end BlogMigration
