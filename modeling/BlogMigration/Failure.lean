import BlogMigration.Text.Quoted

/-!
# Why a migration fails

The failures that stop a migration, or the writing of one post, with their texts.
-/

namespace BlogMigration

/-- A failure of a migration or of the writing of a post. None says that front matter has no text:
what its fields hold (`FrontMatter.Value`) can always be written in both formats. -/
inductive Failure where
  | io
  | malformedExport
  | emptyExport
  | notADirectory (path : String)
  | notEmpty (path : String)
  | invalidSlug (slug : String)
  | postsFailed (count : Nat)
  deriving DecidableEq, Repr

namespace Failure

/-- The text of a failure; those of the operating system and of malformed JSON have none here. -/
def message? : Failure → Option String
  | .io => none
  | .malformedExport => none
  | .emptyExport => some "the Ghost export contains no database entries"
  | .notADirectory path => some ("target path " ++ path ++ " exists but is not a directory")
  | .notEmpty path => some ("target path " ++ path ++ " exists and is not empty")
  | .invalidSlug slug => some ("post " ++ Text.quoted slug ++ " has no slug-safe file name")
  | .postsFailed count => some ("failed to write " ++ toString count ++ " post(s)")

def code : Failure → String
  | .io => "ghost2hugo::io"
  | .malformedExport => "ghost2hugo::export"
  | .emptyExport => "ghost2hugo::export"
  | .notADirectory _ => "ghost2hugo::site"
  | .notEmpty _ => "ghost2hugo::site"
  | .invalidSlug _ => "ghost2hugo::post"
  | .postsFailed _ => "ghost2hugo::convert"

def help? : Failure → Option String
  | .malformedExport =>
    some "pass the JSON file produced by Ghost's Settings > Labs > Export"
  | .notEmpty _ =>
    some "choose another --hugo directory, or pass --force to write into it anyway"
  | .postsFailed _ => some "see the errors logged above for each post"
  | _ => none

end Failure
end BlogMigration
