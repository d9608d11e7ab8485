import BlogMigration.Failure
import BlogMigration.Files.Path
import BlogMigration.Files.Storage

/-!
# Sites

A site is a folder with a fixed set of folders in it. It is made in a new or an empty folder, or in
a filled one by force.
-/

namespace BlogMigration
namespace Sites

open Files (Storage Kind below)

def folders : List String :=
  ["archetypes", "content/post", "data", "layouts/shortcodes", "static/images", "themes"]

def templateFolder : String := "layouts/shortcodes"

def accept (root : String) (force : Bool) (found : Option Kind) : Except Failure Unit :=
  match found with
  | some .file => .error (.notADirectory root)
  | some .filledFolder => if force then .ok () else .error (.notEmpty root)
  | some .emptyFolder => .ok ()
  | none => .ok ()

section

variable {m : Type → Type} [Monad m] [Storage m]

def require (granted : m Bool) : ExceptT Failure m Unit := do
  unless ← granted do throw .io

def create (root : String) (force : Bool) : ExceptT Failure m Unit := do
  accept root force (← (Storage.look? root : m (Option Kind)))
  folders.forM fun folder => require (Storage.makeFolder (below root folder) : m Bool)

def installTemplates (root : String) (files : List (String × String)) :
    ExceptT Failure m Unit :=
  files.forM fun (name, text) =>
    require (Storage.write (below (below root templateFolder) name) text.toUTF8 : m Bool)

/-- Writes a text into a site, in a folder and by a name; the folder is given by its names. -/
def write (root : String) (folder : List String) (name text : String) :
    ExceptT Failure m Unit := do
  let path := below root ("/".intercalate folder)
  require (Storage.makeFolder path : m Bool)
  require (Storage.write (below path name) text.toUTF8 : m Bool)

end
end Sites
end BlogMigration
