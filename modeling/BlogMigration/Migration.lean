import BlogMigration.Cards.Templates
import BlogMigration.Export.Decode
import BlogMigration.Posts.ContentFile
import BlogMigration.Sites.Site

/-!
# Migrations

A migration reads an export, makes a site and writes the file of each post. What is wrong with the
export or the site stops it before a post is written; a post that cannot be written does not keep
the others from being written.
-/

namespace BlogMigration

open Files (Storage Entry)
open Posts (Post)

structure Job where
  source : String
  target : String
  force : Bool
  location : Time.Location
  timeForm : Option String
  format : FrontMatter.Format
  dialect : Cards.Dialect
  address : Option String
  deriving DecidableEq, Repr

namespace Job

def normalize (job : Job) : Images.Normalizer :=
  Images.blogPaths job.address

def catalog (job : Job) : Render.Catalog :=
  Cards.catalog job.dialect job.normalize

def reader (job : Job) (machine : Time.Zone := .utc) : Time.Reader :=
  .make job.location job.timeForm machine

def templates (job : Job) : List (String × String) :=
  match job.dialect with
  | .html => []
  | .shortcode => Cards.templates

def content (job : Job) (post : Post) : String :=
  post.content job.format job.catalog job.normalize

end Job

namespace Migration

/-- The export in what stands at the place of the source. A folder opens but cannot be read. -/
def exportOf (found : Option Entry) : Except Failure Export :=
  match found with
  | some (.file bytes) => Export.parseBytes bytes
  | some .folder => .error .malformedExport
  | none => .error .io

section

variable {m : Type → Type} [Monad m] [Storage m]

def load (path : String) : ExceptT Failure m Export := do
  exportOf (← (Storage.read? path : m (Option Entry)))

/-- Writes the file of a post. It fails for its slug, or because the storage refuses it, but never
for its content (`Posts.Post.content`). -/
def writePost (job : Job) (post : Post) : ExceptT Failure m Unit := do
  let name ← post.fileName
  Sites.write job.target post.folder name (job.content post)

def succeeds (job : Job) (post : Post) : m Bool := do
  match ← (writePost job post).run with
  | .ok _ => return true
  | .error _ => return false

/-- Writes the files of posts, and counts those that could not be written. -/
def writePosts (job : Job) : List Post → m Nat
  | [] => return 0
  | post :: rest => do
    let written ← succeeds job post
    let failed ← writePosts job rest
    return if written then failed else failed + 1

/-- Carries out a job and counts the posts. The posts are written one after the other as `arrange`
orders them. -/
def runInOrder (arrange : List Post → List Post) (job : Job) (machine : Time.Zone := .utc) :
    ExceptT Failure m Nat := do
  let source ← load job.source
  Sites.create job.target job.force
  Sites.installTemplates job.target job.templates
  let posts := Post.ofExport source (job.reader machine)
  let failed ← (writePosts job (arrange posts) : m Nat)
  if failed = 0 then return posts.length else throw (.postsFailed failed)

/-- Carries out a job, the posts being written in the order of the export. -/
def run (job : Job) (machine : Time.Zone := .utc) : ExceptT Failure m Nat :=
  runInOrder id job machine

end
end Migration
end BlogMigration
