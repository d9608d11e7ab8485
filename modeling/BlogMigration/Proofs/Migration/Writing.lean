import BlogMigration.Migration
import BlogMigration.Proofs.Posts.Path
import BlogMigration.Proofs.Sites.Requests

/-!
# Writing posts

Where a post is written in a site, and whether it can be written at all, is settled by the folders
of the site, which no post changes. So a run over posts stores each file on its own: it counts the
posts that have no place, and what stands at the place of a post in the end is decided by the posts
with that place alone.
-/

namespace BlogMigration
namespace Migration

open Files (Disk Entry Place below placeOf)
open Posts (Post)
open Sites (Leads runOn)

def filePath (job : Job) (post : Post) (name : String) : String :=
  below (below job.target post.folderPath) name

/-- A disk has the folders for posts in the site of a job. -/
def Ready (job : Job) (disk : Disk) : Prop :=
  ∀ post : Post, Leads disk job.target post.folderPath

/-- The place at which a disk has the file of a post written, if it can be written. -/
@[irreducible]
def target? (job : Job) (disk : Disk) (post : Post) : Option Place :=
  match post.fileName with
  | .ok name => disk.writable? (filePath job post name)
  | .error _ => none

/-- Stores the file of a post, for which a site has its place. -/
def store (job : Job) (site disk : Disk) (post : Post) : Disk :=
  match target? job site post with
  | some place => disk.put place (.file (job.content post).toUTF8)
  | none => disk

variable {job : Job} {site disk : Disk} {post other : Post} {place : Place}

/-! ## Places of posts -/

theorem target?_of_named {name : String} (named : post.fileName = .ok name) :
    target? job disk post = disk.writable? (filePath job post name) := by
  simp only [target?, named]

theorem target?_of_unnamed {failure : Failure} (unnamed : post.fileName = .error failure) :
    target? job disk post = none := by
  simp only [target?, unnamed]

theorem target?_eq_some_iff :
    target? job disk post = some place ↔
      ∃ name, post.fileName = .ok name ∧ disk.Writable (filePath job post name) ∧
        place = placeOf disk.workingFolder (filePath job post name) := by
  cases named : post.fileName with
  | ok name =>
      rw [target?_of_named named, Disk.writable?_eq_some_iff]
      constructor
      · exact fun found => ⟨name, rfl, found⟩
      · rintro ⟨_, same, found⟩
        rwa [Except.ok.inj same]
  | error failure =>
      rw [target?_of_unnamed named]
      constructor
      · nofun
      · rintro ⟨_, same, -⟩
        cases same

theorem not_isFolder_of_target? (found : target? job disk post = some place) :
    disk.isFolder place = false := by
  obtain ⟨name, -, writable, placed⟩ := target?_eq_some_iff.mp found
  rw [placed]
  exact writable.notFolder

theorem target?_eq_of_sameFolders (same : site.SameFolders disk) (post : Post) :
    target? job disk post = target? job site post := by
  simp only [target?, same.writable?_eq]

theorem filePath_eq (job : Job) (post : Post) (name : String) :
    filePath job post name = below job.target (post.folderPath ++ "/" ++ name) := by
  have ending : post.folderPath.toList.getLast? = some 't' := by
    unfold Post.folderPath Post.folder
    split <;> decide
  exact Files.below_below ending (by decide) job.target name

/-- The files of all posts are in one folder, each under the names of its path. -/
theorem exists_root (workingFolder : Place) (job : Job) :
    ∃ root, ∀ (post : Post) (name : String), post.fileName = .ok name →
      placeOf workingFolder (filePath job post name) = root ++ (post.folder ++ [name]) := by
  obtain ⟨start, names, parts⟩ := Files.exists_below workingFolder job.target
  refine ⟨names.foldl Place.follow start, fun post name named => ?_⟩
  obtain ⟨single, proper⟩ := Post.proper_fileName named
  have folders (place : Place) : post.folder.foldl Place.follow place = place ++ post.folder := by
    unfold Post.folder
    split <;> simp [Place.follow]
  rw [filePath_eq, placeOf, (parts _).1, (parts _).2, Files.pathNames_append_slash,
    Post.pathNames_folderPath, Files.pathNames_of_not_mem single, List.foldl_append,
    List.foldl_append, folders, List.foldl_cons, List.foldl_nil, Place.follow_eq_append proper,
    List.append_assoc]

/-- Posts with one place have one path. -/
theorem path_eq_of_target? (mine : target? job disk post = some place)
    (its : target? job disk other = some place) : other.path = post.path := by
  obtain ⟨name, named, -, placed⟩ := target?_eq_some_iff.mp mine
  obtain ⟨nameOther, namedOther, -, same⟩ := target?_eq_some_iff.mp its
  rw [placed] at same
  obtain ⟨root, shape⟩ := exists_root disk.workingFolder job
  rw [shape post name named, shape other nameOther namedOther] at same
  have mineIs : post.path = .ok (post.folder ++ [name]) := Post.path_eq_ok_iff.mpr ⟨_, named, rfl⟩
  have itsIs := Post.path_eq_ok_iff.mpr ⟨nameOther, namedOther, rfl⟩
  rw [mineIs, itsIs, List.append_cancel_left same]

/-- Posts that agree in their kind and their trimmed slug have one file. -/
theorem filePath_eq_of_pathKey (same : other.pathKey = post.pathKey) (name : String) :
    filePath job other name = filePath job post name := by
  rw [filePath, filePath, Post.folderPath, Post.folderPath, Post.folder_eq_of_pathKey same]

/-! ## Steps -/

/-- What writing a post comes to: it fails without a name or without a place. -/
def answer (job : Job) (disk : Disk) (post : Post) : Except Failure Unit :=
  match post.fileName with
  | .ok _ => if (target? job disk post).isSome then .ok () else .error .io
  | .error failure => .error failure

theorem isOk_answer (job : Job) (disk : Disk) (post : Post) :
    (answer job disk post).isOk = (target? job disk post).isSome := by
  cases named : post.fileName with
  | error failure =>
      rw [target?_of_unnamed named, answer, named]
      rfl
  | ok name =>
      rw [answer, named]
      cases target? job disk post <;> rfl

/-- Writing a post stores its file at its place, or changes nothing. -/
theorem runOn_writePost (ready : Ready job disk) (post : Post) :
    runOn disk (writePost job post) = (answer job disk post, store job disk disk post) := by
  have asked := Sites.runOn_liftExcept disk post.fileName
  cases named : post.fileName with
  | error failure =>
      rw [named] at asked
      rw [writePost, named, Sites.runOn_bind_of_error asked]
      simp only [answer, named, store, target?_of_unnamed named]
  | ok name =>
      have placed : target? job disk post = disk.writable? (filePath job post name) :=
        target?_of_named named
      rw [filePath, Post.folderPath] at placed
      rw [named] at asked
      rw [writePost, named, Sites.runOn_bind_of_ok asked, Sites.runOn_write (ready post), ← placed]
      simp only [answer, named, store]
      cases target? job disk post <;> rfl

theorem succeeds_run (ready : Ready job disk) (post : Post) :
    (succeeds job post : StateM Disk Bool).run disk =
      ((target? job disk post).isSome, store job disk disk post) := by
  have written := runOn_writePost ready post
  rw [runOn] at written
  rw [succeeds, StateT.run_bind, written, ← isOk_answer]
  cases answer job disk post <;> rfl

theorem store_eq_of_sameFolders (same : site.SameFolders disk) (post : Post) :
    store job disk disk post = store job site disk post := by
  rw [store, store, target?_eq_of_sameFolders same]

theorem sameFolders_store (job : Job) (same : site.SameFolders disk) (post : Post) :
    site.SameFolders (store job site disk post) := by
  unfold store
  split
  · next place found =>
    have free : disk.isFolder place = false := by
      rw [same.isFolder]
      exact not_isFolder_of_target? found
    exact same.trans (Disk.sameFolders_put_file free _)
  · exact same

/-! ## Runs -/

/-- A run stores the files of the posts one after the other and counts those without a place. -/
theorem writePosts_run (ready : Ready job site) (same : site.SameFolders disk) (posts : List Post) :
    (writePosts job posts : StateM Disk Nat).run disk =
      (posts.countP fun post => (target? job site post).isNone,
        posts.foldl (store job site) disk) := by
  induction posts generalizing disk with
  | nil => rfl
  | cons post rest ih =>
      have step := succeeds_run (fun post => (ready post).extend same.extends) post
      rw [store_eq_of_sameFolders same, target?_eq_of_sameFolders same] at step
      have others := ih (sameFolders_store job same post)
      rw [writePosts, StateT.run_bind, step]
      change (StateT.run (writePosts job rest >>= fun failed =>
        pure (if (target? job site post).isSome then failed else failed + 1))
        (store job site disk post)) = _
      rw [StateT.run_bind, others, List.countP_cons, List.foldl_cons]
      cases target? job site post <;> rfl

theorem sameFolders_foldl_store (job : Job) (same : site.SameFolders disk) (posts : List Post) :
    site.SameFolders (posts.foldl (store job site) disk) := by
  induction posts generalizing disk with
  | nil => exact same
  | cons post rest ih => exact ih (sameFolders_store job same post)

/-- What stands at the place of a post in the end is its file, if no other post has its place. -/
theorem get?_foldl_store {posts : List Post} (found : target? job site post = some place)
    (alone : ∀ other ∈ posts, target? job site other = some place → other = post)
    (held : post ∈ posts ∨ disk.get? place = some (.file (job.content post).toUTF8)) :
    (posts.foldl (store job site) disk).get? place = some (.file (job.content post).toUTF8) := by
  -- The file is still to be stored, or it stands there and nothing but itself is put over it.
  induction posts generalizing disk with
  | nil => exact held.resolve_left List.not_mem_nil
  | cons first rest ih =>
      refine ih (fun other member => alone other (List.mem_cons_of_mem first member)) ?_
      by_cases same : target? job site first = some place
      · obtain rfl := alone first List.mem_cons_self same
        have top := Disk.ne_top_of_not_isFolder (not_isFolder_of_target? found)
        rw [store, found]
        exact .inr (Disk.get?_put disk _ top)
      · have apart : first ≠ post := fun equal => same (equal ▸ found)
        have kept : (store job site disk first).get? place = disk.get? place := by
          unfold store
          split
          · next elsewhere foundElsewhere =>
            refine Disk.get?_put_of_ne disk _ fun equal => same ?_
            rw [foundElsewhere, equal]
          · rfl
        rw [kept]
        exact held.imp_left fun member => (List.mem_cons.mp member).resolve_left apart.symm

end Migration
end BlogMigration
