import BlogMigration.Proofs.Files.Ways
import BlogMigration.Proofs.Sites.Runs

/-!
# Sites on volumes

What the programs for sites leave of a volume. They change no files but those that their own paths
lead to, whatever their outcome is, and a site that was made is where its path leads.
-/

namespace BlogMigration
namespace Sites

open Files (Entry Kind Storage Place Volume below)
open Files.Volume (ChangesOnly)

variable {own : String → Prop} {volume after : Volume}

/-! ## Requests -/

theorem keeps_look? (path : String) :
    Keeps (ChangesOnly own) (Storage.look? path : StateM Volume (Option Kind)) :=
  fun volume => .refl volume

theorem keeps_makeFolder (path : String) :
    Keeps (ChangesOnly own) (Storage.makeFolder path : StateM Volume Bool) :=
  fun volume => volume.changesOnly_makeFolder path

theorem keeps_write {path : String} (mine : own path) (bytes : ByteArray) :
    Keeps (ChangesOnly own) (Storage.write path bytes : StateM Volume Bool) :=
  fun _ => Files.Volume.changesOnly_write mine bytes

theorem runOn_look? (volume : Volume) (path : String) :
    runOn volume (liftM (Storage.look? path : StateM Volume (Option Kind)) :
      ExceptT Failure (StateM Volume) (Option Kind)) = (.ok (volume.look? path), volume) :=
  runOn_lift volume (Storage.look? path : StateM Volume (Option Kind))

/-! ## Programs for sites -/

theorem keeps_makeFolders (root : String) (folders : List String) :
    Keeps (ChangesOnly own) (folders.forM fun folder =>
      require (Storage.makeFolder (below root folder) : StateM Volume Bool)).run :=
  .forM fun _ _ => (keeps_makeFolder _).require

/-- Making a site changes no file at all. -/
theorem keeps_create (root : String) (force : Bool) :
    Keeps (ChangesOnly own) (create root force : ExceptT Failure (StateM Volume) Unit).run := by
  refine Keeps.bindProgram (keeps_look? root).lift fun found => ?_
  exact Keeps.bindExcept fun _ _ => keeps_makeFolders root folders

theorem keeps_installTemplates {root : String} {files : List (String × String)}
    (mine : ∀ file ∈ files, own (below (below root templateFolder) file.1)) :
    Keeps (ChangesOnly own)
      (installTemplates root files : ExceptT Failure (StateM Volume) Unit).run :=
  .forM fun file member => (keeps_write (mine file member) _).require

theorem keeps_writeFile {root name : String} {folder : List String} (text : String)
    (mine : own (below (below root ("/".intercalate folder)) name)) :
    Keeps (ChangesOnly own)
      (write root folder name text : ExceptT Failure (StateM Volume) Unit).run :=
  Keeps.bindProgram (keeps_makeFolder _).require fun _ => (keeps_write mine _).require

/-! ## Failures -/

/-- Nothing has been done yet when a place is not accepted for a site. -/
theorem runOn_create_of_error {root : String} {force : Bool} {failure : Failure}
    (refused : accept root force (volume.look? root) = .error failure) :
    runOn volume (create root force) = (.error failure, volume) := by
  rw [create, runOn_bind_of_ok (runOn_look? volume root)]
  refine runOn_bind_of_error ?_
  rw [runOn_liftExcept, refused]

/-- A site is not made because its place is not accepted or a folder is not granted. -/
theorem accept_eq_error_of_create {root : String} {force : Bool} {failure : Failure}
    (failed : runOn volume (create root force) = (.error failure, after)) :
    accept root force (volume.look? root) = .error failure ∨ failure = .io := by
  rw [create, runOn_bind_of_ok (runOn_look? volume root)] at failed
  rcases runOn_bind_eq_error_iff.mp failed with refused | ⟨_, _, -, others⟩
  · rw [runOn_liftExcept] at refused
    exact .inl (Prod.mk.inj refused).1
  · exact .inr (failsByRequest_forM others)

theorem failsByRequest_installTemplates (root : String) (files : List (String × String)) :
    FailsByRequest (installTemplates root files : ExceptT Failure (StateM Volume) Unit) :=
  failsByRequest_forM

/-! ## Made sites -/

/-- The paths of folders that were made lead somewhere. -/
theorem resolves_of_makeFolders {root : String} {folders : List String}
    (made : runOn volume (folders.forM fun folder =>
      require (Storage.makeFolder (below root folder))) = (.ok (), after)) :
    ∀ folder ∈ folders, ∃ place, after.resolve? (below root folder) = some place := by
  induction folders generalizing volume with
  | nil => simp
  | cons folder rest ih =>
      obtain ⟨_, middle, first, others⟩ := runOn_bind_eq_ok_iff.mp made
      have granted : volume.makeFolder (below root folder) = (true, middle) :=
        runOn_require_eq_ok_iff.mp first
      obtain ⟨place, resolved⟩ := Files.Volume.exists_of_makeFolder granted
      have changes : ChangesOnly (fun _ => False) middle after :=
        (keeps_makeFolders root rest).of_runOn others
      exact List.forall_mem_cons.mpr ⟨⟨place, changes.grows.resolve? resolved⟩, ih others⟩

/-- The path of a site that was made leads to a folder. -/
theorem exists_home_of_create {root : String} {force : Bool} (filled : root ≠ "")
    (made : runOn volume (create root force) = (.ok (), after)) :
    ∃ home, after.resolve? root = some home ∧ after.isFolder home = true := by
  obtain ⟨_, _, -, rest⟩ := runOn_bind_eq_ok_iff.mp made
  obtain ⟨_, _, -, all⟩ := runOn_bind_eq_ok_iff.mp rest
  obtain ⟨place, resolved⟩ := resolves_of_makeFolders all "data" (by decide)
  obtain ⟨home, _, found, folder, -⟩ := Files.Volume.exists_home filled resolved
  exact ⟨home, found, folder⟩

end Sites
end BlogMigration
