import BlogMigration.Proofs.Files.Folders
import BlogMigration.Proofs.Sites.Runs

/-!
# Sites on disks

What the programs for sites do when a disk answers their requests. A site that was made has its
folders, and a file that is written into it changes one place and no folder.
-/

namespace BlogMigration
namespace Sites

open Files (Disk Entry Kind Storage Place below isPath pathNames startOf)

variable {disk after : Disk}

theorem run_makeFolder (disk : Disk) (path : String) :
    (Storage.makeFolder path : StateM Disk Bool).run disk = disk.makeFolder path :=
  rfl

theorem run_write (disk : Disk) (path : String) (bytes : ByteArray) :
    (Storage.write path bytes : StateM Disk Bool).run disk = disk.write path bytes :=
  rfl

/-! ## Making a site -/

/-- The names of a folder below a root lead through folders. -/
def Leads (disk : Disk) (root folder : String) : Prop :=
  disk.Leads (startOf disk.workingFolder (below root folder)) (pathNames (below root folder))

theorem Leads.extend {root folder : String} (leads : Leads disk root folder)
    (more : disk.Extends after) : Leads after root folder := by
  rw [Leads, more.workingFolder]
  exact more.leads leads

/-- The names of a folder lead through folders if those of something in it do. -/
theorem Leads.of_append {root front back : String} (leads : Leads disk root (front ++ "/" ++ back)) :
    Leads disk root front := by
  obtain ⟨start, names, parts⟩ := Files.exists_below disk.workingFolder root
  rw [Leads, (parts _).1, (parts _).2, Files.pathNames_append_slash, ← List.append_assoc,
    Disk.leads_append_iff] at leads
  rw [Leads, (parts _).1, (parts _).2]
  exact leads.1

/-- Folders that were made one after the other are all there. -/
theorem leads_of_makeFolders {root : String} {folders : List String}
    (made : runOn disk (folders.forM fun folder =>
      require (Storage.makeFolder (below root folder))) = (.ok (), after)) :
    disk.Extends after ∧ ∀ folder ∈ folders, Leads after root folder := by
  induction folders generalizing disk with
  | nil =>
      cases made
      exact ⟨.refl _, by simp⟩
  | cons folder rest ih =>
      obtain ⟨_, middle, first, others⟩ := runOn_bind_eq_ok_iff.mp made
      have granted := runOn_require_eq_ok_iff.mp first
      rw [run_makeFolder] at granted
      have grown : disk.Extends middle := by
        have more := disk.makeFolder_extends (below root folder)
        rwa [granted] at more
      have there : Leads middle root folder := by
        have leads : (disk.makeFolder (below root folder)).2.Leads
            (startOf disk.workingFolder (below root folder)) (pathNames (below root folder)) :=
          Disk.leads_of_makeFolder (by rw [granted])
        rw [granted] at leads
        rwa [Leads, grown.workingFolder]
      obtain ⟨more, leads⟩ := ih others
      exact ⟨grown.trans more, List.forall_mem_cons.mpr ⟨there.extend more, leads⟩⟩

/-- A site that was made has its folders. -/
theorem leads_of_create {root : String} {force : Bool}
    (made : runOn disk (create root force) = (.ok (), after)) :
    ∀ folder ∈ folders, Leads after root folder := by
  obtain ⟨found, looked, first, rest⟩ := runOn_bind_eq_ok_iff.mp made
  obtain ⟨_, accepted, second, third⟩ := runOn_bind_eq_ok_iff.mp rest
  exact (leads_of_makeFolders third).2

/-! ## Writing files -/

theorem sameFolders_write (disk : Disk) (path : String) (bytes : ByteArray) :
    disk.SameFolders (disk.write path bytes).2 := by
  rw [Disk.write]
  split
  · next place found =>
    obtain ⟨writable, rfl⟩ := Disk.writable?_eq_some_iff.mp found
    exact Disk.sameFolders_put_file writable.notFolder bytes
  · exact .refl disk

theorem sameFolders_installTemplates {root : String} {files : List (String × String)}
    (installed : runOn disk (installTemplates root files) = (.ok (), after)) :
    disk.SameFolders after := by
  induction files generalizing disk with
  | nil =>
      cases installed
      exact .refl _
  | cons file rest ih =>
      obtain ⟨name, text⟩ := file
      obtain ⟨_, middle, first, others⟩ := runOn_bind_eq_ok_iff.mp installed
      have granted := runOn_require_eq_ok_iff.mp first
      rw [run_write] at granted
      have same := sameFolders_write disk (below (below root templateFolder) name) text.toUTF8
      rw [granted] at same
      exact same.trans (ih others)

theorem writable?_below_of_not_isPath {path name : String} (filled : path ≠ "")
    (improper : isPath path ≠ true) : disk.writable? (below path name) = none := by
  cases found : disk.writable? (below path name) with
  | none => rfl
  | some place =>
      obtain ⟨writable, -⟩ := Disk.writable?_eq_some_iff.mp found
      exact absurd (Files.isPath_of_below filled writable.properPath) improper

/-- Writing into a folder that is there puts the file at the place of its path, if one can be
written there, and changes nothing else. -/
theorem runOn_write {root name text : String} {folder : List String}
    (leads : Leads disk root ("/".intercalate folder)) :
    runOn disk (write root folder name text) =
      match disk.writable? (below (below root ("/".intercalate folder)) name) with
      | some place => (.ok (), disk.put place (.file text.toUTF8))
      | none => (.error .io, disk) := by
  have filled := Files.below_ne_empty root ("/".intercalate folder)
  rw [Leads] at leads
  rw [write]
  generalize below root ("/".intercalate folder) = path at leads filled ⊢
  have asked := runOn_require disk (Storage.makeFolder path)
  rw [run_makeFolder, Disk.makeFolder_of_leads leads] at asked
  by_cases proper : isPath path = true
  · rw [if_pos proper] at asked
    rw [runOn_bind_of_ok asked, runOn_require, run_write, Disk.write]
    cases disk.writable? (below path name) <;> rfl
  · rw [if_neg proper] at asked
    rw [runOn_bind_of_error asked, writable?_below_of_not_isPath filled proper]

end Sites
end BlogMigration
