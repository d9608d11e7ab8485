import BlogMigration.Files.Disk
import BlogMigration.Proofs.Files.Paths

/-!
# Folders of disks

Whether a file can be written depends on the folders of a disk alone, and writing one does not
change them. Making a folder only adds folders, so names that lead through folders keep doing so.
-/

namespace BlogMigration
namespace Files

namespace Disk

/-- The names lead through folders only. -/
def Leads (disk : Disk) : Place → List String → Prop
  | _, [] => True
  | place, name :: rest =>
    disk.isFolder (place.follow name) = true ∧ disk.Leads (place.follow name) rest

/-- A disk has all folders of another one. -/
structure Extends (old new : Disk) : Prop where
  workingFolder : new.workingFolder = old.workingFolder
  isFolder : ∀ {place}, old.isFolder place = true → new.isFolder place = true

structure SameFolders (old new : Disk) : Prop where
  workingFolder : new.workingFolder = old.workingFolder
  isFolder : ∀ place, new.isFolder place = old.isFolder place

/-- A file can be written. This is a matter of folders only. -/
structure Writable (disk : Disk) (path : String) : Prop where
  properPath : isPath path = true
  properNames : ∀ name ∈ pathNames path, isName name = true
  start : disk.isFolder (startOf disk.workingFolder path) = true
  leads : disk.Leads (startOf disk.workingFolder path) (pathNames path).dropLast
  notFolder : disk.isFolder (placeOf disk.workingFolder path) = false

/-! ## Relations between disks -/

theorem Extends.refl (disk : Disk) : Extends disk disk :=
  ⟨rfl, id⟩

theorem Extends.trans {first second third : Disk} (earlier : Extends first second)
    (later : Extends second third) : Extends first third :=
  ⟨later.workingFolder.trans earlier.workingFolder, later.isFolder ∘ earlier.isFolder⟩

theorem SameFolders.refl (disk : Disk) : SameFolders disk disk :=
  ⟨rfl, fun _ => rfl⟩

theorem SameFolders.trans {first second third : Disk} (earlier : SameFolders first second)
    (later : SameFolders second third) : SameFolders first third :=
  ⟨later.workingFolder.trans earlier.workingFolder,
    fun place => (later.isFolder place).trans (earlier.isFolder place)⟩

theorem SameFolders.symm {old new : Disk} (same : SameFolders old new) : SameFolders new old :=
  ⟨same.workingFolder.symm, fun place => (same.isFolder place).symm⟩

theorem SameFolders.extends {old new : Disk} (same : SameFolders old new) : Extends old new :=
  ⟨same.workingFolder, fun folder => (same.isFolder _).trans folder⟩

theorem Extends.leads {old new : Disk} (more : Extends old new) {place : Place}
    {names : List String} (leads : old.Leads place names) : new.Leads place names := by
  induction names generalizing place with
  | nil => trivial
  | cons name rest ih => exact ⟨more.isFolder leads.1, ih leads.2⟩

theorem leads_append_iff {disk : Disk} {place : Place} {front back : List String} :
    disk.Leads place (front ++ back) ↔
      disk.Leads place front ∧ disk.Leads (front.foldl Place.follow place) back := by
  induction front generalizing place with
  | nil => exact (and_iff_right trivial).symm
  | cons name rest ih =>
      rw [List.cons_append, Leads, Leads, ih, and_assoc]
      rfl

/-! ## Putting entries -/

variable {disk : Disk} {place : Place}

theorem ne_top_of_not_isFolder (notFolder : disk.isFolder place = false) : place ≠ [] := by
  rintro rfl
  cases notFolder

theorem sameFolders_put_file (notFolder : disk.isFolder place = false) (bytes : ByteArray) :
    SameFolders disk (disk.put place (.file bytes)) := by
  refine ⟨rfl, fun other => ?_⟩
  by_cases same : other = place
  · rw [same, notFolder, isFolder, get?_put disk _ (ne_top_of_not_isFolder notFolder)]
  · rw [isFolder, isFolder, get?_put_of_ne disk _ same]

theorem extends_put_folder (free : disk.get? place = none) :
    Extends disk (disk.put place .folder) := by
  have top : place ≠ [] := by
    rintro rfl
    cases free
  refine ⟨rfl, fun {other} folder => ?_⟩
  by_cases same : other = place
  · rw [same, isFolder, get?_put disk _ top]
  · rwa [isFolder, get?_put_of_ne disk _ same]

/-! ## Making folders -/

theorem makeFolders_extends (disk : Disk) (place : Place) (names : List String) :
    Extends disk (disk.makeFolders place names).2 := by
  induction names generalizing disk place with
  | nil => exact .refl disk
  | cons name rest ih =>
      rw [makeFolders]
      split
      · exact ih disk _
      · exact .refl disk
      · next free =>
        split
        · exact (extends_put_folder free).trans (ih _ _)
        · exact .refl disk

theorem isFolder_put_folder (disk : Disk) (place : Place) :
    (disk.put place .folder).isFolder place = true := by
  by_cases top : place = []
  · rw [top]
    rfl
  · rw [isFolder, get?_put disk _ top]

/-- Folders that could be made are there. -/
theorem leads_of_makeFolders {names : List String}
    (made : (disk.makeFolders place names).1 = true) :
    (disk.makeFolders place names).2.Leads place names := by
  induction names generalizing disk place with
  | nil => trivial
  | cons name rest ih =>
      cases found : disk.get? (place.follow name) with
      | none =>
          by_cases proper : isName name = true
          · have step : disk.makeFolders place (name :: rest) =
                (disk.put (place.follow name) .folder).makeFolders (place.follow name) rest := by
              rw [makeFolders, found]
              exact if_pos proper
            rw [step] at made ⊢
            have there := isFolder_put_folder disk (place.follow name)
            exact ⟨(makeFolders_extends _ _ rest).isFolder there, ih made⟩
          · rw [makeFolders, found] at made
            simp [proper] at made
      | some entry =>
          cases entry with
          | file bytes =>
              rw [makeFolders, found] at made
              cases made
          | folder =>
              have step : disk.makeFolders place (name :: rest) =
                  disk.makeFolders (place.follow name) rest := by
                rw [makeFolders, found]
              rw [step] at made ⊢
              have there := (disk.isFolder_iff _).mpr found
              exact ⟨(makeFolders_extends disk _ rest).isFolder there, ih made⟩

/-- Folders that are there need not be made. -/
theorem makeFolders_of_leads {names : List String} (leads : disk.Leads place names) :
    disk.makeFolders place names = (true, disk) := by
  induction names generalizing place with
  | nil => rfl
  | cons name rest ih =>
      rw [makeFolders, (disk.isFolder_iff _).mp leads.1]
      exact ih leads.2

theorem makeFolder_extends (disk : Disk) (path : String) :
    Extends disk (disk.makeFolder path).2 := by
  unfold makeFolder
  split
  · exact makeFolders_extends disk _ _
  · exact .refl disk

theorem leads_of_makeFolder {path : String} (made : (disk.makeFolder path).1 = true) :
    (disk.makeFolder path).2.Leads (startOf disk.workingFolder path) (pathNames path) := by
  by_cases proper : isPath path = true
  · rw [makeFolder, if_pos proper] at made ⊢
    exact leads_of_makeFolders made
  · rw [makeFolder, if_neg proper] at made
    cases made

theorem makeFolder_of_leads {path : String}
    (leads : disk.Leads (startOf disk.workingFolder path) (pathNames path)) :
    disk.makeFolder path = (isPath path, disk) := by
  rw [makeFolder, makeFolders_of_leads leads]
  cases isPath path <;> rfl

/-! ## Following names -/

/-- Names can be followed to a folder exactly when they lead through folders. -/
theorem follow?_eq_some_folder_iff {names : List String} {last : Place} :
    disk.follow? place names = some last ∧ disk.isFolder last = true ↔
      disk.isFolder place = true ∧ (∀ name ∈ names, isName name = true) ∧
        disk.Leads place names ∧ last = names.foldl Place.follow place := by
  induction names generalizing place with
  | nil =>
      constructor
      · rintro ⟨found, folder⟩
        cases found
        exact ⟨folder, by simp, trivial, rfl⟩
      · rintro ⟨folder, -, -, rfl⟩
        exact ⟨rfl, folder⟩
  | cons name rest ih =>
      constructor
      · rintro ⟨found, folder⟩
        rw [follow?] at found
        split at found
        · next able =>
          simp only [Bool.and_eq_true] at able
          obtain ⟨next, proper, leads, lastIs⟩ := ih.mp ⟨found, folder⟩
          exact ⟨able.1.1, List.forall_mem_cons.mpr ⟨able.1.2, proper⟩, ⟨next, leads⟩, lastIs⟩
        · cases found
      · rintro ⟨start, proper, ⟨next, leads⟩, lastIs⟩
        obtain ⟨properName, properRest⟩ := List.forall_mem_cons.mp proper
        have there : disk.get? (place.follow name) = some .folder := (disk.isFolder_iff _).mp next
        rw [follow?, if_pos (by simp [start, properName, there])]
        exact ih.mpr ⟨next, properRest, leads, lastIs⟩

theorem follow?_append (disk : Disk) (place : Place) (front back : List String) :
    disk.follow? place (front ++ back) =
      (disk.follow? place front).bind fun folder => disk.follow? folder back := by
  induction front generalizing place with
  | nil => rfl
  | cons name rest ih =>
      rw [List.cons_append, follow?, follow?, ih]
      split <;> rfl

/-- The folder of a writable file can be reached. -/
theorem Writable.folder {path name : String} {front : List String}
    (writable : disk.Writable path) (shape : pathNames path = front ++ [name]) :
    (disk.follow? (startOf disk.workingFolder path) front =
        some (front.foldl Place.follow (startOf disk.workingFolder path)) ∧
      disk.isFolder (front.foldl Place.follow (startOf disk.workingFolder path)) = true) ∧
      isName name = true := by
  have proper := writable.properNames
  have leads := writable.leads
  rw [shape, List.dropLast_concat] at leads
  simp only [shape, List.mem_append, or_imp, forall_and, List.mem_singleton, forall_eq] at proper
  exact ⟨follow?_eq_some_folder_iff.mpr ⟨writable.start, proper.1, leads, rfl⟩, proper.2⟩

/-- A file is written at the place of its path or nowhere. -/
theorem writable?_eq_some_iff {path : String} :
    disk.writable? path = some place ↔
      disk.Writable path ∧ place = placeOf disk.workingFolder path := by
  obtain ⟨front, name, shape⟩ := pathNames_eq_concat path
  have target := placeOf_eq_follow shape disk.workingFolder
  simp only [writable?, shape, List.getLast?_concat, List.dropLast_concat, Option.bind_eq_bind,
    Option.bind_some, Option.bind_eq_some_iff]
  constructor
  · rintro ⟨folder, found, granted⟩
    split at granted
    · next able =>
      simp only [Bool.and_eq_true, Bool.not_eq_true'] at able
      obtain ⟨⟨⟨proper, properName⟩, there⟩, free⟩ := able
      obtain ⟨start, properFront, leads, rfl⟩ := follow?_eq_some_folder_iff.mp ⟨found, there⟩
      rw [← target] at free granted
      have properNames : ∀ other ∈ pathNames path, isName other = true := by
        simpa [shape, or_imp, forall_and] using And.intro properFront properName
      refine ⟨⟨proper, properNames, start, ?_, free⟩, (Option.some.inj granted).symm⟩
      rwa [shape, List.dropLast_concat]
    · cases granted
  · rintro ⟨writable, rfl⟩
    obtain ⟨⟨found, there⟩, properName⟩ := writable.folder shape
    refine ⟨_, found, ?_⟩
    rw [← target, if_pos]
    simp [writable.properPath, properName, there, writable.notFolder]

theorem SameFolders.writable {old new : Disk} (same : SameFolders old new) {path : String}
    (writable : old.Writable path) : new.Writable path where
  properPath := writable.properPath
  properNames := writable.properNames
  start := by
    rw [same.workingFolder, same.isFolder]
    exact writable.start
  leads := by
    rw [same.workingFolder]
    exact same.extends.leads writable.leads
  notFolder := by
    rw [same.workingFolder, same.isFolder]
    exact writable.notFolder

/-- What can be written is the same on disks of the same folders. -/
theorem SameFolders.writable?_eq {old new : Disk} (same : SameFolders old new) (path : String) :
    new.writable? path = old.writable? path := by
  refine Option.ext fun place => ?_
  rw [writable?_eq_some_iff, writable?_eq_some_iff, same.workingFolder]
  exact and_congr_left fun _ => ⟨same.symm.writable, same.writable⟩

/-- The path of a writable file leads to its place as soon as something stands there. -/
theorem resolve?_of_writable {path : String} (writable : disk.Writable path)
    (filled : (disk.get? (placeOf disk.workingFolder path)).isSome = true) :
    disk.resolve? path = some (placeOf disk.workingFolder path) := by
  obtain ⟨front, name, shape⟩ := pathNames_eq_concat path
  obtain ⟨⟨found, there⟩, properName⟩ := writable.folder shape
  rw [placeOf_eq_follow shape] at filled ⊢
  rw [resolve?, if_pos writable.properPath, shape, follow?_append, found, Option.bind_some, follow?,
    if_pos (by simp [there, properName, filled])]
  rfl

end Disk
end Files
end BlogMigration
