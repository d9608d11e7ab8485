import BlogMigration.Proofs.Files.Folders
import BlogMigration.Proofs.Files.Ways

/-!
# Volumes without links

A volume without links, in which no file has two names, shows a disk: the two answer every request
alike, and what the request makes of the one shows what it makes of the other.
-/

namespace BlogMigration
namespace Files

namespace Volume

/-- A volume has the entries of a disk, none of them a link or a further name of a file. Its working
folder is there, and all names in it are proper. -/
structure Shows (volume : Volume) (disk : Disk) : Prop where
  workingFolder : disk.workingFolder = volume.workingFolder
  get? : ∀ place, disk.get? place = volume.unlinked? place
  link : ∀ {place path}, volume.get? place ≠ some (.link path)
  single : ∀ {place other number}, volume.get? place = some (.file number) →
    volume.get? other = some (.file number) → place = other
  start : volume.isFolder volume.workingFolder = true
  proper : ∀ {place node}, volume.get? place = some node → ∀ name ∈ place, isName name = true

variable {volume : Volume} {disk : Disk} {links : Nat} {place last : Place}
  {front names : List String}

/-! ## Entries -/

theorem unlinked?_eq_some_folder_iff :
    volume.unlinked? place = some .folder ↔ volume.get? place = some .folder := by
  rw [unlinked?]
  split <;> simp_all

theorem Shows.isFolder (shows : volume.Shows disk) (place : Place) :
    disk.isFolder place = volume.isFolder place := by
  rw [Bool.eq_iff_iff, disk.isFolder_iff, isFolder_iff, shows.get?, unlinked?_eq_some_folder_iff]

theorem Shows.isSome (shows : volume.Shows disk) (place : Place) :
    (disk.get? place).isSome = (volume.get? place).isSome := by
  rw [shows.get?, unlinked?]
  cases found : volume.get? place with
  | none => rfl
  | some node =>
      cases node with
      | folder => rfl
      | file number => simp [number_lt found]
      | link path => exact absurd found shows.link

theorem any_isBelow_iff {α : Type} {entries : List (Place × α)} :
    (entries.any fun entry => entry.1 ≠ [] && entry.1.dropLast = place) = true ↔
      ∃ other, (other ≠ [] ∧ other.dropLast = place) ∧ (entries.lookup other).isSome = true := by
  simp only [List.any_eq_true, Bool.and_eq_true, decide_eq_true_eq]
  constructor
  · rintro ⟨entry, member, isBelow⟩
    refine ⟨entry.1, isBelow, ?_⟩
    rw [Option.isSome_iff_ne_none, ne_eq, List.lookup_eq_none_iff]
    exact fun absent => by simpa using absent entry member
  · rintro ⟨other, isBelow, there⟩
    obtain ⟨found, shape⟩ := Option.isSome_iff_exists.mp there
    obtain ⟨before, after, rfl, -⟩ := List.lookup_eq_some_iff.mp shape
    exact ⟨(other, found), by simp, isBelow⟩

theorem Shows.isFilled (shows : volume.Shows disk) (place : Place) :
    disk.isFilled place = volume.isFilled place := by
  rw [Bool.eq_iff_iff, Disk.isFilled, Volume.isFilled, any_isBelow_iff, any_isBelow_iff]
  have same : ∀ other, other ≠ [] →
      (disk.entries.lookup other).isSome = (volume.nodes.lookup other).isSome := by
    intro other lower
    have there := shows.isSome other
    rwa [Disk.get?, Volume.get?, if_neg lower, if_neg lower] at there
  constructor
  · rintro ⟨other, isBelow, there⟩
    exact ⟨other, isBelow, same other isBelow.1 ▸ there⟩
  · rintro ⟨other, isBelow, there⟩
    exact ⟨other, isBelow, (same other isBelow.1).symm ▸ there⟩

/-! ## Ways -/

theorem Shows.way (shows : volume.Shows disk) (followed : disk.follow? place names = some last) :
    volume.Way links place names last := by
  induction names generalizing place with
  | nil =>
      cases followed
      exact .here
  | cons name rest ih =>
      rw [Disk.follow?] at followed
      split at followed
      · next able =>
        simp only [Bool.and_eq_true] at able
        obtain ⟨⟨folder, proper⟩, there⟩ := able
        rw [shows.isFolder] at folder
        rw [shows.isSome] at there
        obtain ⟨node, found⟩ := Option.isSome_iff_exists.mp there
        refine .down folder proper found ?_ (ih followed)
        rintro path rfl
        exact shows.link found
      · cases followed

theorem Shows.follow? (shows : volume.Shows disk) (way : volume.Way links place names last)
    (there : (volume.get? last).isSome = true) : disk.follow? place names = some last := by
  induction way with
  | here => rfl
  | @down links place last name rest node folder proper found plain way ih =>
      rw [Disk.follow?, if_pos (by simp [shows.isFolder, shows.isSome, folder, proper, found])]
      exact ih there
  | link folder proper found => exact absurd found shows.link
  | free folder proper missing =>
      rw [missing] at there
      cases there

theorem isSome_of_follow? (followed : disk.follow? place names = some last) (more : names ≠ []) :
    (disk.get? last).isSome = true := by
  induction names generalizing place with
  | nil => exact absurd rfl more
  | cons name rest ih =>
      rw [Disk.follow?] at followed
      split at followed
      · next able =>
        simp only [Bool.and_eq_true] at able
        cases rest with
        | nil =>
            cases followed
            exact able.2
        | cons next others => exact ih followed (List.cons_ne_nil next others)
      · cases followed

theorem Shows.resolve?_eq_some_iff (shows : volume.Shows disk) {path : String} :
    disk.resolve? path = some last ↔
      volume.resolve? path = some last ∧ (volume.get? last).isSome = true := by
  rw [Disk.resolve?, resolve?, shows.workingFolder]
  by_cases proper : isPath path = true
  · rw [if_pos proper, if_pos proper]
    constructor
    · intro followed
      have there := isSome_of_follow? followed (pathNames_ne_nil path)
      rw [shows.isSome] at there
      exact ⟨(shows.way followed).reach?, there⟩
    · rintro ⟨reached, there⟩
      exact shows.follow? (reach?_eq_some_iff.mp reached) there
  · rw [if_neg proper, if_neg proper]
    simp

/-! ## Looking -/

theorem Shows.resolve?_eq (shows : volume.Shows disk) (path : String) :
    disk.resolve? path =
      (volume.resolve? path).filter fun place => (disk.get? place).isSome := by
  apply Option.ext
  intro last
  rw [shows.resolve?_eq_some_iff, Option.filter_eq_some_iff, shows.isSome]

/-- Nothing is seen of a path that leads to nothing. -/
theorem Shows.bind_resolve? {α : Type} (shows : volume.Shows disk) (path : String)
    {view : Place → Option α} (blank : ∀ place, disk.get? place = none → view place = none) :
    (disk.resolve? path).bind view = (volume.resolve? path).bind view := by
  rw [shows.resolve?_eq]
  cases volume.resolve? path with
  | none => rfl
  | some place =>
      rw [Option.filter_some]
      split
      · rfl
      · next missing =>
        rw [Option.bind_some, blank place (by simpa using missing)]
        rfl

theorem Shows.read? (shows : volume.Shows disk) (path : String) :
    disk.read? path = volume.read? path := by
  have same : volume.unlinked? = disk.get? := funext fun place => (shows.get? place).symm
  rw [Disk.read?, Volume.read?, same]
  exact shows.bind_resolve? path fun _ => id

theorem Shows.look? (shows : volume.Shows disk) (path : String) :
    disk.look? path = volume.look? path := by
  have same : volume.unlinked? = disk.get? := funext fun place => (shows.get? place).symm
  have filled : volume.isFilled = disk.isFilled := funext fun place => (shows.isFilled place).symm
  rw [Disk.look?, Volume.look?, same, filled]
  refine shows.bind_resolve? path fun place missing => ?_
  rw [missing]
  rfl

/-! ## Changes -/

theorem ne_top_of_missing (missing : volume.get? place = none) : place ≠ [] := by
  rintro rfl
  cases missing

/-- A volume that has grown shows a disk if it has the entries of the disk and proper names. -/
theorem Shows.grow {next : Volume} {changed : Disk} (shows : volume.Shows disk)
    (grows : Grows volume next) (workingFolder : changed.workingFolder = disk.workingFolder)
    (entries : ∀ other, changed.get? other = next.unlinked? other)
    (proper : ∀ {other node}, next.get? other = some node →
      volume.get? other = some node ∨ ∀ name ∈ other, isName name = true) :
    next.Shows changed where
  workingFolder := by rw [workingFolder, shows.workingFolder, grows.workingFolder]
  get? := entries
  link found := shows.link (grows.link found)
  single found its := by
    rcases grows.single found its with same | ⟨old, itsOld⟩
    · exact same
    · exact shows.single old itsOld
  start := by
    rw [grows.workingFolder]
    exact grows.isFolder shows.start
  proper found := by
    rcases proper found with old | new
    · exact shows.proper old
    · exact new

theorem Shows.addFolder (shows : volume.Shows disk) (missing : volume.get? place = none)
    (proper : ∀ name ∈ place, isName name = true) :
    (volume.addFolder place).Shows (disk.put place .folder) := by
  refine shows.grow (grows_addFolder volume place) rfl (fun other => ?_) fun found => ?_
  · by_cases same : other = place
    · rw [same, Disk.get?_put disk _ (ne_top_of_missing missing)]
      exact (unlinked?_eq_some_folder_iff.mpr
        (get?_addFolder_eq_some_iff.mpr (.inr ⟨missing, rfl, rfl⟩))).symm
    · have stays : (volume.addFolder place).get? other = volume.get? other :=
        get?_eq_of_added rfl same
      rw [Disk.get?_put_of_ne disk _ same, shows.get?, unlinked?, unlinked?, stays]
      rfl
  · rcases get?_addFolder_eq_some_iff.mp found with old | ⟨-, rfl, -⟩
    · exact .inl old
    · exact .inr proper

theorem Shows.addFile (shows : volume.Shows disk) (missing : volume.get? place = none)
    (proper : ∀ name ∈ place, isName name = true) (bytes : ByteArray) :
    (volume.addFile place bytes).Shows (disk.put place (.file bytes)) := by
  refine shows.grow (grows_addFile volume place bytes) rfl (fun other => ?_) fun found => ?_
  · by_cases same : other = place
    · rw [same, Disk.get?_put disk _ (ne_top_of_missing missing), unlinked?,
        get?_addFile_eq_some_iff.mpr (.inr ⟨missing, rfl, rfl⟩)]
      simp [Volume.addFile]
    · have stays : (volume.addFile place bytes).get? other = volume.get? other :=
        get?_eq_of_added rfl same
      rw [Disk.get?_put_of_ne disk _ same, shows.get?, unlinked?, unlinked?, stays]
      cases found : volume.get? other with
      | none => rfl
      | some node =>
          cases node with
          | folder => rfl
          | link path => rfl
          | file number =>
              have before : (volume.files ++ [bytes])[number]? = volume.files[number]? :=
                List.getElem?_append_left (number_lt found)
              simp [Volume.addFile, before]
  · rcases get?_addFile_eq_some_iff.mp found with old | ⟨-, rfl, -⟩
    · exact .inl old
    · exact .inr proper

theorem Shows.setBytes {number : Nat} (shows : volume.Shows disk)
    (found : volume.get? place = some (.file number)) (bytes : ByteArray) :
    (volume.setBytes number bytes).Shows (disk.put place (.file bytes)) := by
  have lower : place ≠ [] := by
    rintro rfl
    cases found
  refine shows.grow (grows_setBytes volume number bytes) rfl (fun other => ?_) .inl
  by_cases same : other = place
  · rw [same, Disk.get?_put disk _ lower, unlinked?, get?_setBytes, found]
    simp [Volume.setBytes, number_lt found]
  · rw [Disk.get?_put_of_ne disk _ same, shows.get?, unlinked?, unlinked?, get?_setBytes]
    cases there : volume.get? other with
    | none => rfl
    | some node =>
        cases node with
        | folder => rfl
        | link path => rfl
        | file its =>
            have apart : number ≠ its := by
              rintro rfl
              exact same (shows.single there found)
            simp [Volume.setBytes, apart]

/-! ## Making folders and writing files -/

theorem Shows.proper_follow {name : String} (shows : volume.Shows disk)
    (folder : volume.isFolder place = true) (proper : isName name = true) :
    ∀ other ∈ place.follow name, isName other = true := by
  have names := shows.proper (isFolder_iff.mp folder)
  unfold Place.follow
  split
  · exact names
  · split
    · exact fun other member => names other (List.dropLast_subset place member)
    · simpa [or_imp, forall_and] using ⟨names, proper⟩

/-- Nothing stands under a name that is not proper. -/
theorem Shows.get?_follow_eq_none {name : String} (shows : volume.Shows disk)
    (improper : ¬ isName name = true) : volume.get? (place.follow name) = none := by
  have plain : name ≠ "" ∧ name ≠ "." ∧ name ≠ ".." := by
    refine ⟨?_, ?_, ?_⟩ <;> rintro rfl <;> exact improper (by decide)
  rw [Place.follow_eq_append plain]
  cases found : volume.get? (place ++ [name]) with
  | none => rfl
  | some node => exact absurd (shows.proper found name (by simp)) improper

theorem Shows.of_way {name : String} (shows : volume.Shows disk)
    (way : volume.Way links place [name] last) :
    volume.isFolder place = true ∧ isName name = true ∧ last = place.follow name := by
  cases way with
  | down folder proper found plain rest =>
      cases rest
      exact ⟨folder, proper, rfl⟩
  | link folder proper found => exact absurd found shows.link
  | free folder proper missing => exact ⟨folder, proper, rfl⟩

/-- From a folder a proper name leads where it says. -/
theorem Shows.reachNames?_concat {path : String} (shows : volume.Shows disk)
    (reached : volume.reachNames? path front = some place) (folder : volume.isFolder place = true)
    (name : String) :
    volume.reachNames? path (front ++ [name]) =
      if isName name then some (place.follow name) else none := by
  have first := reach?_eq_some_iff.mp reached
  split
  · next proper => exact (first.concat folder proper fun _ => shows.link).reach?
  · next improper =>
    cases further : volume.reachNames? path (front ++ [name]) with
    | none => rfl
    | some last =>
        obtain ⟨middle, left, -, second⟩ := (reach?_eq_some_iff.mp further).split rfl
        exact absurd (shows.of_way second).2.1 improper

theorem vacant?_eq {path : String} (reached : volume.reachNames? path front = some place)
    (folder : volume.isFolder place = true) (name : String) :
    volume.vacant? path front name =
      if isName name && (volume.get? (place.follow name)).isNone then some (place.follow name)
      else none := by
  rw [vacant?, reached]
  simp [folder]

theorem Shows.makeFolders (shows : volume.Shows disk) {path : String}
    (reached : volume.reachNames? path front = some place) (folder : volume.isFolder place = true) :
    (disk.makeFolders place names).1 = (volume.makeFolders path front names).1 ∧
      (volume.makeFolders path front names).2.Shows (disk.makeFolders place names).2 := by
  induction names generalizing volume disk front place with
  | nil => exact ⟨rfl, shows⟩
  | cons name rest ih =>
      have further := shows.reachNames?_concat reached folder name
      have vacant := vacant?_eq reached folder name
      have entry := shows.get? (place.follow name)
      rw [Disk.makeFolders, Volume.makeFolders, further, vacant]
      by_cases proper : isName name = true
      · rw [if_pos proper] at further
        cases found : volume.get? (place.follow name) with
        | none =>
            have free : volume.isFolder (place.follow name) = false := by
              simp [Volume.isFolder, found]
            rw [found, proper] at vacant
            have made := reachNames?_addFolder vacant
            rw [unlinked?, found] at entry
            simp only [entry, proper, free, if_true, Option.any_some, Option.isNone_none,
              Bool.and_self, Bool.false_eq_true, if_false]
            exact ih (shows.addFolder found (shows.proper_follow folder proper)) made.1 made.2
        | some node =>
            cases node with
            | folder =>
                have there : volume.isFolder (place.follow name) = true := isFolder_iff.mpr found
                rw [unlinked?_eq_some_folder_iff.mpr found] at entry
                simp only [entry, proper, there, if_true, Option.any_some]
                exact ih shows further there
            | file number =>
                have taken : volume.isFolder (place.follow name) = false := by
                  simp [Volume.isFolder, found]
                rw [unlinked?, found] at entry
                simp [entry, proper, taken, number_lt found, shows]
            | link path => exact absurd found shows.link
      · have missing : volume.get? (place.follow name) = none :=
          shows.get?_follow_eq_none proper
        rw [unlinked?, missing] at entry
        simp [entry, proper, shows]

theorem Shows.makeFolder (shows : volume.Shows disk) (path : String) :
    (disk.makeFolder path).1 = (volume.makeFolder path).1 ∧
      (volume.makeFolder path).2.Shows (disk.makeFolder path).2 := by
  rw [Disk.makeFolder, Volume.makeFolder]
  split
  · have start : volume.isFolder (startOf volume.workingFolder path) = true := by
      unfold startOf
      split
      · rfl
      · exact shows.start
    have here : volume.reachNames? path [] = some (startOf volume.workingFolder path) :=
      Way.here.reach?
    rw [shows.workingFolder]
    exact shows.makeFolders here start
  · exact ⟨rfl, shows⟩

/-- A path leads to what stands, or may stand, in a folder under its last name. -/
theorem Shows.exists_folder {path name : String} (shows : volume.Shows disk)
    (shape : pathNames path = front ++ [name]) (resolved : volume.resolve? path = some last) :
    ∃ folder, disk.follow? (startOf volume.workingFolder path) front = some folder ∧
      volume.isFolder folder = true ∧ isPath path = true ∧ isName name = true ∧
      last = folder.follow name := by
  rw [Volume.resolve?] at resolved
  split at resolved
  · next properPath =>
    rw [shape] at resolved
    obtain ⟨folder, left, first, second⟩ := (reach?_eq_some_iff.mp resolved).split rfl
    obtain ⟨there, proper, rfl⟩ := shows.of_way second
    have followed := shows.follow? first (by rw [isFolder_iff.mp there]; rfl)
    exact ⟨folder, followed, there, properPath, proper, rfl⟩
  · cases resolved

/-- A file can be written on the disk where its path leads on the volume, but not at a folder. -/
theorem Shows.writable?_eq (shows : volume.Shows disk) (path : String) :
    disk.writable? path = (volume.resolve? path).filter fun place => !volume.isFolder place := by
  obtain ⟨front, name, shape⟩ := pathNames_eq_concat path
  apply Option.ext
  intro place
  rw [Option.filter_eq_some_iff, Bool.not_eq_true']
  simp only [Disk.writable?, shape, List.getLast?_concat, List.dropLast_concat,
    Option.bind_eq_bind, Option.bind_some, Option.bind_eq_some_iff, shows.workingFolder,
    shows.isFolder]
  constructor
  · rintro ⟨folder, followed, granted⟩
    split at granted
    · next able =>
      simp only [Bool.and_eq_true, Bool.not_eq_true'] at able
      obtain ⟨⟨⟨properPath, proper⟩, there⟩, free⟩ := able
      cases granted
      have first : volume.Way mostLinks (startOf volume.workingFolder path) front folder :=
        shows.way followed
      have way := first.concat there proper fun _ => shows.link
      rw [Volume.resolve?, if_pos properPath, shape]
      exact ⟨way.reach?, free⟩
    · cases granted
  · rintro ⟨resolved, free⟩
    obtain ⟨folder, followed, there, properPath, proper, rfl⟩ := shows.exists_folder shape resolved
    exact ⟨folder, followed, by simp [properPath, proper, there, free]⟩

theorem Shows.write (shows : volume.Shows disk) (path : String) (bytes : ByteArray) :
    (disk.write path bytes).1 = (volume.write path bytes).1 ∧
      (volume.write path bytes).2.Shows (disk.write path bytes).2 := by
  rw [Disk.write, Volume.write, shows.writable?_eq]
  cases resolved : volume.resolve? path with
  | none => exact ⟨rfl, shows⟩
  | some place =>
      rw [Option.filter_some]
      cases found : volume.get? place with
      | none =>
          obtain ⟨front, name, shape⟩ := pathNames_eq_concat path
          obtain ⟨folder, -, there, -, proper, rfl⟩ := shows.exists_folder shape resolved
          have names := shows.proper_follow there proper
          simp [Volume.isFolder, found, shows.addFile found names bytes]
      | some node =>
          cases node with
          | file number => simp [Volume.isFolder, found, shows.setBytes found bytes]
          | folder => simp [Volume.isFolder, found, shows]
          | link path => exact absurd found shows.link

/-! ## Volumes of disks -/

def bytesOf : Entry → ByteArray
  | .file bytes => bytes
  | .folder => .empty

/-- The nodes of entries that are numbered from a number on. -/
def nodesFrom (number : Nat) : List (Place × Entry) → List (Place × Node)
  | [] => []
  | (place, .file _) :: rest => (place, .file number) :: nodesFrom (number + 1) rest
  | (place, .folder) :: rest => (place, .folder) :: nodesFrom (number + 1) rest

theorem exists_of_mem_nodesFrom {entries : List (Place × Entry)} {number first : Nat}
    (member : (place, .file number) ∈ nodesFrom first entries) :
    ∃ index entry, number = first + index ∧ entries[index]? = some (place, entry) := by
  induction entries generalizing first with
  | nil => cases member
  | cons entry rest ih =>
      obtain ⟨other, entry⟩ := entry
      cases entry with
      | file bytes =>
          rcases List.mem_cons.mp member with same | later
          · cases same
            exact ⟨0, _, rfl, rfl⟩
          · obtain ⟨index, entry, rfl, found⟩ := ih later
            exact ⟨index + 1, entry, by omega, found⟩
      | folder =>
          rcases List.mem_cons.mp member with same | later
          · cases same
          · obtain ⟨index, entry, rfl, found⟩ := ih later
            exact ⟨index + 1, entry, by omega, found⟩

/-- A volume that has its files in the order of the entries of a disk. -/
def ofDisk (disk : Disk) : Volume where
  nodes := nodesFrom 0 disk.entries
  files := disk.entries.map fun entry => bytesOf entry.2
  workingFolder := disk.workingFolder
  numbered place number member := by
    obtain ⟨index, entry, rfl, found⟩ := exists_of_mem_nodesFrom member
    obtain ⟨inside, -⟩ := List.getElem?_eq_some_iff.mp found
    simpa using inside

/-- What a place has among entries and among their nodes. -/
inductive Numbers (entries : List (Place × Entry)) (first : Nat) (place : Place) :
    Option Entry → Option Node → Prop where
  | nothing : Numbers entries first place none none
  | folder : Numbers entries first place (some .folder) (some .folder)
  | file {index : Nat} {bytes : ByteArray} (found : entries[index]? = some (place, .file bytes)) :
      Numbers entries first place (some (.file bytes)) (some (.file (first + index)))

theorem Numbers.next {entries : List (Place × Entry)} {first : Nat} {entry : Option Entry}
    {node : Option Node} (numbers : Numbers entries (first + 1) place entry node)
    (before : Place × Entry) : Numbers (before :: entries) first place entry node := by
  cases numbers with
  | nothing => exact .nothing
  | folder => exact .folder
  | @file index bytes found =>
      rw [Nat.add_assoc, Nat.add_comm 1 index]
      exact .file found

theorem numbers_nodesFrom (entries : List (Place × Entry)) (first : Nat) (place : Place) :
    Numbers entries first place (entries.lookup place)
      ((nodesFrom first entries).lookup place) := by
  induction entries generalizing first with
  | nil => exact .nothing
  | cons entry rest ih =>
      obtain ⟨other, entry⟩ := entry
      by_cases same : place = other
      · cases entry with
        | file bytes =>
            simp only [nodesFrom, same, List.lookup_cons_self]
            exact @Numbers.file _ first _ 0 bytes rfl
        | folder =>
            simp only [nodesFrom, same, List.lookup_cons_self]
            exact .folder
      · have apart : (place == other) = false := beq_eq_false_iff_ne.mpr same
        cases entry <;> simp only [nodesFrom, List.lookup_cons, apart] <;>
          exact (ih (first + 1)).next _

theorem numbers_ofDisk (disk : Disk) (place : Place) :
    Numbers disk.entries 0 place (disk.get? place) ((ofDisk disk).get? place) := by
  rw [Disk.get?, Volume.get?]
  split
  · exact .folder
  · exact numbers_nodesFrom disk.entries 0 place

theorem unlinked?_ofDisk (disk : Disk) (place : Place) :
    (ofDisk disk).unlinked? place = disk.get? place := by
  have numbers := numbers_ofDisk disk place
  rw [unlinked?]
  generalize disk.get? place = entry at numbers
  generalize (ofDisk disk).get? place = node at numbers
  cases numbers with
  | nothing => rfl
  | folder => rfl
  | file found => simp [ofDisk, found, bytesOf]

/-- A disk is shown by a volume if its working folder is there and its names are proper. -/
theorem shows_ofDisk {disk : Disk} (start : disk.isFolder disk.workingFolder = true)
    (proper : ∀ {place entry}, disk.get? place = some entry → ∀ name ∈ place, isName name = true) :
    (ofDisk disk).Shows disk where
  workingFolder := rfl
  get? place := (unlinked?_ofDisk disk place).symm
  link {place path} found := by
    have numbers := numbers_ofDisk disk place
    rw [found] at numbers
    generalize disk.get? place = entry at numbers
    cases numbers
  single {place other number} found its := by
    obtain ⟨index, entry, rfl, there⟩ := exists_of_mem_nodesFrom (mem_nodes_of_get? found nofun)
    obtain ⟨second, _, same, itsThere⟩ := exists_of_mem_nodesFrom (mem_nodes_of_get? its nofun)
    have equal : second = index := by omega
    rw [equal, there] at itsThere
    cases itsThere
    rfl
  start := by
    rw [isFolder_iff, ← unlinked?_eq_some_folder_iff, unlinked?_ofDisk]
    exact (disk.isFolder_iff _).mp start
  proper {place node} found := by
    have numbers := numbers_ofDisk disk place
    rw [found] at numbers
    cases there : disk.get? place with
    | none =>
        rw [there] at numbers
        cases numbers
    | some entry => exact proper there

end Volume
end Files
end BlogMigration
