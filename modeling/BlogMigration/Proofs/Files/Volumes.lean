import BlogMigration.Files.Volume
import BlogMigration.Proofs.Files.Paths

/-!
# Changes of volumes

What requests leave of a volume. Nodes are only added, and never a link, so a path that leads to a
place keeps leading there. Making folders changes no file, and writing changes at most the file
that the path leads to, under whatever names it stands elsewhere.
-/

namespace BlogMigration
namespace Files

namespace Volume

/-- A way from a place by names, with at most so many links on it. It goes on below what stands at
a name, or where the link there leads, and ends where nothing stands. -/
inductive Way (volume : Volume) : Nat → Place → List String → Place → Prop where
  | here {links : Nat} {place : Place} : Way volume links place [] place
  | down {links : Nat} {place last : Place} {name : String} {rest : List String} {node : Node}
      (folder : volume.isFolder place = true) (proper : isName name = true)
      (found : volume.get? (place.follow name) = some node) (plain : ∀ path, node ≠ .link path)
      (way : Way volume links (place.follow name) rest last) :
      Way volume links place (name :: rest) last
  | link {links : Nat} {place last : Place} {name path : String} {rest : List String}
      (folder : volume.isFolder place = true) (proper : isName name = true)
      (found : volume.get? (place.follow name) = some (.link path)) (properPath : isPath path = true)
      (way : Way volume links (startOf place path) (pathNames path ++ rest) last) :
      Way volume (links + 1) place (name :: rest) last
  | free {links : Nat} {place : Place} {name : String}
      (folder : volume.isFolder place = true) (proper : isName name = true)
      (missing : volume.get? (place.follow name) = none) :
      Way volume links place [name] (place.follow name)

/-- A volume has all nodes of another one, no other links, and no other names for its files. -/
structure Grows (old new : Volume) : Prop where
  workingFolder : new.workingFolder = old.workingFolder
  stays : ∀ {place node}, old.get? place = some node → new.get? place = some node
  link : ∀ {place path}, new.get? place = some (.link path) → old.get? place = some (.link path)
  single : ∀ {place other number}, new.get? place = some (.file number) →
    new.get? other = some (.file number) →
      place = other ∨ old.get? place = some (.file number) ∧ old.get? other = some (.file number)

/-- One of a program's own paths leads to the file with a number. -/
def Reaches (own : String → Prop) (volume : Volume) (number : Nat) : Prop :=
  ∃ path place, own path ∧ volume.resolve? path = some place ∧
    volume.get? place = some (.file number)

/-- A volume has grown, and every file to which none of the program's own paths leads has the names
and the bytes that it had. -/
structure ChangesOnly (own : String → Prop) (old new : Volume) : Prop where
  grows : Grows old new
  names : ∀ {number place}, ¬ new.Reaches own number →
    new.get? place = some (.file number) → old.get? place = some (.file number)
  bytes : ∀ {number}, ¬ new.Reaches own number → new.files[number]? = old.files[number]?

variable {volume old new : Volume} {own : String → Prop} {links : Nat} {place last : Place}
  {names : List String}

theorem isFolder_iff : volume.isFolder place = true ↔ volume.get? place = some .folder :=
  decide_eq_true_iff

/-! ## Ways -/

theorem way_of_walk {jump : Place → List String → Option Place}
    (jumps : ∀ {place names last}, jump place names = some last →
      ∃ fewer, links = fewer + 1 ∧ volume.Way fewer place names last)
    (walked : volume.walk jump place names = some last) : volume.Way links place names last := by
  induction names generalizing place with
  | nil =>
      cases walked
      exact .here
  | cons name rest ih =>
      rw [walk] at walked
      split at walked
      · next able =>
        obtain ⟨folder, proper⟩ := Bool.and_eq_true_iff.mp able
        split at walked
        · next path found =>
          split at walked
          · next properPath =>
            obtain ⟨fewer, rfl, way⟩ := jumps walked
            exact .link folder proper found properPath way
          · cases walked
        · next node plain found => exact .down folder proper found plain (ih walked)
        · next missing =>
          split at walked
          · next empty =>
            rw [List.isEmpty_iff.mp empty]
            cases walked
            exact .free folder proper missing
          · cases walked
      · cases walked

theorem exists_reach?_eq_walk (volume : Volume) (links : Nat) :
    ∃ jump, volume.reach? links = volume.walk jump := by
  cases links <;> exact ⟨_, rfl⟩

theorem Way.reach? (way : volume.Way links place names last) :
    volume.reach? links place names = some last := by
  induction way with
  | @here links place =>
      obtain ⟨jump, shape⟩ := exists_reach?_eq_walk volume links
      rw [shape]
      rfl
  | @down links place last name rest node folder proper found plain way ih =>
      obtain ⟨jump, shape⟩ := exists_reach?_eq_walk volume links
      rw [shape] at ih ⊢
      rw [walk, if_pos (by simp [folder, proper]), found]
      cases node with
      | file number => exact ih
      | folder => exact ih
      | link path => exact absurd rfl (plain path)
  | @link links place last name path rest folder proper found properPath way ih =>
      rw [Volume.reach?, walk, if_pos (by simp [folder, proper]), found]
      dsimp only
      rw [if_pos properPath]
      exact ih
  | @free links place name folder proper missing =>
      obtain ⟨jump, shape⟩ := exists_reach?_eq_walk volume links
      rw [shape, walk, if_pos (by simp [folder, proper]), missing]
      rfl

/-- Names lead to a place exactly by a way. -/
theorem reach?_eq_some_iff :
    volume.reach? links place names = some last ↔ volume.Way links place names last := by
  constructor
  · intro reached
    induction links generalizing place names last with
    | zero => exact way_of_walk (fun impossible => by cases impossible) reached
    | succ links ih => exact way_of_walk (fun jumped => ⟨links, rfl, ih jumped⟩) reached
  · exact Way.reach?

/-! ## Ways in grown volumes -/

theorem Grows.isFolder (grows : Grows old new) (folder : old.isFolder place = true) :
    new.isFolder place = true :=
  isFolder_iff.mpr (grows.stays (isFolder_iff.mp folder))

/-- What is new on a way stands at its end and is no link, so that the way ends where it did. -/
theorem Grows.way (grows : Grows old new) (way : old.Way links place names last) :
    new.Way links place names last := by
  induction way with
  | here => exact .here
  | down folder proper found plain way ih =>
      exact .down (grows.isFolder folder) proper (grows.stays found) plain ih
  | link folder proper found properPath way ih =>
      exact .link (grows.isFolder folder) proper (grows.stays found) properPath ih
  | @free links place name folder proper missing =>
      cases found : new.get? (place.follow name) with
      | none => exact .free (grows.isFolder folder) proper found
      | some node =>
          refine .down (grows.isFolder folder) proper found ?_ .here
          rintro path rfl
          rw [grows.link found] at missing
          cases missing

theorem Grows.reach? (grows : Grows old new)
    (reached : old.reach? links place names = some last) :
    new.reach? links place names = some last :=
  (grows.way (reach?_eq_some_iff.mp reached)).reach?

theorem Grows.reachNames? (grows : Grows old new) {path : String}
    (reached : old.reachNames? path names = some last) :
    new.reachNames? path names = some last := by
  rw [Volume.reachNames?, grows.workingFolder]
  exact grows.reach? reached

/-- A path leads where it led. -/
theorem Grows.resolve? (grows : Grows old new) {path : String}
    (resolved : old.resolve? path = some last) : new.resolve? path = some last := by
  rw [Volume.resolve?] at resolved ⊢
  split at resolved
  · next proper =>
    rw [if_pos proper]
    exact grows.reachNames? resolved
  · cases resolved

theorem Reaches.grow {number : Nat} (reaches : old.Reaches own number) (grows : Grows old new) :
    new.Reaches own number := by
  obtain ⟨path, place, mine, resolved, found⟩ := reaches
  exact ⟨path, place, mine, grows.resolve? resolved, grows.stays found⟩

/-! ## Relations between volumes -/

theorem Grows.refl (volume : Volume) : Grows volume volume :=
  ⟨rfl, id, id, fun found its => .inr ⟨found, its⟩⟩

theorem Grows.trans {first second third : Volume} (earlier : Grows first second)
    (later : Grows second third) : Grows first third where
  workingFolder := later.workingFolder.trans earlier.workingFolder
  stays found := later.stays (earlier.stays found)
  link found := earlier.link (later.link found)
  single found its := by
    rcases later.single found its with same | ⟨middle, itsMiddle⟩
    · exact .inl same
    · exact earlier.single middle itsMiddle

theorem ChangesOnly.refl (volume : Volume) : ChangesOnly own volume volume :=
  ⟨.refl volume, fun _ found => found, fun _ => rfl⟩

/-- A file that the program's own paths do not reach in the end was never reached by them. -/
theorem ChangesOnly.trans {first second third : Volume} (earlier : ChangesOnly own first second)
    (later : ChangesOnly own second third) : ChangesOnly own first third where
  grows := earlier.grows.trans later.grows
  names foreign found :=
    earlier.names (fun reached => foreign (reached.grow later.grows)) (later.names foreign found)
  bytes foreign :=
    (later.bytes foreign).trans
      (earlier.bytes fun reached => foreign (reached.grow later.grows))

instance : Std.Refl (ChangesOnly own) :=
  ⟨.refl⟩

instance : Trans (ChangesOnly own) (ChangesOnly own) (ChangesOnly own) :=
  ⟨.trans⟩

theorem file?_eq_none
    (other : ∀ number, volume.get? place ≠ some (.file number)) : volume.file? place = none := by
  rw [file?]
  split
  · next number found => exact absurd found (other number)
  · rfl

/-- The two volumes have the same files, place by place, but for those that the program reaches. -/
theorem ChangesOnly.file?_eq_or (changes : ChangesOnly own old new) (place : Place) :
    new.file? place = old.file? place ∨
      ∃ number, new.get? place = some (.file number) ∧ new.Reaches own number := by
  by_cases reached : ∃ number, new.get? place = some (.file number) ∧ new.Reaches own number
  · exact .inr reached
  · left
    by_cases file : ∃ number, new.get? place = some (.file number)
    · obtain ⟨number, found⟩ := file
      have foreign : ¬ new.Reaches own number := fun mine => reached ⟨number, found, mine⟩
      rw [file?, file?, found, changes.names foreign found]
      exact changes.bytes foreign
    · have none : ∀ number, new.get? place ≠ some (.file number) :=
        fun number found => file ⟨number, found⟩
      rw [file?_eq_none none,
        file?_eq_none fun number found => none number (changes.grows.stays found)]

/-! ## Added nodes -/

section
variable {node : Node} (added : new.nodes = old.nodes ++ [(place, node)])
include added

/-- A node that is added stands behind the ones that are there. -/
theorem get?_of_added (other : Place) :
    new.get? other = (old.get? other).or (if other = place then some node else none) := by
  rw [get?, get?, added, List.lookup_append, List.lookup_cons, List.lookup_nil]
  by_cases top : other = []
  · rw [if_pos top, if_pos top]
    rfl
  · rw [if_neg top, if_neg top]
    by_cases same : other = place
    · simp [same]
    · simp [beq_eq_false_iff_ne.mpr same, same]

theorem get?_eq_some_iff_of_added {other : Place} {found : Node} :
    new.get? other = some found ↔
      old.get? other = some found ∨ old.get? other = none ∧ other = place ∧ found = node := by
  rw [get?_of_added added, Option.or_eq_some_iff]
  split <;> simp_all [eq_comm]

theorem get?_eq_of_added {other : Place} (apart : other ≠ place) :
    new.get? other = old.get? other := by
  rw [get?_of_added added, if_neg apart, Option.or_none]

end

theorem get?_addFolder_eq_some_iff {other : Place} {node : Node} :
    (volume.addFolder place).get? other = some node ↔
      volume.get? other = some node ∨
        volume.get? other = none ∧ other = place ∧ node = .folder :=
  get?_eq_some_iff_of_added rfl

theorem get?_addFile_eq_some_iff {other : Place} {bytes : ByteArray} {node : Node} :
    (volume.addFile place bytes).get? other = some node ↔
      volume.get? other = some node ∨
        volume.get? other = none ∧ other = place ∧ node = .file volume.files.length :=
  get?_eq_some_iff_of_added rfl

theorem get?_setBytes (volume : Volume) (number : Nat) (bytes : ByteArray) (place : Place) :
    (volume.setBytes number bytes).get? place = volume.get? place :=
  rfl

theorem mem_nodes_of_get? {node : Node} (found : volume.get? place = some node)
    (other : node ≠ .folder) : (place, node) ∈ volume.nodes := by
  rw [get?] at found
  split at found
  · cases found
    exact absurd rfl other
  · obtain ⟨front, back, shape, -⟩ := List.lookup_eq_some_iff.mp found
    simp [shape]

/-- The numbers of the files that stand somewhere are used up. -/
theorem number_lt {number : Nat} (found : volume.get? place = some (.file number)) :
    number < volume.files.length :=
  volume.numbered place number (mem_nodes_of_get? found nofun)

/-- A volume grows by a node that is no link and no further name of a file. -/
theorem Grows.of_added {node : Node} (workingFolder : new.workingFolder = old.workingFolder)
    (added : new.nodes = old.nodes ++ [(place, node)]) (plain : ∀ path, node ≠ .link path)
    (fresh : ∀ {number other}, node = .file number → old.get? other ≠ some (.file number)) :
    Grows old new where
  workingFolder := workingFolder
  stays found := (get?_eq_some_iff_of_added added).mpr (.inl found)
  link found := by
    rcases (get?_eq_some_iff_of_added added).mp found with there | ⟨-, -, linked⟩
    · exact there
    · exact absurd linked.symm (plain _)
  single found its := by
    rcases (get?_eq_some_iff_of_added added).mp found with there | ⟨-, rfl, same⟩
    · rcases (get?_eq_some_iff_of_added added).mp its with itsThere | ⟨-, -, same⟩
      · exact .inr ⟨there, itsThere⟩
      · exact absurd there (fresh same.symm)
    · rcases (get?_eq_some_iff_of_added added).mp its with itsThere | ⟨-, rfl, -⟩
      · exact absurd itsThere (fresh same.symm)
      · exact .inl rfl

theorem grows_addFolder (volume : Volume) (place : Place) :
    Grows volume (volume.addFolder place) :=
  .of_added rfl rfl nofun nofun

/-- The number of a new file is that of no other one. -/
theorem grows_addFile (volume : Volume) (place : Place) (bytes : ByteArray) :
    Grows volume (volume.addFile place bytes) := by
  refine .of_added rfl rfl nofun ?_
  rintro _ other ⟨⟩ found
  exact Nat.lt_irrefl _ (number_lt found)

theorem grows_setBytes (volume : Volume) (number : Nat) (bytes : ByteArray) :
    Grows volume (volume.setBytes number bytes) :=
  ⟨rfl, id, id, fun found its => .inr ⟨found, its⟩⟩

/-! ## Requests -/

theorem changesOnly_addFolder (volume : Volume) (place : Place) :
    ChangesOnly own volume (volume.addFolder place) where
  grows := grows_addFolder volume place
  names _ found := by
    rcases get?_addFolder_eq_some_iff.mp found with old | ⟨-, -, impossible⟩
    · exact old
    · cases impossible
  bytes _ := rfl

theorem changesOnly_makeFolders (volume : Volume) (path : String) (front names : List String) :
    ChangesOnly own volume (volume.makeFolders path front names).2 := by
  induction names generalizing volume front with
  | nil => exact .refl volume
  | cons name rest ih =>
      rw [makeFolders]
      split
      · exact ih volume _
      · split
        · next place _ => exact (changesOnly_addFolder volume place).trans (ih _ _)
        · exact .refl volume

theorem changesOnly_makeFolder (volume : Volume) (path : String) :
    ChangesOnly own volume (volume.makeFolder path).2 := by
  rw [makeFolder]
  split
  · exact changesOnly_makeFolders volume path [] _
  · exact .refl volume

theorem changesOnly_addFile {path : String} (mine : own path)
    (resolved : volume.resolve? path = some place) (free : volume.get? place = none)
    (bytes : ByteArray) : ChangesOnly own volume (volume.addFile place bytes) := by
  have grows := grows_addFile volume place bytes
  have reached : (volume.addFile place bytes).Reaches own volume.files.length := by
    exact ⟨path, place, mine, grows.resolve? resolved,
      get?_addFile_eq_some_iff.mpr (.inr ⟨free, rfl, rfl⟩)⟩
  refine ⟨grows, fun {number other} foreign found => ?_, fun {number} foreign => ?_⟩
  · rcases get?_addFile_eq_some_iff.mp found with old | ⟨-, -, fresh⟩
    · exact old
    · cases fresh
      exact absurd reached foreign
  · have other : number ≠ volume.files.length := by
      rintro rfl
      exact foreign reached
    rw [addFile, List.getElem?_append]
    split
    · rfl
    · rw [List.getElem?_eq_none (by simp; omega), List.getElem?_eq_none (by omega)]

theorem changesOnly_setBytes {path : String} {number : Nat} (mine : own path)
    (resolved : volume.resolve? path = some place)
    (found : volume.get? place = some (.file number)) (bytes : ByteArray) :
    ChangesOnly own volume (volume.setBytes number bytes) := by
  have grows := grows_setBytes volume number bytes
  have reached : (volume.setBytes number bytes).Reaches own number :=
    ⟨path, place, mine, grows.resolve? resolved, found⟩
  refine ⟨grows, fun _ there => there, fun {other} foreign => ?_⟩
  have apart : number ≠ other := by
    rintro rfl
    exact foreign reached
  exact List.getElem?_set_ne apart

theorem changesOnly_write {path : String} (mine : own path)
    (bytes : ByteArray) : ChangesOnly own volume (volume.write path bytes).2 := by
  rw [write]
  split
  · exact .refl volume
  · next place resolved =>
    split
    · next number found => exact changesOnly_setBytes mine resolved found bytes
    · next free => exact changesOnly_addFile mine resolved free bytes
    · exact .refl volume

end Volume
end Files
end BlogMigration
