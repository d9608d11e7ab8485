import BlogMigration.Files.Path
import BlogMigration.Files.Storage

/-!
# Disks

A disk as a value: the entries at its places, and the folder in which paths start. A name can be
followed from folders only, and a file is written into a folder that is there. There are no links,
neither symbolic nor hard ones: a path leads to the place that its names spell, and what stands
there stands nowhere else. A disk with links is a volume.
-/

namespace BlogMigration
namespace Files

/-- The entries of a disk and its working folder. The top of the disk is a folder without an
entry. -/
structure Disk where
  entries : List (Place × Entry)
  workingFolder : Place

namespace Disk

def get? (disk : Disk) (place : Place) : Option Entry :=
  if place = [] then some .folder else disk.entries.lookup place

def put (place : Place) (entry : Entry) (disk : Disk) : Disk :=
  { disk with entries := disk.entries.filter (fun old => old.1 ≠ place) ++ [(place, entry)] }

theorem lookup_filter_ne
    {place other : Place}
    (entries : List (Place × Entry))
    (h : other ≠ place) :
    (entries.filter fun old => old.1 ≠ place).lookup other = entries.lookup other := by
  induction entries with
  | nil => rfl
  | cons first rest ih =>
    obtain ⟨key, entry⟩ := first
    by_cases same : key = place
    · have other_key : (other == key) = false := by simp [same, h]
      rw [List.filter_cons_of_neg (by simp [same]), List.lookup_cons, other_key, ih]
    · rw [List.filter_cons_of_pos (by simp [same]), List.lookup_cons, List.lookup_cons, ih]

theorem get?_put
    (disk : Disk)
    {place : Place}
    (entry : Entry)
    (h : place ≠ []) :
    (disk.put place entry).get? place = some entry := by
  have absent : (disk.entries.filter fun old => old.1 ≠ place).lookup place = none := by
    rw [List.lookup_eq_none_iff]
    intro old member
    have apart : old.1 ≠ place := by simpa using (List.mem_filter.mp member).2
    simpa using Ne.symm apart
  rw [get?, if_neg h, put, List.lookup_append, absent, Option.none_or, List.lookup_cons_self]

theorem get?_put_of_ne
    (disk : Disk)
    {place other : Place}
    (entry : Entry)
    (h : other ≠ place) :
    (disk.put place entry).get? other = disk.get? other := by
  have other_place : (other == place) = false := by simp [h]
  rw [get?, get?, put, List.lookup_append, lookup_filter_ne disk.entries h, List.lookup_cons,
    other_place, List.lookup_nil, Option.or_none]

def isFolder (disk : Disk) (place : Place) : Bool :=
  match disk.get? place with
  | some .folder => true
  | _ => false

theorem isFolder_iff (disk : Disk) (place : Place) :
    disk.isFolder place = true ↔ disk.get? place = some .folder := by
  simp only [isFolder]
  split <;> simp_all

def isFilled (disk : Disk) (place : Place) : Bool :=
  disk.entries.any fun entry => entry.1 ≠ [] && entry.1.dropLast = place

def follow? (disk : Disk) (place : Place) : List String → Option Place
  | [] => some place
  | name :: rest =>
    let next := place.follow name
    if disk.isFolder place && isName name && (disk.get? next).isSome then
      disk.follow? next rest
    else none

def resolve? (disk : Disk) (path : String) : Option Place :=
  if isPath path then disk.follow? (startOf disk.workingFolder path) (pathNames path) else none

def look? (disk : Disk) (path : String) : Option Kind := do
  let place ← disk.resolve? path
  match ← disk.get? place with
  | .file _ => return .file
  | .folder => return if disk.isFilled place then .filledFolder else .emptyFolder

def read? (disk : Disk) (path : String) : Option Entry :=
  (disk.resolve? path).bind disk.get?

def makeFolders (disk : Disk) (place : Place) : List String → Bool × Disk
  | [] => (true, disk)
  | name :: rest =>
    let next := place.follow name
    match disk.get? next with
    | some .folder => disk.makeFolders next rest
    | some (.file _) => (false, disk)
    | none => if isName name then (disk.put next .folder).makeFolders next rest else (false, disk)

def makeFolder (disk : Disk) (path : String) : Bool × Disk :=
  if isPath path then disk.makeFolders (startOf disk.workingFolder path) (pathNames path)
  else (false, disk)

/-- The place at which a path has a file written, unless a folder stands there. -/
def writable? (disk : Disk) (path : String) : Option Place := do
  let names := pathNames path
  let name ← names.getLast?
  let folder ← disk.follow? (startOf disk.workingFolder path) names.dropLast
  let place := folder.follow name
  if isPath path && isName name && disk.isFolder folder && !disk.isFolder place then some place
  else none

def write (disk : Disk) (path : String) (bytes : ByteArray) : Bool × Disk :=
  match disk.writable? path with
  | some place => (true, disk.put place (.file bytes))
  | none => (false, disk)

end Disk

instance : Storage (StateM Disk) where
  look? path := fun disk => (disk.look? path, disk)
  read? path := fun disk => (disk.read? path, disk)
  makeFolder path := fun disk => disk.makeFolder path
  write path bytes := fun disk => disk.write path bytes

end Files
end BlogMigration
