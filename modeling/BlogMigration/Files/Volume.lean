import BlogMigration.Files.Path
import BlogMigration.Files.Storage

/-!
# Volumes

A volume is a disk with links. One file can stand at several places, and a symbolic link stands for
what its own path leads to. So a path may lead out of every folder that its names spell, and what
is written by it ends up there.
-/

namespace BlogMigration
namespace Files

/-- What stands at a place of a volume: a file by its number, a folder, or a symbolic link by the
path that it stands for. Files with one number are one file, under several names. -/
inductive Node where
  | file (number : Nat)
  | folder
  | link (path : String)
  deriving DecidableEq, Repr

/-- The nodes of a volume, the bytes of its files by their numbers, and its working folder. The top
of a volume is a folder without a node. -/
structure Volume where
  nodes : List (Place × Node)
  files : List ByteArray
  workingFolder : Place
  numbered : ∀ place number, (place, .file number) ∈ nodes → number < files.length

namespace Volume

def mostLinks : Nat := 40

def get? (volume : Volume) (place : Place) : Option Node :=
  if place = [] then some .folder else volume.nodes.lookup place

/-- The bytes of the file at a place. Links are not followed. -/
def file? (volume : Volume) (place : Place) : Option ByteArray :=
  match volume.get? place with
  | some (.file number) => volume.files[number]?
  | _ => none

/-- What stands at a place, unless it is a link. -/
def unlinked? (volume : Volume) (place : Place) : Option Entry :=
  match volume.get? place with
  | some (.file number) => volume.files[number]?.map .file
  | some .folder => some .folder
  | _ => none

def isFolder (volume : Volume) (place : Place) : Bool :=
  volume.get? place = some .folder

def isFilled (volume : Volume) (place : Place) : Bool :=
  volume.nodes.any fun node => node.1 ≠ [] && node.1.dropLast = place

/-! ## Changes -/

def addFolder (volume : Volume) (place : Place) : Volume where
  nodes := volume.nodes ++ [(place, .folder)]
  files := volume.files
  workingFolder := volume.workingFolder
  numbered other number member := by
    rcases List.mem_append.mp member with old | new
    · exact volume.numbered other number old
    · simp at new

def addFile (volume : Volume) (place : Place) (bytes : ByteArray) : Volume where
  nodes := volume.nodes ++ [(place, .file volume.files.length)]
  files := volume.files ++ [bytes]
  workingFolder := volume.workingFolder
  numbered other number member := by
    rw [List.length_append]
    rcases List.mem_append.mp member with old | new
    · exact Nat.lt_add_right 1 (volume.numbered other number old)
    · have fresh : number = volume.files.length := by simp_all
      exact fresh ▸ Nat.lt_succ_self _

/-- Puts bytes into a file, under all of its names. -/
def setBytes (volume : Volume) (number : Nat) (bytes : ByteArray) : Volume where
  nodes := volume.nodes
  files := volume.files.set number bytes
  workingFolder := volume.workingFolder
  numbered place other member := by
    rw [List.length_set]
    exact volume.numbered place other member

/-! ## Ways -/

/-- The place that names lead to from a place, with `jump` for the names that are left at a link. At
the last name nothing need stand. -/
def walk (volume : Volume) (jump : Place → List String → Option Place) (place : Place) :
    List String → Option Place
  | [] => some place
  | name :: rest =>
    if volume.isFolder place && isName name then
      match volume.get? (place.follow name) with
      | some (.link path) =>
        if isPath path then jump (startOf place path) (pathNames path ++ rest) else none
      | some _ => volume.walk jump (place.follow name) rest
      | none => if rest.isEmpty then some (place.follow name) else none
    else none

def reach? (volume : Volume) : Nat → Place → List String → Option Place
  | 0 => volume.walk fun _ _ => none
  | links + 1 => volume.walk (volume.reach? links)

def reachNames? (volume : Volume) (path : String) (names : List String) : Option Place :=
  volume.reach? mostLinks (startOf volume.workingFolder path) names

/-- The place that a path leads to, at which nothing need stand. -/
def resolve? (volume : Volume) (path : String) : Option Place :=
  if isPath path then volume.reachNames? path (pathNames path) else none

/-! ## Requests -/

def look? (volume : Volume) (path : String) : Option Kind := do
  let place ← volume.resolve? path
  match ← volume.unlinked? place with
  | .file _ => return .file
  | .folder => return if volume.isFilled place then .filledFolder else .emptyFolder

def read? (volume : Volume) (path : String) : Option Entry :=
  (volume.resolve? path).bind volume.unlinked?

/-- The place of a folder that can be made for the last of names. A link is not followed there. -/
def vacant? (volume : Volume) (path : String) (front : List String) (name : String) :
    Option Place := do
  let place ← volume.reachNames? path front
  if volume.isFolder place && isName name && (volume.get? (place.follow name)).isNone then
    some (place.follow name)
  else none

/-- Makes the folders that are missing on the way of a path, from its first names to its last. -/
def makeFolders (volume : Volume) (path : String) (front : List String) :
    List String → Bool × Volume
  | [] => (true, volume)
  | name :: rest =>
    if (volume.reachNames? path (front ++ [name])).any volume.isFolder then
      volume.makeFolders path (front ++ [name]) rest
    else
      match volume.vacant? path front name with
      | some place => (volume.addFolder place).makeFolders path (front ++ [name]) rest
      | none => (false, volume)

def makeFolder (volume : Volume) (path : String) : Bool × Volume :=
  if isPath path then volume.makeFolders path [] (pathNames path) else (false, volume)

/-- Writes the file that a path leads to, which may be a new one. -/
def write (volume : Volume) (path : String) (bytes : ByteArray) : Bool × Volume :=
  match volume.resolve? path with
  | none => (false, volume)
  | some place =>
    match volume.get? place with
    | some (.file number) => (true, volume.setBytes number bytes)
    | none => (true, volume.addFile place bytes)
    | _ => (false, volume)

end Volume

instance : Storage (StateM Volume) where
  look? path := fun volume => (volume.look? path, volume)
  read? path := fun volume => (volume.read? path, volume)
  makeFolder path := fun volume => volume.makeFolder path
  write path bytes := fun volume => volume.write path bytes

end Files
end BlogMigration
