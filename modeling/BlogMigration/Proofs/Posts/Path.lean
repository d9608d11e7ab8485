import BlogMigration.Posts.ContentFile
import BlogMigration.Proofs.Files.Paths

/-!
# Paths of posts

A post is kept under the name that its slug gives, in the folder that its kind gives, so two posts
have one path exactly when they agree in both.
-/

namespace BlogMigration
namespace Posts
namespace Post

open Files (Place pathNames)

/-- What the path of a post is made of. -/
def pathKey (post : Post) : Bool × String :=
  (post.isPage, Text.trimmed post.slug)

def folderPath (post : Post) : String :=
  "/".intercalate post.folder

variable {post other : Post} {name : String}

theorem fileName_eq_ok_iff :
    post.fileName = .ok name ↔
      isFileName (Text.trimmed post.slug) = true ∧ name = Text.trimmed post.slug ++ ".md" := by
  simp only [fileName]
  split
  · next accepted => simp [accepted, eq_comm]
  · next rejected => simp [rejected]

theorem path_eq_ok_iff {names : List String} :
    post.path = .ok names ↔ ∃ name, post.fileName = .ok name ∧ names = post.folder ++ [name] := by
  unfold path
  cases post.fileName with
  | ok name => simp [Except.map, eq_comm]
  | error failure => simp [Except.map]

theorem isPage_eq_of_folder_eq (same : post.folder = other.folder) : post.isPage = other.isPage := by
  unfold folder at same
  cases mine : post.isPage <;> cases its : other.isPage <;> simp [mine, its] at same ⊢

theorem folder_eq_of_pathKey (same : other.pathKey = post.pathKey) : other.folder = post.folder := by
  rw [folder, folder, (Prod.mk.inj same).1]

theorem fileName_eq_of_pathKey (same : other.pathKey = post.pathKey)
    (named : post.fileName = .ok name) : other.fileName = .ok name := by
  obtain ⟨proper, rfl⟩ := fileName_eq_ok_iff.mp named
  have slugs := (Prod.mk.inj same).2
  exact fileName_eq_ok_iff.mpr ⟨slugs ▸ proper, by rw [slugs]⟩

/-- Posts have one path exactly when they agree in their kind and their trimmed slug. -/
theorem path_eq_iff {names : List String} (accepted : post.path = .ok names) :
    other.path = .ok names ↔ other.pathKey = post.pathKey := by
  obtain ⟨name, named, rfl⟩ := path_eq_ok_iff.mp accepted
  constructor
  · intro same
    obtain ⟨nameOther, namedOther, shape⟩ := path_eq_ok_iff.mp same
    obtain ⟨folders, last⟩ := List.append_inj' shape rfl
    rw [(fileName_eq_ok_iff.mp named).2, (fileName_eq_ok_iff.mp namedOther).2,
      List.singleton_inj, String.append_left_inj] at last
    rw [pathKey, pathKey, last, isPage_eq_of_folder_eq folders]
  · intro same
    have namedOther := fileName_eq_of_pathKey same named
    exact path_eq_ok_iff.mpr ⟨_, namedOther, by rw [folder_eq_of_pathKey same]⟩

/-- A name of a file is a single name that leads into its folder. -/
theorem proper_fileName (named : post.fileName = .ok name) :
    '/' ∉ name.toList ∧ name ≠ "" ∧ name ≠ "." ∧ name ≠ ".." := by
  obtain ⟨proper, rfl⟩ := fileName_eq_ok_iff.mp named
  have long {short : String} (few : short.toList.length < 3) :
      Text.trimmed post.slug ++ ".md" ≠ short := by
    rintro rfl
    rw [String.toList_append, List.length_append] at few
    exact absurd few (Nat.not_lt.mpr (Nat.le_add_left 3 _))
  refine ⟨?_, long (by decide), long (by decide), long (by decide)⟩
  simp only [isFileName, Bool.and_eq_true, Bool.not_eq_true', List.any_eq_false] at proper
  have single : '/' ∉ (Text.trimmed post.slug).toList :=
    fun member => proper.1.1.2 '/' member (by decide)
  simpa using single

theorem pathNames_folderPath (post : Post) : pathNames post.folderPath = post.folder := by
  unfold folderPath folder
  split <;> decide

end Post
end Posts
end BlogMigration
