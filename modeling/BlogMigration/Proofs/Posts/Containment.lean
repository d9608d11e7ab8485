import BlogMigration.Proofs.Posts.Path
import BlogMigration.Proofs.Text.Trimming

/-!
# Where posts are kept

A slug is accepted if it is a single name once its blank ends are taken off. The path of the post
then leads down from the root of the site, through the content folder, whatever the root is, and
two posts have one path only if they agree in what the path is made of.
-/

namespace BlogMigration
namespace Files

/-- A path joined to a root, which it replaces if it starts at the top. -/
def joined (root path : String) : String :=
  if isAbsolute path || root.isEmpty then path else below root path

/-- Names of a relative path that leads down from any root, with one folder after the other. -/
structure LeadsDown (names : List String) : Prop where
  plain : ∀ name ∈ names, name ≠ "" ∧ name ≠ "." ∧ name ≠ ".." ∧ '/' ∉ name.toList
  relative : isAbsolute ("/".intercalate names) = false
  reads : pathNames ("/".intercalate names) = names
  place : ∀ workingFolder root,
    placeOf workingFolder (joined root ("/".intercalate names)) =
      placeOf workingFolder root ++ names

/-! ## Joined paths -/

theorem placeOf_empty (workingFolder : Place) : placeOf workingFolder "" = workingFolder :=
  rfl

theorem placeOf_joined {path : String} (relative : isAbsolute path = false)
    (proper : ∀ name ∈ pathNames path, name ≠ "" ∧ name ≠ "." ∧ name ≠ "..")
    (workingFolder : Place) (root : String) :
    placeOf workingFolder (joined root path) = placeOf workingFolder root ++ pathNames path := by
  by_cases empty : root = ""
  · rw [empty, joined, if_pos (by simp), placeOf_empty, placeOf, startOf, relative]
    exact foldl_follow_eq_append proper workingFolder
  · rw [joined, if_neg (by simp [relative, empty]), placeOf_below empty]
    exact foldl_follow_eq_append proper _

theorem LeadsDown.of_reads {names : List String}
    (plain : ∀ name ∈ names, name ≠ "" ∧ name ≠ "." ∧ name ≠ ".." ∧ '/' ∉ name.toList)
    (relative : isAbsolute ("/".intercalate names) = false)
    (reads : pathNames ("/".intercalate names) = names) : LeadsDown names := by
  refine ⟨plain, relative, reads, fun workingFolder root => ?_⟩
  have proper : ∀ name ∈ pathNames ("/".intercalate names),
      name ≠ "" ∧ name ≠ "." ∧ name ≠ ".." := by
    rw [reads]
    exact fun name member => ⟨(plain name member).1, (plain name member).2.1,
      (plain name member).2.2.1⟩
  rw [placeOf_joined relative proper, reads]

theorem joined_of_filled {root path : String} (relative : isAbsolute path = false)
    (filled : root ≠ "") : joined root path = below root path :=
  if_neg (by simp [relative, filled])

end Files

namespace Posts
namespace Post

open Files (LeadsDown joined below isAbsolute pathNames placeOf)

/-- A trimmed slug that cannot be the name of a file in a folder. -/
inductive IsRefused : String → Prop where
  | empty : IsRefused ""
  | here : IsRefused "."
  | up : IsRefused ".."
  | parted {core : String} {c : Char} (separator : c = '/' ∨ c = '\\')
      (member : c ∈ core.toList) : IsRefused core

variable {post : Post} {name : String}

/-! ## Accepted slugs -/

theorem isFileName_eq_false_iff : isFileName name = false ↔ IsRefused name := by
  simp only [isFileName, separators, Bool.and_eq_false_iff, Bool.not_eq_false', List.any_eq_true,
    List.contains_iff_mem, bne_eq_false_iff_eq, String.isEmpty_iff]
  constructor
  · rintro (((rfl | ⟨c, member, separator⟩) | rfl) | rfl)
    · exact .empty
    · exact .parted (by simpa using separator) member
    · exact .here
    · exact .up
  · intro refused
    cases refused with
    | empty => simp
    | here => simp
    | up => simp
    | parted separator member => exact .inl (.inl (.inr ⟨_, member, by simpa using separator⟩))

theorem isFileName_iff : isFileName name = true ↔ ¬ IsRefused name := by
  rw [← isFileName_eq_false_iff, Bool.not_eq_false]

theorem path_eq_error_iff :
    post.path = .error (.invalidSlug post.slug) ↔ IsRefused (Text.trimmed post.slug) := by
  rw [← isFileName_eq_false_iff, path, fileName]
  cases isFileName (Text.trimmed post.slug) <;> simp [Except.map]

theorem folder_eq (post : Post) :
    post.folder = "content" :: if post.isPage then [] else ["post"] := by
  unfold folder
  split <;> rfl

theorem path_eq_ok_iff_not_isRefused {names : List String} :
    post.path = .ok names ↔ ¬ IsRefused (Text.trimmed post.slug) ∧
      names = "content" ::
        ((if post.isPage then [] else ["post"]) ++ [Text.trimmed post.slug ++ ".md"]) := by
  rw [path_eq_ok_iff, ← isFileName_iff, ← List.cons_append, ← folder_eq]
  simp only [fileName_eq_ok_iff]
  constructor
  · rintro ⟨-, ⟨accepted, rfl⟩, rfl⟩
    exact ⟨accepted, rfl⟩
  · rintro ⟨accepted, rfl⟩
    exact ⟨_, ⟨accepted, rfl⟩, rfl⟩

/-! ## Places of accepted posts -/

theorem intercalate_path (post : Post) (name : String) :
    "/".intercalate (post.folder ++ [name]) = post.folderPath ++ "/" ++ name := by
  have filled : post.folder ≠ [] := by
    rw [folder_eq]
    exact List.cons_ne_nil _ _
  rw [String.intercalate_append_of_ne_nil filled (List.cons_ne_nil name []),
    String.intercalate_singleton, folderPath]

theorem isAbsolute_folderPath_append (post : Post) (more : String) :
    isAbsolute (post.folderPath ++ more) = false := by
  have start : post.folderPath.toList.head? = some 'c' := by
    unfold folderPath folder
    split <;> decide
  rw [isAbsolute, String.toList_append, List.head?_append, start]
  rfl

theorem path_leadsDown {names : List String} (accepted : post.path = .ok names) :
    LeadsDown names := by
  obtain ⟨name, named, rfl⟩ := path_eq_ok_iff.mp accepted
  obtain ⟨single, filled, notHere, notUp⟩ := proper_fileName named
  have folders : ∀ name ∈ post.folder,
      name ≠ "" ∧ name ≠ "." ∧ name ≠ ".." ∧ '/' ∉ name.toList := by
    unfold folder
    split <;> decide
  have plain : ∀ part ∈ post.folder ++ [name],
      part ≠ "" ∧ part ≠ "." ∧ part ≠ ".." ∧ '/' ∉ part.toList := by
    rw [List.forall_mem_append, List.forall_mem_singleton]
    exact ⟨folders, filled, notHere, notUp, single⟩
  have relative : isAbsolute ("/".intercalate (post.folder ++ [name])) = false := by
    rw [intercalate_path, String.append_assoc]
    exact isAbsolute_folderPath_append post _
  have reads : pathNames ("/".intercalate (post.folder ++ [name])) = post.folder ++ [name] := by
    rw [intercalate_path, Files.pathNames_append_slash, pathNames_folderPath,
      Files.pathNames_of_not_mem single]
  exact .of_reads plain relative reads

/-- The content folder of a root is on the way to every post below the root. -/
theorem content_isPrefix_place {names : List String} (accepted : post.path = .ok names)
    (workingFolder : Files.Place) (root : String) :
    placeOf workingFolder (joined root "content") <+:
      placeOf workingFolder (joined root ("/".intercalate names)) := by
  have content : placeOf workingFolder (joined root "content") =
      placeOf workingFolder root ++ ["content"] :=
    Files.placeOf_joined (by decide) (by decide) workingFolder root
  have place := (path_leadsDown accepted).place workingFolder root
  obtain ⟨-, rfl⟩ := path_eq_ok_iff_not_isRefused.mp accepted
  rw [content, place, List.prefix_append_right_inj]
  exact ⟨_, rfl⟩

/-- A site that has a name writes the file of a post where its path leads. -/
theorem below_below_eq_joined {root : String} (filled : root ≠ "") (post : Post) (name : String) :
    below (below root post.folderPath) name =
      joined root ("/".intercalate (post.folder ++ [name])) := by
  have ending : post.folderPath.toList.getLast? = some 't' := by
    unfold folderPath folder
    split <;> decide
  have relative : isAbsolute (post.folderPath ++ "/" ++ name) = false := by
    rw [String.append_assoc]
    exact isAbsolute_folderPath_append post _
  rw [intercalate_path, Files.joined_of_filled relative filled,
    Files.below_below ending (by decide)]

theorem path_eq_path_iff {other : Post} {names otherNames : List String}
    (accepted : post.path = .ok names) (otherAccepted : other.path = .ok otherNames) :
    names = otherNames ↔
      post.isPage = other.isPage ∧ Text.trimmed post.slug = Text.trimmed other.slug := by
  have same : post.path = .ok otherNames ↔ post.pathKey = other.pathKey :=
    path_eq_iff otherAccepted
  rw [accepted, Except.ok.injEq, pathKey, pathKey, Prod.mk.injEq] at same
  exact same

/--
A post is refused exactly when nothing is left of its slug without the blank ends, or one or two
dots, or a text with a separator. Any other post has its folder and what is left of the slug as its
path. Joined to any root, the path leads from there through the content folder and nowhere else, and
no other post has it but those of the same kind and the same trimmed slug.
-/
theorem path_contained (post : Post) :
    let core := Text.trimmed post.slug
    (∀ text : String, Text.TrimsTo post.slug.toList text.toList ↔ text = core) ∧
    (post.path = .error (.invalidSlug post.slug) ↔ IsRefused core) ∧
    (∀ names, post.path = .ok names ↔ ¬ IsRefused core ∧
      names = "content" :: ((if post.isPage then [] else ["post"]) ++ [core ++ ".md"])) ∧
    (∀ names, post.path = .ok names →
      LeadsDown names ∧
      (∀ workingFolder root, placeOf workingFolder (joined root "content") <+:
        placeOf workingFolder (joined root ("/".intercalate names))) ∧
      ∀ root, root ≠ "" → below (below root post.folderPath) (core ++ ".md") =
        joined root ("/".intercalate names)) ∧
    ∀ (other : Post) (names otherNames : List String),
      post.path = .ok names → other.path = .ok otherNames →
        (names = otherNames ↔ post.isPage = other.isPage ∧ core = Text.trimmed other.slug) := by
  intro core
  refine ⟨fun text => Text.trimsTo_iff, path_eq_error_iff,
    fun names => path_eq_ok_iff_not_isRefused, fun names accepted => ?_,
    fun other names otherNames accepted => path_eq_path_iff accepted⟩
  refine ⟨path_leadsDown accepted, content_isPrefix_place accepted, fun root filled => ?_⟩
  obtain ⟨-, rfl⟩ := path_eq_ok_iff_not_isRefused.mp accepted
  rw [below_below_eq_joined filled, folder_eq, List.cons_append]

def slugged (slug : String) : Post where
  id := none
  title := "t"
  slug := slug
  body := .plain ""
  date := none
  isDraft := false
  isPage := false
  description := none
  image := none
  author := none
  tags := []
  summary := none

theorem path_contained_spaced :
    (slugged "\u3000a.b\u00a0").path = .ok ["content", "post", "a.b.md"] ∧
    LeadsDown ["content", "post", "a.b.md"] ∧
    placeOf ["home"] (joined "../site/" "content/post/a.b.md") =
      ["site", "content", "post", "a.b.md"] ∧
    (slugged "a.b").path = .ok ["content", "post", "a.b.md"] ∧
    Text.trimmed "\u3000a.b\u00a0" = Text.trimmed "a.b" ∧
    (slugged " ..\u2028").path = .error (.invalidSlug " ..\u2028") := by
  obtain ⟨-, -, accepts, down, apart⟩ := path_contained (slugged "\u3000a.b\u00a0")
  obtain ⟨-, -, acceptsBare, -⟩ := path_contained (slugged "a.b")
  obtain ⟨-, refuses, -⟩ := path_contained (slugged " ..\u2028")
  have here : (slugged "\u3000a.b\u00a0").path = .ok ["content", "post", "a.b.md"] :=
    (accepts _).mpr ⟨isFileName_iff.mp (by decide), by decide⟩
  have bare : (slugged "a.b").path = .ok ["content", "post", "a.b.md"] :=
    (acceptsBare _).mpr ⟨isFileName_iff.mp (by decide), by decide⟩
  have leads := (down _ here).1
  have slugs := ((apart (slugged "a.b") _ _ here bare).mp rfl).2
  exact ⟨here, leads, leads.place ["home"] "../site/", bare, slugs,
    refuses.mpr (isFileName_eq_false_iff.mp (by decide))⟩

end Post
end Posts
end BlogMigration
