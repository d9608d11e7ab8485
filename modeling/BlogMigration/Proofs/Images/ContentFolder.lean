import BlogMigration.Images.Normalizer

/-!
# Paths in the folder of a blog's files

A path lies in a folder if it is the folder itself or goes on with a slash. The normalizers take a
front off a path character by character. That is the same for all paths but those that go on within
a name, of which they leave the rest of the name.
-/

namespace BlogMigration
namespace Images

/-- A path from the root of a site. -/
def IsRooted (path : String) : Prop :=
  path.toList.head? = some '/'

instance (path : String) : Decidable (IsRooted path) :=
  inferInstanceAs (Decidable (_ = _))

/-- What stands behind the folder in a path that lies in it. -/
def IsBelow (rest : String) : Prop :=
  rest = "" ∨ IsRooted rest

instance (rest : String) : Decidable (IsBelow rest) :=
  inferInstanceAs (Decidable (_ ∨ _))

/-- A folder is taken off the paths that lie in it. All other paths stay as they are. -/
inductive StripsFolder (folder : String) : String → String → Prop where
  | inside {rest : String} (below : IsBelow rest) : StripsFolder folder (folder ++ rest) rest
  | outside {path : String} (other : ∀ rest, path = folder ++ rest → ¬ IsBelow rest) :
      StripsFolder folder path path

/-- A path that starts with a folder and goes on within its name. -/
def Overruns (folder path : String) : Prop :=
  ∃ rest, path = folder ++ rest ∧ ¬ IsBelow rest

theorem overruns_append_iff (folder rest : String) :
    Overruns folder (folder ++ rest) ↔ ¬ IsBelow rest := by
  constructor
  · rintro ⟨other, same, apart⟩
    have rests : rest = other := by simpa [← String.toList_inj] using same
    rwa [rests]
  · exact fun apart => ⟨rest, rfl, apart⟩

theorem not_overruns_of_not {folder path : String} (other : ∀ rest, path ≠ folder ++ rest) :
    ¬ Overruns folder path := by
  rintro ⟨rest, same, -⟩
  exact other rest same

theorem stripsFolder_append_iff {folder : String} (filled : folder ≠ "") (rest : String) :
    StripsFolder folder (folder ++ rest) rest ↔ IsBelow rest := by
  constructor
  · intro strips
    generalize whole : folder ++ rest = path at strips
    cases strips with
    | inside below => exact below
    | outside =>
        have nothing : folder.toList = [] := by
          simpa [String.toList_append] using congrArg String.toList whole
        exact absurd (String.toList_eq_nil_iff.mp nothing) filled
  · exact .inside

/-- A path starts with the front, and the rest is left, or it stays as it is. -/
theorem stripFront_cases (front path : String) :
    (∃ rest, path = front ++ rest ∧ stripFront front path = rest) ∨
      ((∀ rest, path ≠ front ++ rest) ∧ stripFront front path = path) := by
  by_cases found : ∃ rest, path = front ++ rest
  · obtain ⟨rest, rfl⟩ := found
    exact .inl ⟨rest, rfl, stripFront_append front rest⟩
  · have other (rest : String) : path ≠ front ++ rest := fun same => found ⟨rest, same⟩
    exact .inr ⟨other, stripFront_of_not other⟩

/-- The front is taken off as a folder, unless the path goes on within a name. -/
theorem stripsFolder_stripFront_iff {folder : String} (filled : folder ≠ "") (path : String) :
    StripsFolder folder path (stripFront folder path) ↔ ¬ Overruns folder path := by
  rcases stripFront_cases folder path with ⟨rest, rfl, left⟩ | ⟨other, kept⟩
  · rw [left, stripsFolder_append_iff filled, overruns_append_iff, Decidable.not_not]
  · rw [kept]
    exact iff_of_true (.outside fun rest same => absurd same (other rest))
      (not_overruns_of_not other)

/-- What is left of a rooted path is rooted, unless the path goes on within a name. -/
theorem isRooted_stripFront_iff {folder path : String} (rooted : IsRooted path)
    (more : path ≠ folder) : IsRooted (stripFront folder path) ↔ ¬ Overruns folder path := by
  rcases stripFront_cases folder path with ⟨rest, rfl, left⟩ | ⟨other, kept⟩
  · have filled : rest ≠ "" := by
      rintro rfl
      exact more String.append_empty
    rw [left, overruns_append_iff, Decidable.not_not, IsBelow, or_iff_right filled]
  · rw [kept]
    exact iff_of_true rooted (not_overruns_of_not other)

/-- Without an address of the blog, only the folder is taken off a rooted path. -/
theorem blogPaths_of_isRooted {address : Option String} (unknown : blogAddress? address = none)
    {path : String} (rooted : IsRooted path) : blogPaths address path = stripContent path := by
  have other (rest : String) : path ≠ addressPlaceholder ++ rest := by
    rintro rfl
    rw [IsRooted, String.toList_append] at rooted
    cases rooted
  rw [blogPaths, stripFront_of_not other, unknown]

/-- A folder is taken off as a whole exactly from the paths that do not go on within its name. These
are also the paths below the root that stay so without the folder of the blog's files. -/
theorem stripFront_whole_folder_iff {folder : String} (filled : folder ≠ "") :
    (∀ path, StripsFolder folder path (stripFront folder path) ↔ ¬ Overruns folder path) ∧
    ∀ path, IsRooted path → path ≠ contentFolder →
      (IsRooted (stripContent path) ↔ ¬ Overruns contentFolder path) ∧
      ∀ address, blogAddress? address = none →
        (IsRooted (blogPaths address path) ↔ ¬ Overruns contentFolder path) := by
  refine ⟨stripsFolder_stripFront_iff filled, fun path rooted more => ?_⟩
  have stays := isRooted_stripFront_iff rooted more
  refine ⟨stays, fun address unknown => ?_⟩
  rw [blogPaths_of_isRooted unknown rooted]
  exact stays

def coverPath : String := "/content/images/a.jpg"

theorem stripFront_whole_folder_iff_cover :
    contentFolder ≠ "" ∧ IsRooted coverPath ∧ coverPath ≠ contentFolder ∧
    StripsFolder contentFolder coverPath (stripFront contentFolder coverPath) ∧
    IsRooted (stripContent coverPath) ∧ IsRooted (blogPaths none coverPath) := by
  have filled : contentFolder ≠ "" := by decide
  have rooted : IsRooted coverPath := by decide
  have more : coverPath ≠ contentFolder := by decide
  have inside : ¬ Overruns contentFolder coverPath := by
    have whole : coverPath = contentFolder ++ "/images/a.jpg" := by decide
    rw [whole, overruns_append_iff]
    decide
  obtain ⟨strips, stays⟩ := stripFront_whole_folder_iff filled
  obtain ⟨content, blog⟩ := stays coverPath rooted more
  exact ⟨filled, rooted, more, (strips coverPath).mpr inside, content.mpr inside,
    (blog none rfl).mpr inside⟩

/-- A folder whose name only begins like that of the blog's files loses the beginning of its
name. -/
theorem stripContent_cuts_name :
    stripContent "/contents/a.jpg" = "s/a.jpg" ∧
      ¬ StripsFolder contentFolder "/contents/a.jpg" (stripContent "/contents/a.jpg") ∧
      IsRooted "/contents/a.jpg" ∧ ¬ IsRooted (stripContent "/contents/a.jpg") ∧
      ¬ IsRooted (blogPaths none "/contents/a.jpg") := by
  have overruns : Overruns contentFolder "/contents/a.jpg" := ⟨"s/a.jpg", by decide, by decide⟩
  refine ⟨by decide, ?_, by decide, by decide, by decide⟩
  rw [stripContent, stripsFolder_stripFront_iff (by decide)]
  exact fun inside => inside overruns

end Images
end BlogMigration
