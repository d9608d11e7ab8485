import BlogMigration.Files.Path
import BlogMigration.Proofs.Text.Lines

/-!
# Names of paths

A path below another one has the names of both, whether or not the first one ends with a slash.
-/

namespace BlogMigration
namespace Files

/-- The place that the names of a path lead to, whatever stands there. -/
def placeOf (workingFolder : Place) (path : String) : Place :=
  (pathNames path).foldl Place.follow (startOf workingFolder path)

theorem pathNames_ne_nil (path : String) : pathNames path ≠ [] := by
  simpa [pathNames] using Text.splitAll_ne_nil '/' path.toList

theorem pathNames_eq_concat (path : String) : ∃ front name, pathNames path = front ++ [name] :=
  ⟨_, _, (List.dropLast_concat_getLast (pathNames_ne_nil path)).symm⟩

theorem placeOf_eq_follow {path name : String} {front : List String}
    (shape : pathNames path = front ++ [name]) (workingFolder : Place) :
    placeOf workingFolder path =
      (front.foldl Place.follow (startOf workingFolder path)).follow name := by
  rw [placeOf, shape, List.foldl_append]
  rfl

theorem pathNames_of_not_mem {name : String} (single : '/' ∉ name.toList) :
    pathNames name = [name] := by
  rw [pathNames, Text.splitAll_of_not_mem single]
  simp

theorem pathNames_append_slash (front back : String) :
    pathNames (front ++ "/" ++ back) = pathNames front ++ pathNames back := by
  have text : (front ++ "/" ++ back).toList = front.toList ++ '/' :: back.toList := by simp
  rw [pathNames, text, Text.splitAll_append_separator, List.map_append]
  rfl

theorem exists_toList_below (path : String) :
    ∃ front, ∀ name, (below path name).toList = front ++ '/' :: name.toList := by
  by_cases ended : path.toList.getLast? = some '/'
  · obtain ⟨front, shape⟩ := List.getLast?_eq_some_iff.mp ended
    exact ⟨front, fun name => by simp [below, shape]⟩
  · exact ⟨path.toList, fun name => by simp [below, ended]⟩

/-- Paths below one path start at one place and have its names before their own. -/
theorem exists_below (workingFolder : Place) (path : String) :
    ∃ start names, ∀ name, startOf workingFolder (below path name) = start ∧
      pathNames (below path name) = names ++ pathNames name := by
  obtain ⟨front, text⟩ := exists_toList_below path
  refine ⟨startOf workingFolder (below path ""), (Text.splitAll '/' front).map String.ofList,
    fun name => ⟨?_, ?_⟩⟩
  · rw [startOf, startOf, isAbsolute, isAbsolute, text, text]
    cases front <;> rfl
  · rw [pathNames, text, Text.splitAll_append_separator, List.map_append]
    rfl

theorem below_append (path name more : String) :
    below path (name ++ more) = below path name ++ more := by
  unfold below
  split <;> simp only [String.append_assoc]

theorem below_ne_empty (path name : String) : below path name ≠ "" := by
  intro empty
  obtain ⟨front, text⟩ := exists_toList_below path
  have chars := text name
  rw [empty] at chars
  simp at chars

theorem exists_below_eq_append (path name : String) : ∃ more, below path name = path ++ more := by
  unfold below
  split
  · exact ⟨name, rfl⟩
  · exact ⟨"/" ++ name, String.append_assoc⟩

/-- If something below a path can be followed, so can the path. -/
theorem isPath_of_below {path name : String} (filled : path ≠ "")
    (proper : isPath (below path name) = true) : isPath path = true := by
  obtain ⟨more, shape⟩ := exists_below_eq_append path name
  rw [shape] at proper
  simp only [isPath, Bool.and_eq_true, decide_eq_true_eq, Bool.not_eq_true',
    String.utf8ByteSize_append, String.toList_append, List.contains_append,
    Bool.or_eq_false_iff] at proper ⊢
  refine ⟨⟨?_, ?_⟩, proper.2.1⟩
  · simpa using filled
  · exact Nat.le_trans (Nat.le_add_right _ _) proper.1.2

/-- A path that does not end with a slash can be put into one with what is below it. -/
theorem below_below {name : String} {c : Char} (ending : name.toList.getLast? = some c)
    (other : c ≠ '/') (path last : String) :
    below (below path name) last = below path (name ++ "/" ++ last) := by
  obtain ⟨front, text⟩ := exists_toList_below path
  have unended : (below path name).toList.getLast? ≠ some '/' := by
    rw [text, List.getLast?_append, List.getLast?_cons, ending]
    simpa using other
  rw [below, if_neg unended, below_append, below_append]

/-- What is below a path starts where the path starts. -/
theorem startOf_append {path : String} (filled : path ≠ "") (workingFolder : Place)
    (more : String) : startOf workingFolder (path ++ more) = startOf workingFolder path := by
  obtain ⟨c, rest, shape⟩ := List.exists_cons_of_ne_nil (mt String.toList_eq_nil_iff.mp filled)
  simp [startOf, isAbsolute, shape]

/-- What is below a path has its names before its own, but for the empty name after a last slash. -/
theorem exists_front {path : String} (filled : path ≠ "") :
    ∃ front, (pathNames path = front ∨ pathNames path = front ++ [""]) ∧
      ∀ workingFolder name, startOf workingFolder (below path name) = startOf workingFolder path ∧
        pathNames (below path name) = front ++ pathNames name := by
  by_cases ended : path.toList.getLast? = some '/'
  · obtain ⟨front, shape⟩ := List.getLast?_eq_some_iff.mp ended
    have text : path = String.ofList front ++ "/" := by
      rw [← String.toList_inj]
      simp [shape]
    have names : pathNames path = pathNames (String.ofList front) ++ [""] := by
      have parts := pathNames_append_slash (String.ofList front) ""
      rwa [← text, String.append_empty] at parts
    refine ⟨pathNames (String.ofList front), .inr names, fun workingFolder name => ?_⟩
    rw [below, if_pos ended, startOf_append filled]
    refine ⟨rfl, ?_⟩
    rw [text, pathNames_append_slash]
  · refine ⟨pathNames path, .inl rfl, fun workingFolder name => ?_⟩
    rw [below, if_neg ended, pathNames_append_slash, String.append_assoc, startOf_append filled]
    exact ⟨rfl, rfl⟩

/-- The names below a path lead on from its place. -/
theorem placeOf_below {path : String} (filled : path ≠ "") (workingFolder : Place)
    (name : String) :
    placeOf workingFolder (below path name) =
      (pathNames name).foldl Place.follow (placeOf workingFolder path) := by
  obtain ⟨front, names, parts⟩ := exists_front filled
  obtain ⟨start, shape⟩ := parts workingFolder name
  rw [placeOf, placeOf, start, shape, List.foldl_append]
  rcases names with names | names
  · rw [names]
  · rw [names, List.foldl_append]
    rfl

/-- Proper names lead down, one after the other. -/
theorem foldl_follow_eq_append {names : List String}
    (proper : ∀ name ∈ names, name ≠ "" ∧ name ≠ "." ∧ name ≠ "..") (place : Place) :
    names.foldl Place.follow place = place ++ names := by
  induction names generalizing place with
  | nil => exact (List.append_nil place).symm
  | cons name rest ih =>
      rw [List.foldl_cons, Place.follow_eq_append (proper name List.mem_cons_self),
        ih fun other member => proper other (List.mem_cons_of_mem name member), List.append_assoc]
      rfl

end Files
end BlogMigration
