import BlogMigration.Proofs.Images.ContentFolder
import BlogMigration.Proofs.Text.Repetition

/-!
# Spellings of the images of a blog

An image of a blog is named by its path below the root. The path may stand behind the placeholder,
behind the address of the blog, or behind both of them. These spellings are normalized alike, and
the paths that begin with none of the three fronts are those that stay as they are.
-/

namespace BlogMigration
namespace Images

def Begins (front path : String) : Prop :=
  ∃ rest, path = front ++ rest

instance (front path : String) : Decidable (Begins front path) :=
  decidable_of_iff ((Text.strip? front path).isSome = true) <| by
    simp only [Option.isSome_iff_exists, Text.strip?_eq_some_iff, Begins]

/-- The address of a blog without slashes at its end. It cannot be taken for a path below the root
or for one behind the placeholder. -/
structure IsAddress (known : String) : Prop where
  filled : known ≠ ""
  ended : known.toList.getLast? ≠ some '/'
  absolute : ¬ IsRooted known
  unmarked : ¬ Begins addressPlaceholder known

/-- The ways to write a path of a blog. -/
inductive Spells (known path : String) : String → Prop where
  | bare : Spells known path path
  | marked : Spells known path (addressPlaceholder ++ path)
  | addressed : Spells known path (known ++ path)
  | markedAddressed : Spells known path (addressPlaceholder ++ (known ++ path))

/-- An address as it may be given, with slashes at its end. -/
def withSlashes (known : String) (slashes : Nat) : String :=
  known ++ Text.repeated '/' slashes

/-! ## Fronts of paths -/

theorem begins_append (front rest : String) : Begins front (front ++ rest) :=
  ⟨rest, rfl⟩

theorem head?_of_begins {front path : String} (filled : front ≠ "") (begins : Begins front path) :
    path.toList.head? = front.toList.head? := by
  obtain ⟨rest, rfl⟩ := begins
  rw [String.toList_append]
  cases chars : front.toList with
  | nil => exact absurd (String.toList_eq_nil_iff.mp chars) filled
  | cons c tail => rfl

theorem isRooted_slash_append (rest : String) : IsRooted ("/" ++ rest) := by
  simp [IsRooted]

/-- A front without slashes that a path begins with before a rooted rest is a front of what stands
before that rest. -/
theorem begins_of_begins_append {front known path : String} (plain : '/' ∉ front.toList)
    (rooted : IsRooted path) (begins : Begins front (known ++ path)) : Begins front known := by
  obtain ⟨rest, same⟩ := begins
  have chars : known.toList ++ path.toList = front.toList ++ rest.toList := by
    rw [← String.toList_append, ← String.toList_append, same]
  rcases List.append_eq_append_iff.mp chars with
    ⟨more, frontChars, pathChars⟩ | ⟨left, knownChars, -⟩
  · cases more with
    | nil =>
        refine ⟨"", ?_⟩
        rw [← String.toList_inj]
        simp [frontChars]
    | cons c more =>
        have slash : c = '/' := by simpa [IsRooted, pathChars] using rooted
        exact absurd (by simp [frontChars, slash]) plain
  · refine ⟨String.ofList left, ?_⟩
    rw [← String.toList_inj]
    simp [knownChars]

theorem not_begins_placeholder {path : String} (rooted : IsRooted path) :
    ¬ Begins addressPlaceholder path := by
  intro begins
  have first := head?_of_begins (by decide) begins
  rw [rooted] at first
  exact absurd first (by decide)

theorem IsAddress.not_begins {known path : String} (address : IsAddress known)
    (rooted : IsRooted path) : ¬ Begins known path := by
  intro begins
  have first := head?_of_begins address.filled begins
  exact address.absolute (first.symm.trans rooted)

theorem IsAddress.not_begins_slash {known path : String} (address : IsAddress known)
    (rooted : IsRooted path) : ¬ Begins (known ++ "/") path := by
  rintro ⟨rest, rfl⟩
  exact address.not_begins rooted ⟨"/" ++ rest, String.append_assoc⟩

/-! ## What each step does -/

theorem stripFront_of_not_begins {front path : String} (other : ¬ Begins front path) :
    stripFront front path = path :=
  stripFront_of_not fun rest same => other ⟨rest, same⟩

theorem stripAddress_append (known : String) {path : String} (rooted : IsRooted path) :
    stripAddress known (known ++ path) = path := by
  rw [stripAddress, Text.strip?_eq_some_iff.mpr rfl]
  exact if_pos rooted

theorem stripAddress_of_not_begins {known path : String} (other : ¬ Begins (known ++ "/") path) :
    stripAddress known path = path := by
  rw [stripAddress]
  split
  · next rest found =>
      refine if_neg fun rooted => other ?_
      have whole := Text.strip?_eq_some_iff.mp found
      obtain ⟨tail, slashed⟩ := List.head?_eq_some_iff.mp rooted
      refine ⟨String.ofList tail, ?_⟩
      rw [whole, ← String.toList_inj]
      simp [slashed]
  · rfl

theorem length_lt_append {front : String} (filled : front ≠ "") (rest : String) :
    rest.length < (front ++ rest).length := by
  have some : front.length ≠ 0 := fun zero => filled (String.length_eq_zero_iff.mp zero)
  rw [String.length_append]
  omega

theorem length_stripFront_lt {front path : String} (filled : front ≠ "")
    (begins : Begins front path) : (stripFront front path).length < path.length := by
  obtain ⟨rest, rfl⟩ := begins
  rw [stripFront_append]
  exact length_lt_append filled rest

theorem length_stripFront_le {front : String} (filled : front ≠ "") (path : String) :
    (stripFront front path).length ≤ path.length := by
  by_cases begins : Begins front path
  · exact Nat.le_of_lt (length_stripFront_lt filled begins)
  · exact Nat.le_of_eq (congrArg String.length (stripFront_of_not_begins begins))

theorem length_stripAddress_lt {known path : String} (filled : known ≠ "")
    (begins : Begins (known ++ "/") path) :
    (stripAddress known path).length < path.length := by
  obtain ⟨rest, rfl⟩ := begins
  rw [String.append_assoc, stripAddress_append known (isRooted_slash_append rest)]
  exact length_lt_append filled _

theorem length_stripAddress_le {known : String} (filled : known ≠ "") (path : String) :
    (stripAddress known path).length ≤ path.length := by
  by_cases begins : Begins (known ++ "/") path
  · exact Nat.le_of_lt (length_stripAddress_lt filled begins)
  · exact Nat.le_of_eq (congrArg String.length (stripAddress_of_not_begins begins))

/-! ## All steps -/

theorem IsAddress.blogAddress? {known : String} (address : IsAddress known) (slashes : Nat) :
    Images.blogAddress? (some (withSlashes known slashes)) = some known := by
  have dropped : dropEndSlashes (withSlashes known slashes) = known :=
    Text.ofList_dropWhile_reverse_eq_iff.mpr ⟨⟨slashes, rfl⟩, address.ended⟩
  simp [Images.blogAddress?, dropped, address.filled]

/-- The placeholder is taken off, then the address, and then the folder. -/
theorem IsAddress.blogPaths_eq {known : String} (address : IsAddress known) (slashes : Nat)
    (path : String) :
    blogPaths (some (withSlashes known slashes)) path =
      stripContent (stripAddress known (stripFront addressPlaceholder path)) := by
  rw [blogPaths, address.blogAddress? slashes]

theorem IsAddress.stripAddress_of_isRooted {known path : String} (address : IsAddress known)
    (rooted : IsRooted path) : stripAddress known path = path :=
  stripAddress_of_not_begins (address.not_begins_slash rooted)

/-- Before the folder is looked at, each spelling has become the path that it spells. -/
theorem Spells.stripAddress_eq {known path spelled : String} (address : IsAddress known)
    (rooted : IsRooted path) (spells : Spells known path spelled) :
    stripAddress known (stripFront addressPlaceholder spelled) = path := by
  have plain : '/' ∉ addressPlaceholder.toList := by decide
  cases spells with
  | bare =>
      rw [stripFront_of_not_begins (not_begins_placeholder rooted)]
      exact address.stripAddress_of_isRooted rooted
  | marked =>
      rw [stripFront_append]
      exact address.stripAddress_of_isRooted rooted
  | addressed =>
      have other : ¬ Begins addressPlaceholder (known ++ path) := fun begins =>
        address.unmarked (begins_of_begins_append plain rooted begins)
      rw [stripFront_of_not_begins other]
      exact stripAddress_append known rooted
  | markedAddressed =>
      rw [stripFront_append]
      exact stripAddress_append known rooted

/-- A path stays as it is if no step finds its front, since each step that finds it shortens the
path. -/
theorem IsAddress.blogPaths_eq_self_iff {known : String} (address : IsAddress known)
    (slashes : Nat) (path : String) :
    blogPaths (some (withSlashes known slashes)) path = path ↔
      ¬ Begins addressPlaceholder path ∧ ¬ Begins (known ++ "/") path ∧
        ¬ Begins contentFolder path := by
  rw [address.blogPaths_eq]
  have named : contentFolder ≠ "" := by decide
  have marked : addressPlaceholder ≠ "" := by decide
  have atContent := length_stripFront_le named
  have atAddress := length_stripAddress_le address.filled
  constructor
  · intro same
    have kept := congrArg String.length same
    have unmarked : ¬ Begins addressPlaceholder path := by
      intro begins
      have shorter := length_stripFront_lt marked begins
      have after := Nat.le_trans (atContent _) (atAddress (stripFront addressPlaceholder path))
      exact absurd kept (Nat.ne_of_lt (Nat.lt_of_le_of_lt after shorter))
    rw [stripFront_of_not_begins unmarked] at same kept
    have apart : ¬ Begins (known ++ "/") path := by
      intro begins
      have shorter := length_stripAddress_lt address.filled begins
      exact absurd kept (Nat.ne_of_lt (Nat.lt_of_le_of_lt (atContent _) shorter))
    rw [stripAddress_of_not_begins apart] at kept
    refine ⟨unmarked, apart, fun begins => ?_⟩
    exact absurd kept (Nat.ne_of_lt (length_stripFront_lt named begins))
  · rintro ⟨unmarked, apart, elsewhere⟩
    rw [stripFront_of_not_begins unmarked, stripAddress_of_not_begins apart]
    exact stripFront_of_not_begins elsewhere

/--
With the address of a blog, however many slashes it is given with, all spellings of a path are
normalized to what the path itself becomes without its folder. All paths that begin with none of
the placeholder, the address and a slash, and the folder are kept, and no others. So are the names
of other hosts that only begin like the address.
-/
theorem blogPaths_spellings {known : String} (address : IsAddress known) (slashes : Nat) :
    (∀ path spelled, IsRooted path → Spells known path spelled →
      blogPaths (some (withSlashes known slashes)) spelled = stripContent path) ∧
    (∀ path, blogPaths (some (withSlashes known slashes)) path = path ↔
      ¬ Begins addressPlaceholder path ∧ ¬ Begins (known ++ "/") path ∧
        ¬ Begins contentFolder path) ∧
    ∀ rest, ¬ IsRooted rest → ¬ Begins addressPlaceholder (known ++ rest) →
      blogPaths (some (withSlashes known slashes)) (known ++ rest) = known ++ rest := by
  refine ⟨?_, address.blogPaths_eq_self_iff slashes, ?_⟩
  · intro path spelled rooted spells
    rw [address.blogPaths_eq, spells.stripAddress_eq address rooted]
  · intro rest unrooted unmarked
    refine (address.blogPaths_eq_self_iff slashes _).mpr ⟨unmarked, ?_, ?_⟩
    · rintro ⟨tail, same⟩
      have rests : rest = "/" ++ tail := by
        simpa [← String.toList_inj] using same
      exact unrooted (rests ▸ isRooted_slash_append tail)
    · intro begins
      have first := head?_of_begins (by decide) begins
      have start := head?_of_begins address.filled (begins_append known rest)
      exact address.absolute (start.symm.trans first)

def homeAddress : String := "https://blog.example.com"

/-- A path on another host, whose name begins like that of the blog. -/
def foreignRest : String := ".au/content/a.jpg"

theorem blogPaths_spellings_cover :
    IsAddress homeAddress ∧ IsRooted coverPath ∧
    Spells homeAddress coverPath (addressPlaceholder ++ (homeAddress ++ coverPath)) ∧
    blogPaths (some (withSlashes homeAddress 2))
      (addressPlaceholder ++ (homeAddress ++ coverPath)) = "/images/a.jpg" ∧
    ¬ IsRooted foreignRest ∧ ¬ Begins addressPlaceholder (homeAddress ++ foreignRest) ∧
    blogPaths (some (withSlashes homeAddress 2)) (homeAddress ++ foreignRest) =
      homeAddress ++ foreignRest := by
  have address : IsAddress homeAddress := by
    constructor <;> decide
  have rooted : IsRooted coverPath := by decide
  have stripped : stripContent coverPath = "/images/a.jpg" :=
    stripFront_append contentFolder "/images/a.jpg"
  have apart : ¬ IsRooted foreignRest := by decide
  have unmarked : ¬ Begins addressPlaceholder (homeAddress ++ foreignRest) := by decide
  obtain ⟨same, -, foreign⟩ := blogPaths_spellings address 2
  refine ⟨address, rooted, .markedAddressed, ?_, apart, unmarked, foreign _ apart unmarked⟩
  rw [same coverPath _ rooted .markedAddressed, stripped]

end Images
end BlogMigration
