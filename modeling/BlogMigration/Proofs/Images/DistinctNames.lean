import BlogMigration.Images.LocalName
import BlogMigration.Proofs.Text.Lines
import Mathlib.Data.List.Nodup
import Mathlib.Data.List.Perm.Subperm
import Mathlib.Data.Nat.Find

/-!
# Names of different images

A request is granted the name it asks for, or the first variant of that name with a number, if an
earlier request has the name itself. The names that a sequence of requests is granted differ from
one another, and they have the extensions of the names that were asked for. The sequence is the
order in which the requests are met, whoever makes them.
-/

namespace BlogMigration
namespace Images

/-! ## Variants of a name -/

/-- A name with a number. The number stands before the last dot, or at the end of a name that has no
dot after its first character. -/
inductive Variant : String → Nat → String → Prop where
  | beforeExtension {stem extension : String} (filled : stem ≠ "") (last : '.' ∉ extension.toList)
      (number : Nat) :
      Variant (stem ++ "." ++ extension) number
        (stem ++ "-" ++ toString number ++ "." ++ extension)
  | atEnd {name : String} (plain : '.' ∉ name.toList.tail) (number : Nat) :
      Variant name number (name ++ "-" ++ toString number)

theorem toList_dotted (stem extension : String) :
    (stem ++ "." ++ extension).toList = stem.toList ++ '.' :: extension.toList := by
  simp

theorem numberedName_dotted {stem extension : String} (filled : stem ≠ "")
    (last : '.' ∉ extension.toList) (number : Nat) :
    numberedName (stem ++ "." ++ extension) number =
      stem ++ "-" ++ toString number ++ "." ++ extension := by
  rw [numberedName, toList_dotted, Text.splitLast?_append last]
  simp [filled]

theorem numberedName_plain {name : String} (plain : '.' ∉ name.toList.tail) (number : Nat) :
    numberedName name number = name ++ "-" ++ toString number := by
  rw [numberedName]
  split
  · next stem extension cut =>
      have whole := (Text.splitLast?_eq_some cut).1
      cases stem with
      | nil => rfl
      | cons c stem => simp [whole] at plain
  · rfl

/-- A name has a last dot after its first character, or none. -/
theorem exists_dotted_or_plain (name : String) :
    (∃ stem extension, stem ≠ "" ∧ '.' ∉ extension.toList ∧ name = stem ++ "." ++ extension) ∨
      '.' ∉ name.toList.tail := by
  by_cases dotted : '.' ∈ name.toList.reverse
  · obtain ⟨extension, stem, cut, last⟩ := List.eq_append_cons_of_mem dotted
    have whole : name.toList = stem.reverse ++ '.' :: extension.reverse := by
      simpa using congrArg List.reverse cut
    cases stem with
    | nil => exact .inr (by simpa [whole] using last)
    | cons c stem =>
        refine .inl ⟨String.ofList (c :: stem).reverse, String.ofList extension.reverse, ?_, ?_, ?_⟩
        · simp [← String.toList_inj]
        · simpa using last
        · simp [← String.toList_inj, whole]
  · exact .inr fun inTail => dotted (List.mem_reverse.mpr (List.mem_of_mem_tail inTail))

theorem variant_iff {name variant : String} {number : Nat} :
    Variant name number variant ↔ variant = numberedName name number := by
  constructor
  · rintro (⟨filled, last, number⟩ | ⟨plain, number⟩)
    · exact (numberedName_dotted filled last number).symm
    · exact (numberedName_plain plain number).symm
  · rintro rfl
    rcases exists_dotted_or_plain name with ⟨stem, extension, filled, last, rfl⟩ | plain
    · rw [numberedName_dotted filled last]
      exact .beforeExtension filled last number
    · rw [numberedName_plain plain]
      exact .atEnd plain number

/-! ## The search for a free name -/

/-- Numbers are put into a name at one place. -/
theorem exists_numberedName_eq (name : String) :
    ∃ front back, name = front ++ back ∧
      ∀ number, numberedName name number = front ++ "-" ++ toString number ++ back := by
  rcases exists_dotted_or_plain name with ⟨stem, extension, filled, last, rfl⟩ | plain
  · refine ⟨stem, "." ++ extension, String.append_assoc, fun number => ?_⟩
    rw [numberedName_dotted filled last, String.append_assoc]
  · refine ⟨name, "", String.append_empty.symm, fun number => ?_⟩
    rw [numberedName_plain plain, String.append_empty]

theorem numberedName_ne (name : String) (number : Nat) : numberedName name number ≠ name := by
  obtain ⟨front, back, rfl, inserted⟩ := exists_numberedName_eq name
  rw [inserted]
  intro same
  have lengths := congrArg String.length same
  have hyphen : "-".length = 1 := rfl
  simp only [String.length_append, hyphen] at lengths
  omega

theorem numberedName_injective (name : String) : Function.Injective (numberedName name) := by
  intro first second same
  obtain ⟨front, back, -, inserted⟩ := exists_numberedName_eq name
  rw [inserted, inserted] at same
  have digits : Nat.toDigits 10 first = Nat.toDigits 10 second := by
    simpa [← String.toList_inj] using same
  calc first
      = Nat.ofDigitChars 10 (Nat.toDigits 10 first) 0 := Nat.ofDigitChars_ten_toDigits.symm
    _ = Nat.ofDigitChars 10 (Nat.toDigits 10 second) 0 := by rw [digits]
    _ = second := Nat.ofDigitChars_ten_toDigits

/-- The name that the search tries after a number of failures. -/
def candidate (name : String) : Nat → String
  | 0 => name
  | number + 1 => numberedName name (number + 1)

theorem candidate_injective (name : String) : Function.Injective (candidate name) := by
  intro first second same
  cases first with
  | zero =>
      cases second with
      | zero => rfl
      | succ second => exact absurd same.symm (numberedName_ne name (second + 1))
  | succ first =>
      cases second with
      | zero => exact absurd same (numberedName_ne name (first + 1))
      | succ second => exact numberedName_injective name same

/-- One of the candidates is free, since there are more of them than taken names. -/
theorem exists_free_candidate (taken : List String) (name : String) :
    ∃ number ≤ taken.length, candidate name number ∉ taken := by
  by_contra none
  have busy : (List.range (taken.length + 1)).map (candidate name) ⊆ taken := by
    intro tried member
    obtain ⟨number, inRange, rfl⟩ := List.mem_map.mp member
    by_contra free
    exact none ⟨number, by simpa [Nat.lt_succ_iff] using inRange, free⟩
  have different : ((List.range (taken.length + 1)).map (candidate name)).Nodup :=
    List.nodup_range.map (candidate_injective name)
  have few := (List.subperm_of_subset different busy).length_le
  simp only [List.length_map, List.length_range] at few
  omega

/-- The search fails on taken names only, and no more often than there are taken names. -/
theorem exists_first_free_candidate (taken : List String) (name : String) :
    ∃ number ≤ taken.length, candidate name number ∉ taken ∧
      ∀ smaller < number, candidate name smaller ∈ taken := by
  obtain ⟨number, few, free⟩ := exists_free_candidate taken name
  have found : ∃ number, candidate name number ∉ taken := ⟨number, free⟩
  refine ⟨Nat.find found, Nat.le_trans (Nat.find_min' found free) few, Nat.find_spec found, ?_⟩
  exact fun smaller early => not_not.mp (Nat.find_min found early)

theorem firstFree_succ (taken : List String) (name : String) (fuel number : Nat) :
    firstFree taken name (fuel + 1) number =
      if numberedName name number ∈ taken then firstFree taken name fuel (number + 1)
      else numberedName name number :=
  rfl

theorem firstFree_eq {taken : List String} {name : String} {fuel number failures : Nat}
    (enough : failures ≤ fuel)
    (busy : ∀ n < failures, numberedName name (number + n) ∈ taken)
    (free : numberedName name (number + failures) ∉ taken) :
    firstFree taken name fuel number = numberedName name (number + failures) := by
  -- With each failure the search goes on from the next number, and one failure fewer is to come.
  induction fuel generalizing number failures with
  | zero =>
      obtain rfl : failures = 0 := by omega
      rfl
  | succ fuel ih =>
      rw [firstFree_succ]
      cases failures with
      | zero => exact if_neg free
      | succ failures =>
          have here : numberedName name number ∈ taken := by
            simpa only [Nat.add_zero] using busy 0 (Nat.succ_pos failures)
          have shift (n : Nat) : number + (n + 1) = number + 1 + n := by omega
          rw [if_pos here]
          rw [shift failures] at free ⊢
          have later (n : Nat) (small : n < failures) :
              numberedName name (number + 1 + n) ∈ taken := by
            rw [← shift n]
            exact busy (n + 1) (by omega)
          exact ih (by omega) later free

/-- The name that a request is granted when some names are taken: the one it asks for, or the
variant with the least number that is free. The search ends after no more failures than there are
taken names. -/
inductive Grants (taken : List String) (name : String) : String → Prop where
  | asked (free : name ∉ taken) : Grants taken name name
  | numbered {number : Nat} {granted : String} (busy : name ∈ taken) (positive : 0 < number)
      (few : number ≤ taken.length) (variant : Variant name number granted)
      (free : granted ∉ taken)
      (least : ∀ smaller other, 0 < smaller → smaller < number → Variant name smaller other →
        other ∈ taken) :
      Grants taken name granted

theorem Grants.free {taken : List String} {name granted : String}
    (grants : Grants taken name granted) : granted ∉ taken := by
  cases grants with
  | asked free => exact free
  | numbered _ _ _ _ free => exact free

theorem grants_freeName (taken : List String) (name : String) :
    Grants taken name (freeName taken name) := by
  obtain ⟨number, few, free, least⟩ := exists_first_free_candidate taken name
  rw [freeName]
  cases number with
  | zero =>
      have free : name ∉ taken := free
      rw [if_neg free]
      exact .asked free
  | succ failures =>
      have busy : name ∈ taken := least 0 (Nat.succ_pos failures)
      have each (n : Nat) (small : n < failures) : numberedName name (1 + n) ∈ taken := by
        rw [Nat.add_comm]
        exact least (n + 1) (Nat.succ_lt_succ small)
      rw [candidate, Nat.add_comm] at free
      rw [if_pos busy, firstFree_eq (by omega) each free]
      refine .numbered busy (by omega) (by omega) (variant_iff.mpr rfl) free ?_
      intro smaller other positive early variant
      obtain ⟨n, rfl⟩ := Nat.exists_eq_add_of_le positive
      rw [variant_iff.mp variant]
      exact each n (by omega)

/-! ## Sequences of requests -/

/-- Names that a sequence of requests is granted, one after the other, when some names are taken. -/
inductive GrantsAll : List String → List String → List String → Prop where
  | nil {taken : List String} : GrantsAll taken [] []
  | cons {taken requests names : List String} {name granted : String}
      (first : Grants taken name granted) (later : GrantsAll (granted :: taken) requests names) :
      GrantsAll taken (name :: requests) (granted :: names)

theorem grantsAll_claimAll (taken requests : List String) :
    GrantsAll taken requests (claimAll taken requests) := by
  induction requests generalizing taken with
  | nil => exact .nil
  | cons name requests ih => exact .cons (grants_freeName taken name) (ih _)

namespace GrantsAll

variable {taken requests names : List String}

theorem not_mem (all : GrantsAll taken requests names) : ∀ name ∈ names, name ∉ taken := by
  induction all with
  | nil => exact fun _ member => nomatch member
  | cons first later ih =>
      rw [List.forall_mem_cons]
      exact ⟨first.free, fun name member old =>
        ih name member (List.mem_cons_of_mem _ old)⟩

theorem nodup (all : GrantsAll taken requests names) : names.Nodup := by
  induction all with
  | nil => exact .nil
  | cons first later ih =>
      exact List.nodup_cons.mpr ⟨fun again => later.not_mem _ again List.mem_cons_self, ih⟩

end GrantsAll

/-! ## Extensions -/

/-- A name with an extension of one to four bytes, in no folder. -/
def HasShortExtension (name : String) : Prop :=
  '/' ∉ name.toList ∧
    ∃ stem extension, name = stem ++ "." ++ extension ∧ stem ≠ "" ∧ '.' ∉ extension.toList ∧
      1 ≤ extension.utf8ByteSize ∧ extension.utf8ByteSize ≤ 4

theorem fileName?_of_not_mem {path : List Char} (single : '/' ∉ path) :
    fileName? path =
      if path = [] ∨ path = ['.'] ∨ path = ['.', '.'] then none else some path := by
  rw [fileName?, Text.splitAll_of_not_mem single]
  by_cases empty : path = []
  · simp [empty]
  · by_cases here : path = ['.']
    · simp [here]
    · simp [empty, here]

theorem extension?_append {stem extension : List Char} (filled : stem ≠ []) (ended : extension ≠ [])
    (last : '.' ∉ extension) (single : '/' ∉ stem ++ '.' :: extension) :
    extension? (stem ++ '.' :: extension) = some extension := by
  have long : 2 < (stem ++ '.' :: extension).length := by
    have := List.length_pos_iff.mpr filled
    have := List.length_pos_iff.mpr ended
    simp only [List.length_append, List.length_cons]
    omega
  have named : ¬ (stem ++ '.' :: extension = [] ∨ stem ++ '.' :: extension = ['.'] ∨
      stem ++ '.' :: extension = ['.', '.']) := by
    rintro (same | same | same) <;> simp [same] at long
  rw [extension?, fileName?_of_not_mem single, if_neg named]
  simp [Text.splitLast?_append last, filled]

theorem exists_of_extension? {path extension : List Char} (single : '/' ∉ path)
    (found : extension? path = some extension) :
    ∃ stem, path = stem ++ '.' :: extension ∧ stem ≠ [] ∧ '.' ∉ extension := by
  simp only [extension?, fileName?_of_not_mem single, Option.bind_eq_bind,
    Option.bind_eq_some_iff, Prod.exists] at found
  obtain ⟨name, named, stem, ending, cut, kept⟩ := found
  split at named
  · cases named
  · cases named
    split at kept
    · cases kept
    · next filled =>
        cases kept
        obtain ⟨whole, last⟩ := Text.splitLast?_eq_some cut
        exact ⟨stem, whole, by simpa using filled, last⟩

theorem one_le_size_iff (text : String) : 1 ≤ text.utf8ByteSize ↔ text.toList ≠ [] := by
  rw [Nat.one_le_iff_ne_zero, ne_eq, ne_eq, String.utf8ByteSize_eq_zero_iff,
    String.toList_eq_nil_iff]

theorem hasShortExtension_iff {name : String} :
    HasShortExtension name ↔ '/' ∉ name.toList ∧ hasExtension name = true := by
  refine and_congr_right fun single => ?_
  constructor
  · rintro ⟨stem, extension, rfl, filled, last, shown, few⟩
    rw [toList_dotted] at single
    have ended := (one_le_size_iff extension).mp shown
    have found := extension?_append (by simpa using filled) ended last single
    rw [hasExtension, toList_dotted, found]
    simpa [longestExtension, few] using ended
  · intro extended
    rw [hasExtension] at extended
    split at extended
    · next extension found =>
        obtain ⟨stem, whole, filled, last⟩ := exists_of_extension? single found
        simp only [Bool.and_eq_true, Bool.not_eq_true', decide_eq_true_eq] at extended
        refine ⟨String.ofList stem, String.ofList extension, ?_, ?_, ?_, ?_, extended.2⟩
        · simp [← String.toList_inj, whole]
        · simpa using filled
        · simpa using last
        · rw [one_le_size_iff]
          simpa using extended.1
    · cases extended

theorem HasShortExtension.localName_eq {name : String} (short : HasShortExtension name) :
    localName name = name :=
  if_pos (hasShortExtension_iff.mp short).2

/-- A name that is no path gets an extension, if it has none. -/
theorem hasShortExtension_localName {name : String} (filled : name ≠ "")
    (single : '/' ∉ name.toList) : HasShortExtension (localName name) := by
  rw [localName]
  split
  · next extended => exact hasShortExtension_iff.mpr ⟨single, extended⟩
  · refine ⟨by simpa using single, name, "jpg", ?_, filled, by decide, by decide, by decide⟩
    rw [String.append_assoc]
    rfl

theorem slash_not_mem_digits (number : Nat) : '/' ∉ Nat.toDigits 10 number := by
  intro member
  exact absurd (Nat.isDigit_of_mem_toDigits (by decide) (by decide) member) (by decide)

/-- A variant has the extension of the name. -/
theorem Variant.hasShortExtension {name variant : String} {number : Nat}
    (made : Variant name number variant) (short : HasShortExtension name) :
    HasShortExtension variant := by
  obtain ⟨single, stem, extension, rfl, filled, last, size⟩ := short
  rw [variant_iff, numberedName_dotted filled last] at made
  refine ⟨?_, stem ++ "-" ++ toString number, extension, made, by simp [filled], last, size⟩
  have digits := slash_not_mem_digits number
  simp only [String.toList_append, List.mem_append, not_or] at single
  simp [made, single, digits]

theorem Grants.hasShortExtension {taken : List String} {name granted : String}
    (grants : Grants taken name granted) (short : HasShortExtension name) :
    HasShortExtension granted := by
  cases grants with
  | asked => exact short
  | numbered _ _ _ variant => exact variant.hasShortExtension short

theorem GrantsAll.hasShortExtension {taken requests names : List String}
    (all : GrantsAll taken requests names)
    (short : ∀ request ∈ requests, HasShortExtension request) :
    ∀ name ∈ names, HasShortExtension name := by
  induction all with
  | nil => exact fun _ member => nomatch member
  | cons first later ih =>
      obtain ⟨here, there⟩ := List.forall_mem_cons.mp short
      exact List.forall_mem_cons.mpr ⟨first.hasShortExtension here, ih there⟩

/-- Requests are granted different names, each the name that was asked for or its first free
variant, in whichever order they are met. Where completed names of images are asked for, the granted
names are complete as they are. -/
theorem claimAll_grants_once (requests : List String) :
    GrantsAll [] requests (claimAll [] requests) ∧ (claimAll [] requests).Nodup ∧
      ((∀ request ∈ requests,
          ∃ name, name ≠ "" ∧ '/' ∉ name.toList ∧ request = localName name) →
        ∀ name ∈ claimAll [] requests, HasShortExtension name ∧ localName name = name) := by
  have all := grantsAll_claimAll [] requests
  refine ⟨all, all.nodup, fun completed name member => ?_⟩
  have short : ∀ request ∈ requests, HasShortExtension request := by
    intro request asked
    obtain ⟨name, filled, single, rfl⟩ := completed request asked
    exact hasShortExtension_localName filled single
  have kept := all.hasShortExtension short name member
  exact ⟨kept, kept.localName_eq⟩

/-- Two images of one name, and one that has the name of the first variant. -/
def imageRequests : List String := [localName "a", localName "a.jpg", localName "a-1.jpg"]

theorem claimAll_grants_once_images :
    (∀ request ∈ imageRequests,
      ∃ name, name ≠ "" ∧ '/' ∉ name.toList ∧ request = localName name) ∧
    claimAll [] imageRequests = ["a.jpg", "a-1.jpg", "a-1-1.jpg"] ∧
    ∀ name ∈ claimAll [] imageRequests, HasShortExtension name ∧ localName name = name := by
  have completed : ∀ request ∈ imageRequests,
      ∃ name, name ≠ "" ∧ '/' ∉ name.toList ∧ request = localName name := by
    simp only [imageRequests, List.forall_mem_cons, List.not_mem_nil, false_imp_iff, implies_true,
      and_true]
    exact ⟨⟨"a", by decide, by decide, rfl⟩, ⟨"a.jpg", by decide, by decide, rfl⟩,
      ⟨"a-1.jpg", by decide, by decide, rfl⟩⟩
  exact ⟨completed, by decide, (claimAll_grants_once imageRequests).2.2 completed⟩

/-- A variant may be asked for itself, before or after it has been granted. -/
example : claimAll [] ["a-1.jpg", "a.jpg", "a.jpg", "a-2.jpg", "README", "README", ".a", ".a"] =
    ["a-1.jpg", "a.jpg", "a-2.jpg", "a-2-1.jpg", "README", "README-1", ".a", ".a-1"] := by
  decide

end Images
end BlogMigration
