/-!
# Cutting texts

Cuts at a separating character, removal of a leading text, and replacement of single characters.
Each cut loses nothing but the separators it cuts at.
-/

namespace BlogMigration
namespace Text

/-- The pieces between the occurrences of `separator`, one more than there are occurrences. -/
def splitAll (separator : Char) : List Char → List (List Char)
  | [] => [[]]
  | c :: rest =>
    if c = separator then [] :: splitAll separator rest
    else
      match splitAll separator rest with
      | [] => [[c]]
      | piece :: pieces => (c :: piece) :: pieces

theorem splitAll_ne_nil (separator : Char) (cs : List Char) : splitAll separator cs ≠ [] := by
  cases cs with
  | nil => simp [splitAll]
  | cons c rest =>
    simp only [splitAll]
    split
    · simp
    · split <;> simp

theorem intercalate_splitAll (separator : Char) (cs : List Char) :
    List.intercalate [separator] (splitAll separator cs) = cs := by
  induction cs with
  | nil => rfl
  | cons c rest ih =>
    cases h : splitAll separator rest with
    | nil => exact absurd h (splitAll_ne_nil separator rest)
    | cons piece pieces =>
      rw [h] at ih
      by_cases same : c = separator
      · simp [splitAll, same, h, List.intercalate] at ih ⊢
        exact ih
      · cases pieces <;> simp_all [splitAll, List.intercalate, List.intersperse]

theorem separator_not_mem_splitAll (separator : Char) (cs : List Char) :
    ∀ piece ∈ splitAll separator cs, separator ∉ piece := by
  induction cs with
  | nil => simp [splitAll]
  | cons c rest ih =>
    cases h : splitAll separator rest with
    | nil => exact absurd h (splitAll_ne_nil separator rest)
    | cons piece pieces =>
      rw [h] at ih
      by_cases same : c = separator
      · simp_all [splitAll]
      · intro p member
        simp only [splitAll, same, if_false, h, List.mem_cons] at member
        rcases member with rfl | member
        · simp only [List.mem_cons, not_or]
          exact ⟨fun e => same e.symm, ih piece (by simp)⟩
        · exact ih p (by simp [member])

def splitFirst? (separator : Char) : List Char → Option (List Char × List Char)
  | [] => none
  | c :: rest =>
    if c = separator then some ([], rest)
    else (splitFirst? separator rest).map fun (before, after) => (c :: before, after)

theorem splitFirst?_eq_some {separator : Char} {cs before after : List Char}
    (h : splitFirst? separator cs = some (before, after)) :
    cs = before ++ separator :: after ∧ separator ∉ before := by
  induction cs generalizing before with
  | nil => simp [splitFirst?] at h
  | cons c rest ih =>
    by_cases same : c = separator
    · simp only [splitFirst?, same, if_true, Option.some.injEq, Prod.mk.injEq] at h
      obtain ⟨rfl, rfl⟩ := h
      simp [same]
    · simp only [splitFirst?, same, if_false, Option.map_eq_some_iff, Prod.mk.injEq,
        Prod.exists] at h
      obtain ⟨b, a, found, rfl, rfl⟩ := h
      obtain ⟨cut, fresh⟩ := ih found
      exact ⟨by simp [cut], by simp [fresh, Ne.symm same]⟩

theorem splitFirst?_append {separator : Char} {before : List Char} (fresh : separator ∉ before)
    (after : List Char) : splitFirst? separator (before ++ separator :: after) =
      some (before, after) := by
  induction before with
  | nil => simp [splitFirst?]
  | cons c rest ih =>
    obtain ⟨apart, later⟩ : separator ≠ c ∧ separator ∉ rest := by simpa using fresh
    simp [splitFirst?, Ne.symm apart, ih later]

def splitLast? (separator : Char) (cs : List Char) : Option (List Char × List Char) :=
  (splitFirst? separator cs.reverse).map fun (after, before) => (before.reverse, after.reverse)

theorem splitLast?_eq_some {separator : Char} {cs before after : List Char}
    (h : splitLast? separator cs = some (before, after)) :
    cs = before ++ separator :: after ∧ separator ∉ after := by
  simp only [splitLast?, Option.map_eq_some_iff, Prod.mk.injEq, Prod.exists] at h
  obtain ⟨a, b, found, rfl, rfl⟩ := h
  obtain ⟨cut, fresh⟩ := splitFirst?_eq_some found
  refine ⟨?_, by simpa using fresh⟩
  have reversed := congrArg List.reverse cut
  simpa using reversed

theorem splitLast?_append {separator : Char} {after : List Char} (fresh : separator ∉ after)
    (before : List Char) :
    splitLast? separator (before ++ separator :: after) = some (before, after) := by
  have absent : separator ∉ after.reverse := by simpa using fresh
  have reversed : (before ++ separator :: after).reverse =
      after.reverse ++ separator :: before.reverse := by simp
  simp [splitLast?, reversed, splitFirst?_append absent]

def dropFront? : List Char → List Char → Option (List Char)
  | [], cs => some cs
  | _ :: _, [] => none
  | f :: front, c :: rest => if f = c then dropFront? front rest else none

theorem dropFront?_eq_some_iff {front cs rest : List Char} :
    dropFront? front cs = some rest ↔ cs = front ++ rest := by
  induction front generalizing cs with
  | nil => simp [dropFront?]
  | cons f front ih =>
    cases cs with
    | nil => simp [dropFront?]
    | cons c cs =>
      by_cases h : f = c
      · simp [dropFront?, h, ih]
      · simp [dropFront?, h, Ne.symm h]

def strip? (front s : String) : Option String :=
  (dropFront? front.toList s.toList).map String.ofList

theorem strip?_eq_some_iff {front s rest : String} :
    strip? front s = some rest ↔ s = front ++ rest := by
  simp only [strip?, Option.map_eq_some_iff, dropFront?_eq_some_iff]
  constructor
  · rintro ⟨cs, cut, rfl⟩
    rw [← String.toList_inj]
    simp [cut]
  · rintro rfl
    exact ⟨rest.toList, by simp, by simp⟩

def expand (form : Char → List Char) (s : String) : String :=
  String.ofList (s.toList.flatMap form)

@[simp] theorem toList_expand (form : Char → List Char) (s : String) :
    (expand form s).toList = s.toList.flatMap form := by
  simp [expand]

/-- A string stays as it is if each of its characters stands for itself. -/
theorem expand_eq_self {form : Char → List Char} {s : String}
    (plain : ∀ c ∈ s.toList, form c = [c]) : expand form s = s := by
  rw [← String.toList_inj, toList_expand]
  generalize s.toList = cs at plain ⊢
  induction cs with
  | nil => rfl
  | cons c cs ih =>
    obtain ⟨here, there⟩ := List.forall_mem_cons.mp plain
    rw [List.flatMap_cons, here, ih there, List.singleton_append]

theorem expand_expand (first second : Char → List Char) (s : String) :
    expand second (expand first s) = expand (fun c => (first c).flatMap second) s := by
  rw [← String.toList_inj]
  simp [List.flatMap_assoc]

/-- Puts a text in the place of one character. -/
def swap (old : Char) (new : List Char) (c : Char) : List Char :=
  if c = old then new else [c]

theorem swap_of_ne {old c : Char} (other : c ≠ old) (new : List Char) : swap old new c = [c] :=
  if_neg other

end Text
end BlogMigration
