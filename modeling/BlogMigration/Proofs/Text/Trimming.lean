import BlogMigration.Text.Blank

/-!
# Trimming

A trimmed text is told by what was taken off and by what is left: blank characters at both ends, and
between them a text that neither starts nor ends with one. There is only one such text, the empty
one if all characters are blank.
-/

namespace BlogMigration
namespace Text

/-- A text is left of another one when the blank characters at both ends are taken off. -/
structure TrimsTo (cs core : List Char) : Prop where
  cut : ∃ front back, cs = front ++ core ++ back ∧
    (∀ c ∈ front, isBlank c = true) ∧ ∀ c ∈ back, isBlank c = true
  start : ∀ c, core.head? = some c → isBlank c = false
  ending : ∀ c, core.getLast? = some c → isBlank c = false

theorem isBlank_of_mem_takeWhile {cs : List Char} {c : Char}
    (member : c ∈ cs.takeWhile isBlank) : isBlank c = true :=
  List.all_eq_true.mp List.all_takeWhile c member

theorem not_isBlank_of_head?_dropWhile {cs : List Char} {c : Char}
    (first : (cs.dropWhile isBlank).head? = some c) : isBlank c = false := by
  have stops := List.head?_dropWhile_not isBlank cs
  simpa [first] using stops

/-- Nothing is taken off a text whose first character is not blank. -/
theorem dropWhile_eq_self {cs : List Char} (start : ∀ c, cs.head? = some c → isBlank c = false) :
    cs.dropWhile isBlank = cs := by
  cases cs with
  | nil => rfl
  | cons c rest => exact List.dropWhile_cons_of_neg (by simp [start c rfl])

theorem exists_trimEnd_append (cs : List Char) :
    ∃ back, cs = trimEnd cs ++ back ∧ ∀ c ∈ back, isBlank c = true := by
  refine ⟨(cs.reverse.takeWhile isBlank).reverse, ?_, fun c member => ?_⟩
  · rw [trimEnd, ← List.reverse_append, List.takeWhile_append_dropWhile, List.reverse_reverse]
  · exact isBlank_of_mem_takeWhile (List.mem_reverse.mp member)

theorem trimsTo_trim (cs : List Char) : TrimsTo cs (trim cs) := by
  obtain ⟨back, cut, blank⟩ := exists_trimEnd_append (trimStart cs)
  constructor
  · refine ⟨cs.takeWhile isBlank, back, ?_, fun c => isBlank_of_mem_takeWhile, blank⟩
    rw [trim, List.append_assoc, ← cut]
    exact List.takeWhile_append_dropWhile.symm
  · intro c first
    -- What is left begins the text that was cut at its start only.
    have begins : (trimStart cs).head? = some c := by
      rw [cut, List.head?_append]
      exact Option.or_eq_some_iff.mpr (.inl first)
    exact not_isBlank_of_head?_dropWhile begins
  · intro c last
    rw [trim, trimEnd, List.getLast?_reverse] at last
    exact not_isBlank_of_head?_dropWhile last

theorem trimStart_append {front rest : List Char} (blank : ∀ c ∈ front, isBlank c = true) :
    trimStart (front ++ rest) = trimStart rest :=
  List.dropWhile_append_of_pos blank

theorem trimEnd_append {back rest : List Char} (blank : ∀ c ∈ back, isBlank c = true) :
    trimEnd (rest ++ back) = trimEnd rest := by
  have blankReversed : ∀ c ∈ back.reverse, isBlank c = true :=
    fun c member => blank c (List.mem_reverse.mp member)
  rw [trimEnd, List.reverse_append, List.dropWhile_append_of_pos blankReversed, trimEnd]

theorem TrimsTo.eq_trim {cs core : List Char} (trims : TrimsTo cs core) : core = trim cs := by
  obtain ⟨⟨front, back, rfl, blankFront, blankBack⟩, start, ending⟩ := trims
  cases core with
  | nil =>
      have all : (front ++ [] ++ back).all isBlank = true := by
        simpa [or_imp, forall_and] using ⟨blankFront, blankBack⟩
      exact ((trim_eq_nil_iff _).mpr all).symm
  | cons c rest =>
      have whole : trimStart (c :: rest ++ back) = c :: rest ++ back := dropWhile_eq_self start
      have kept : trimEnd (c :: rest) = c :: rest := by
        rw [trimEnd, dropWhile_eq_self, List.reverse_reverse]
        intro last
        rw [List.head?_reverse]
        exact ending last
      rw [trim, List.append_assoc, trimStart_append blankFront, whole, trimEnd_append blankBack,
        kept]

/-- The trimmed text is the only one that is left of a text in this way. -/
theorem trimsTo_iff {s core : String} : TrimsTo s.toList core.toList ↔ core = trimmed s := by
  rw [trimmed, ← String.toList_inj, String.toList_ofList]
  constructor
  · exact fun trims => trims.eq_trim
  · intro same
    rw [same]
    exact trimsTo_trim s.toList

end Text
end BlogMigration
