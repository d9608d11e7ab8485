import BlogMigration.Render.Inline
import Mathlib.Data.List.Infix

/-!
# Destinations of links

Markdown reads the destination of a link either between angle brackets, where only line breaks are
forbidden, or up to a parenthesis, where spaces and control characters are. In both places a
backslash takes the meaning from the punctuation after it. A destination is found again behind a
link, unless it is written without brackets and has control characters or backslashes that are read
as such.
-/

namespace BlogMigration
namespace Render
namespace Inline

open Mobiledoc (Markup)

/-! ## Reading -/

def punctuationRuns : List (Nat × Nat) :=
  [(0x21, 0x2F), (0x3A, 0x40), (0x5B, 0x60), (0x7B, 0x7E)]

/-- A character that a backslash takes the meaning from. -/
def isPunctuation (c : Char) : Bool :=
  Text.inRuns punctuationRuns c.toNat

def isControl (c : Char) : Bool :=
  c.toNat < 0x20 || c.toNat == 0x7F

/-- A character that may stand between angle brackets. -/
def isInLine (c : Char) : Bool :=
  c != '\n' && c != '\r'

/-- A character that may stand without angle brackets. -/
def isBare (c : Char) : Bool :=
  c != ' ' && !isControl c

/-- Reads up to the first mark that no backslash stands before. -/
def upTo? (mark : Char) (allowed : Char → Bool) : List Char → Option (List Char × List Char)
  | [] => none
  | '\\' :: c :: rest =>
    if isPunctuation c then (upTo? mark allowed rest).map fun read => (c :: read.1, read.2)
    else (upTo? mark allowed (c :: rest)).map fun read => ('\\' :: read.1, read.2)
  | c :: rest =>
    if c = mark then some ([], rest)
    else if allowed c then (upTo? mark allowed rest).map fun read => (c :: read.1, read.2)
    else none

/-- Reads a destination and the parenthesis behind it. -/
def destination? : List Char → Option (List Char × List Char)
  | '<' :: rest =>
    (upTo? '>' isInLine rest).bind fun read =>
      (Text.dropFront? [')'] read.2).map fun rest => (read.1, rest)
  | cs => upTo? ')' isBare cs

/-- Reads the closing delimiter of a link, with the destination of the link. -/
def linkEnd? (cs : List Char) : Option (List Char × List Char) :=
  (Text.dropFront? [']', '('] cs).bind destination?

section

variable {mark : Char} {allowed : Char → Bool} {c : Char} (rest : List Char)

theorem upTo?_escape (special : isPunctuation c = true) :
    upTo? mark allowed ('\\' :: c :: rest) =
      (upTo? mark allowed rest).map fun read => (c :: read.1, read.2) := by
  rw [upTo?, if_pos special]

theorem upTo?_backslash (plain : isPunctuation c = false) :
    upTo? mark allowed ('\\' :: c :: rest) =
      (upTo? mark allowed (c :: rest)).map fun read => ('\\' :: read.1, read.2) := by
  rw [upTo?, if_neg (by simp [plain])]

theorem upTo?_cons (backslash : c ≠ '\\') :
    upTo? mark allowed (c :: rest) =
      if c = mark then some ([], rest)
      else if allowed c then (upTo? mark allowed rest).map fun read => (c :: read.1, read.2)
      else none := by
  rw [upTo?.eq_def]
  split <;> simp_all

/-- A character that is read as it is wherever it stands. -/
def isPlain (mark : Char) (allowed : Char → Bool) (c : Char) : Bool :=
  c != '\\' && c != mark && allowed c

theorem upTo?_append {front : List Char} (plain : front.all (isPlain mark allowed) = true) :
    upTo? mark allowed (front ++ rest) =
      (upTo? mark allowed rest).map fun read => (front ++ read.1, read.2) := by
  induction front with
  | nil => simp
  | cons c front ih =>
      simp only [List.all_cons, isPlain, Bool.and_eq_true, bne_iff_ne] at plain
      obtain ⟨⟨⟨backslash, apart⟩, fits⟩, later⟩ := plain
      rw [List.cons_append, upTo?_cons _ backslash, if_neg apart, if_pos fits, ih later,
        Option.map_map]
      rfl

end

/-- What is read after a character. -/
theorem exists_of_map_cons {found : Option (List Char × List Char)} {c : Char}
    {read rest : List Char}
    (same : (found.map fun later => (c :: later.1, later.2)) = some (read, rest)) :
    ∃ later, read = c :: later ∧ found = some (later, rest) := by
  obtain ⟨⟨later, left⟩, found, pair⟩ := Option.map_eq_some_iff.mp same
  cases pair
  exact ⟨later, rfl, found⟩

theorem map_cons_eq_some_iff {found : Option (List Char × List Char)} {c : Char}
    {cs rest : List Char} :
    (found.map fun later => (c :: later.1, later.2)) = some (c :: cs, rest) ↔
      found = some (cs, rest) := by
  constructor
  · intro same
    obtain ⟨later, front, found⟩ := exists_of_map_cons same
    cases front
    exact found
  · rintro rfl
    rfl

/-- What is read and what is left are shorter than the text, by the mark and by the backslashes that
took the meaning from another character. -/
theorem length_of_upTo? {mark : Char} {allowed : Char → Bool} {cs read rest : List Char}
    (found : upTo? mark allowed cs = some (read, rest)) :
    read.length + rest.length < cs.length := by
  fun_induction upTo? mark allowed cs generalizing read with
  | case1 => cases found
  | case2 c cs special ih =>
      obtain ⟨later, rfl, same⟩ := exists_of_map_cons found
      have := ih same
      simp only [List.length_cons]
      omega
  | case3 c cs plain ih =>
      obtain ⟨later, rfl, same⟩ := exists_of_map_cons found
      have := ih same
      simp only [List.length_cons] at this ⊢
      omega
  | case4 cs =>
      cases found
      simp
  | case5 c cs other apart plain ih =>
      obtain ⟨later, rfl, same⟩ := exists_of_map_cons found
      have := ih same
      simp only [List.length_cons]
      omega
  | case6 => cases found

/-! ## Destinations in brackets -/

/-- What is written for a character that would end the line. -/
def lineChar (c : Char) : List Char :=
  match c with
  | '\n' => ['%', '0', 'A']
  | '\r' => ['%', '0', 'D']
  | c => [c]

def onLine (href : String) : String :=
  Text.expand lineChar href

/-- A character written in brackets is read as itself, or as what stands for a line break. -/
theorem upTo?_bracketedChar (c : Char) (rest : List Char) :
    upTo? '>' isInLine (bracketedChar c ++ rest) =
      (upTo? '>' isInLine rest).map fun read => (lineChar c ++ read.1, read.2) := by
  fun_cases bracketedChar c with
  | case1 => exact upTo?_escape rest (by decide)
  | case2 => exact upTo?_escape rest (by decide)
  | case3 => exact upTo?_escape rest (by decide)
  | case4 => exact upTo?_append rest (by decide)
  | case5 => exact upTo?_append rest (by decide)
  | case6 c backslash less greater feed ended =>
      have plain : [c].all (isPlain '>' isInLine) = true := by
        simpa [isPlain, isInLine] using ⟨⟨backslash, greater⟩, feed, ended⟩
      have same : lineChar c = [c] := by
        unfold lineChar
        split <;> trivial
      rw [same]
      exact upTo?_append rest plain

theorem upTo?_expand (href : String) (rest : List Char) :
    upTo? '>' isInLine ((Text.expand bracketedChar href).toList ++ '>' :: rest) =
      some ((onLine href).toList, rest) := by
  rw [onLine, Text.toList_expand, Text.toList_expand]
  induction href.toList with
  | nil => rfl
  | cons c cs ih =>
      rw [List.flatMap_cons, List.append_assoc, upTo?_bracketedChar, ih]
      rfl

/-! ## Destinations without brackets -/

/-- A backslash takes the meaning from the character after it. -/
def HoldsEscape (cs : List Char) : Prop :=
  ∃ c, isPunctuation c = true ∧ ['\\', c] <:+: cs

theorem holdsEscape_cons_iff {c : Char} (plain : c ≠ '\\') (cs : List Char) :
    HoldsEscape (c :: cs) ↔ HoldsEscape cs := by
  simp [HoldsEscape, List.infix_cons_iff, Ne.symm plain]

theorem holdsEscape_backslash_iff (c : Char) (cs : List Char) :
    HoldsEscape ('\\' :: c :: cs) ↔ isPunctuation c = true ∨ HoldsEscape (c :: cs) := by
  have starts (d : Char) : ['\\', d] <:+: '\\' :: c :: cs ↔ d = c ∨ ['\\', d] <:+: c :: cs := by
    simp [List.infix_cons_iff]
  simp only [HoldsEscape, starts, and_or_left, exists_or, exists_eq_right]

theorem not_holdsEscape_singleton (c : Char) : ¬ HoldsEscape [c] := by
  rintro ⟨d, -, inside⟩
  exact absurd inside.length_le (by simp)

/-- Behind a backslash that takes a meaning, too little of the text is left to be read as it is. -/
theorem upTo?_escape_ne {mark c : Char} {allowed : Char → Bool} (special : isPunctuation c = true)
    {text cs rest : List Char} (short : text.length ≤ cs.length + rest.length) :
    upTo? mark allowed ('\\' :: c :: text) ≠ some ('\\' :: cs, rest) := by
  rw [upTo?_escape text special]
  intro found
  obtain ⟨later, same, read⟩ := exists_of_map_cons found
  have lengths := congrArg List.length same
  have left := length_of_upTo? read
  simp only [List.length_cons] at lengths
  omega

/-- A text is read as it is, up to the parenthesis behind it, exactly if it has no forbidden
characters and no backslash that takes a meaning, were it that of the parenthesis. -/
theorem upTo?_append_mark_iff {cs : List Char} (absent : ')' ∉ cs) (rest : List Char) :
    upTo? ')' isBare (cs ++ ')' :: rest) = some (cs, rest) ↔
      (∀ c ∈ cs, isBare c = true) ∧ ¬ HoldsEscape (cs ++ [')']) := by
  induction cs with
  | nil => exact iff_of_true rfl ⟨fun _ => nofun, not_holdsEscape_singleton ')'⟩
  | cons c cs ih =>
      obtain ⟨apart, absent⟩ : ')' ≠ c ∧ ')' ∉ cs := by simpa using absent
      have ih := ih absent
      rw [List.cons_append, List.cons_append, List.forall_mem_cons]
      by_cases backslash : c = '\\'
      -- The next character decides what the backslash does. It is the parenthesis if the text ends
      -- here, so the next character is taken from the text with the parenthesis.
      · obtain ⟨d, tail, next⟩ := List.exists_cons_of_ne_nil (show cs ++ [')'] ≠ [] by simp)
        have text : cs ++ ')' :: rest = d :: (tail ++ rest) := by
          rw [← List.cons_append, ← next, List.append_assoc, List.singleton_append]
        have short : (tail ++ rest).length ≤ cs.length + rest.length := by
          have lengths := congrArg List.length next
          simp only [List.length_append, List.length_cons, List.length_nil] at lengths ⊢
          omega
        have bare : isBare '\\' = true := by decide
        rw [text, next] at ih
        rw [backslash, text, next, holdsEscape_backslash_iff]
        cases special : isPunctuation d with
        | true => exact iff_of_false (upTo?_escape_ne special short) (by simp)
        | false =>
            rw [upTo?_backslash _ special, map_cons_eq_some_iff, ih]
            simp [bare]
      · rw [upTo?_cons _ backslash, if_neg (Ne.symm apart), holdsEscape_cons_iff backslash]
        cases fits : isBare c with
        | true => simpa [map_cons_eq_some_iff] using ih
        | false => simp

/-! ## Links -/

/-- A destination that does without brackets has no character that asks for them. -/
theorem ne_of_needsBrackets {c : Char} (bare : needsBrackets c = false) {special : Char}
    (asks : needsBrackets special = true) : c ≠ special := by
  rintro rfl
  rw [bare] at asks
  cases asks

theorem lineChar_of_bare {c : Char} (bare : needsBrackets c = false) : lineChar c = [c] := by
  have feed : c ≠ '\n' := ne_of_needsBrackets bare (by decide)
  have ended : c ≠ '\r' := ne_of_needsBrackets bare (by decide)
  fun_cases lineChar c with
  | case1 => exact absurd rfl feed
  | case2 => exact absurd rfl ended
  | case3 => rfl

theorem isBare_iff_of_bare {c : Char} (bare : needsBrackets c = false) :
    isBare c = true ↔ isControl c = false := by
  have space : c ≠ ' ' := ne_of_needsBrackets bare (by decide)
  simp [isBare, space]

theorem onLine_of_bare {href : String} (bare : ∀ c ∈ href.toList, needsBrackets c = false) :
    onLine href = href :=
  Text.expand_eq_self fun c member => lineChar_of_bare (bare c member)

/-- A destination that is read behind its link as it was given, line breaks apart. It is put in
brackets, or it has no control characters and no backslash before punctuation or at its end, where
the parenthesis follows it. -/
def IsReadable (href : String) : Prop :=
  href.toList.any needsBrackets = true ∨
    ((∀ c ∈ href.toList, isControl c = false) ∧ ¬ HoldsEscape (href.toList ++ [')']))

theorem destination?_of_bracketed {href : String} (bracketed : href.toList.any needsBrackets = true)
    (rest : List Char) :
    destination? ((destination href).toList ++ ')' :: rest) =
      some ((onLine href).toList, rest) := by
  have text : (destination href).toList ++ ')' :: rest =
      '<' :: ((Text.expand bracketedChar href).toList ++ '>' :: ')' :: rest) := by
    simp [destination, bracketed]
  rw [text, destination?, upTo?_expand]
  rfl

theorem destination?_of_ne {c : Char} (angle : c ≠ '<') (cs : List Char) :
    destination? (c :: cs) = upTo? ')' isBare (c :: cs) := by
  rw [destination?.eq_def]
  split
  · simp_all
  · rfl

theorem destination?_of_bare_iff {href : String}
    (bare : ∀ c ∈ href.toList, needsBrackets c = false) (rest : List Char) :
    destination? (href.toList ++ ')' :: rest) = some ((onLine href).toList, rest) ↔
      (∀ c ∈ href.toList, isControl c = false) ∧ ¬ HoldsEscape (href.toList ++ [')']) := by
  have bareText : destination? (href.toList ++ ')' :: rest) =
      upTo? ')' isBare (href.toList ++ ')' :: rest) := by
    cases chars : href.toList with
    | nil => exact destination?_of_ne (by decide) rest
    | cons c cs =>
        have first := bare c (by simp [chars])
        exact destination?_of_ne (ne_of_needsBrackets first (by decide)) _
  have asks : needsBrackets ')' = true := by decide
  have absent : ')' ∉ href.toList := fun member => ne_of_needsBrackets (bare _ member) asks rfl
  rw [bareText, onLine_of_bare bare, upTo?_append_mark_iff absent]
  exact and_congr_left' (forall₂_congr fun c member => isBare_iff_of_bare (bare c member))

/-- Behind the text of a link, its closing delimiter is read to its end and gives the destination,
exactly if the destination is readable. -/
theorem linkEnd?_closing_iff {markup : Markup} (link : markup.tag = "a") (rest : List Char) :
    linkEnd? ((closing markup).toList ++ rest) =
        some ((onLine ((markup.attribute? "href").getD "")).toList, rest) ↔
      IsReadable ((markup.attribute? "href").getD "") := by
  generalize given : (markup.attribute? "href").getD "" = href
  have text : (closing markup).toList ++ rest =
      ']' :: '(' :: ((destination href).toList ++ ')' :: rest) := by
    simp [closing, link, given]
  have opened : linkEnd? ((closing markup).toList ++ rest) =
      destination? ((destination href).toList ++ ')' :: rest) := by
    rw [text]
    rfl
  rw [opened]
  cases bracketed : href.toList.any needsBrackets with
  | true => exact iff_of_true (destination?_of_bracketed bracketed rest) (.inl bracketed)
  | false =>
      have bare : ∀ c ∈ href.toList, needsBrackets c = false := by simpa using bracketed
      have kept : destination href = href := by simp [destination, bracketed]
      rw [kept, destination?_of_bare_iff bare, IsReadable, bracketed]
      simp

def linkTo (href : String) : Markup := ⟨"a", [("href", href)]⟩

/-- A destination with all that has a meaning in brackets, and a backslash at its end. -/
def hostilePage : String := "/a (b)\\>\n<c>\\"

theorem linkEnd?_closing_iff_hostile :
    (linkTo hostilePage).tag = "a" ∧
      linkEnd? ((closing (linkTo hostilePage)).toList ++ ") d".toList) =
        some ("/a (b)\\>%0A<c>\\".toList, ") d".toList) :=
  ⟨rfl, (linkEnd?_closing_iff rfl _).mpr (.inl (by decide))⟩

/-- Without brackets, a backslash is lost before punctuation, and at the end of a destination it
keeps the link from ending. -/
theorem closing_not_read_of_backslash :
    closing (linkTo "/docs\\") = "](/docs\\)" ∧
      linkEnd? (closing (linkTo "/docs\\")).toList = none ∧
      linkEnd? (closing (linkTo "/my\\_docs")).toList = some ("/my_docs".toList, []) := by
  decide

end Inline
end Render
end BlogMigration
