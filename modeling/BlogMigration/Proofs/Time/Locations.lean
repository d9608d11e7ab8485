import BlogMigration.Proofs.Text.Numerals
import BlogMigration.Proofs.Time.Meaning

/-!
# Names of locations

A location is meant to be named by a word or by an offset: a sign, one or two digits for the hours,
and two more digits for the minutes, or one or two of them behind a colon. The hours and the minutes
are read as any numerals with a sign, though, so that an offset may be written with more signs and
with more digits than that.
-/

namespace BlogMigration
namespace Time

open Text (WritesNumber WritesSigned)

/-- A number is written with one or two digits. -/
structure IsShort (cs : List Char) (n : Nat) : Prop where
  length : cs.length = 1 ∨ cs.length = 2
  digits : ∀ c ∈ cs, c.isDigit = true
  value : Text.decimalValue cs = n

/-- Hours and minutes as an offset has them behind its sign: the hours alone, both with a colon
between them, or two digits each. -/
inductive WritesTime : List Char → Nat → Nat → Prop where
  | alone {cs : List Char} {hours : Nat} (short : IsShort cs hours) : WritesTime cs hours 0
  | parted {first second : List Char} {hours minutes : Nat} (shortFirst : IsShort first hours)
      (shortSecond : IsShort second minutes) :
      WritesTime (first ++ ':' :: second) hours minutes
  | joined {a b c d : Char} {hours minutes : Nat} (shortFirst : IsShort [a, b] hours)
      (shortSecond : IsShort [c, d] minutes) : WritesTime [a, b, c, d] hours minutes

/-- The hours and the minutes of an offset are numbers, but not both of them with one or two
digits: one has a sign of its own or more digits. -/
structure IsLoose (cs : List Char) (hours minutes : Nat) : Prop where
  first : WritesSigned (offsetParts cs).1 hours
  second : WritesSigned (offsetParts cs).2 minutes
  loose : ¬ (IsShort (offsetParts cs).1 hours ∧ IsShort (offsetParts cs).2 minutes)

/-- The sign of an offset, and the factor that it stands for. -/
inductive IsSign : Char → Int → Prop where
  | east : IsSign '+' 1
  | west : IsSign '-' (-1)

/-- An offset is written with a sign, and behind it with hours and minutes in one of the forms that
`writes` allows. -/
def WritesOffset (writes : List Char → Nat → Nat → Prop) (cs : List Char) (offset : Int) : Prop :=
  ∃ mark sign rest hours minutes, IsSign mark sign ∧ cs = mark :: rest ∧
    writes rest hours minutes ∧ hours < 24 ∧ minutes < 60 ∧
    offset = sign * (hours * 3600 + minutes * 60 : Nat)

/-- A text is the name of a location, whatever the case of its letters is. -/
inductive Location.Names : String → Location → Prop where
  | machine {text : String} (word : Text.asciiLowercase text = "local") : Names text .machine
  | utc {text : String}
      (word : Text.asciiLowercase text = "utc" ∨ Text.asciiLowercase text = "z") : Names text .utc
  | fixed {text : String} {offset : Int} (written : WritesOffset WritesTime text.toList offset) :
      Names text (.fixed offset)

/-- A text writes the offset of a location, but with hours or minutes that are no name of them. -/
inductive Location.Strays : String → Location → Prop where
  | fixed {text : String} {offset : Int} (written : WritesOffset IsLoose text.toList offset) :
      Strays text (.fixed offset)

/-! ## Parts of offsets -/

theorem isShort_iff {cs : List Char} {n : Nat} :
    IsShort cs n ↔ WritesNumber cs n ∧ cs.length ≤ 2 := by
  constructor
  · rintro ⟨length, digits, value⟩
    have filled : cs ≠ [] := by
      rintro rfl
      simp at length
    exact ⟨Text.writesNumber_iff_isDigit.mpr ⟨filled, digits, value⟩, by omega⟩
  · rintro ⟨writes, short⟩
    have filled := List.length_pos_iff.mpr writes.ne_nil
    exact ⟨by omega, writes.isDigit, writes.decimalValue_eq⟩

theorem isShort_zero : IsShort ['0'] 0 :=
  isShort_iff.mpr ⟨⟨0, rfl⟩, by decide⟩

theorem IsShort.writesSigned {cs : List Char} {n : Nat} (short : IsShort cs n) :
    WritesSigned cs n :=
  .bare (isShort_iff.mp short).1

theorem IsShort.colon_not_mem {cs : List Char} {n : Nat} (short : IsShort cs n) : ':' ∉ cs :=
  fun colon => absurd (short.digits ':' colon) (by decide)

theorem splitFirst?_eq_none {separator : Char} {cs : List Char} (absent : separator ∉ cs) :
    Text.splitFirst? separator cs = none := by
  refine Option.eq_none_iff_forall_ne_some.mpr fun parts found => absent ?_
  rw [(Text.splitFirst?_eq_some found).1]
  exact List.mem_append_right _ List.mem_cons_self

theorem offsetParts_parted {first : List Char} (absent : ':' ∉ first) (second : List Char) :
    offsetParts (first ++ ':' :: second) = (first, second) := by
  unfold offsetParts
  rw [Text.splitFirst?_append absent]

theorem offsetParts_joined {a b c d : Char} (absent : ':' ∉ [a, b, c, d]) :
    offsetParts [a, b, c, d] = ([a, b], [c, d]) := by
  unfold offsetParts
  rw [splitFirst?_eq_none absent]

theorem offsetParts_alone {cs : List Char} (absent : ':' ∉ cs) (other : cs.length ≠ 4) :
    offsetParts cs = (cs, ['0']) := by
  unfold offsetParts
  rw [splitFirst?_eq_none absent]
  dsimp only
  split
  · exact absurd rfl other
  · rfl

/-- There are no other ways to part an offset. -/
theorem offsetParts_cases (cs : List Char) :
    (∃ first second, ':' ∉ first ∧ cs = first ++ ':' :: second ∧
      offsetParts cs = (first, second)) ∨
    (∃ a b c d, cs = [a, b, c, d] ∧ offsetParts cs = ([a, b], [c, d])) ∨
    (cs.length ≠ 4 ∧ offsetParts cs = (cs, ['0'])) := by
  cases colon : Text.splitFirst? ':' cs with
  | some parts =>
      obtain ⟨cut, absent⟩ := Text.splitFirst?_eq_some colon
      refine .inl ⟨parts.1, parts.2, absent, cut, ?_⟩
      unfold offsetParts
      rw [colon]
  | none =>
      unfold offsetParts
      rw [colon]
      dsimp only
      split
      · exact .inr (.inl ⟨_, _, _, _, rfl, rfl⟩)
      · next other =>
          refine .inr (.inr ⟨fun length => ?_, rfl⟩)
          match cs, length with
          | [a, b, c, d], _ => exact other a b c d rfl

theorem writesTime_iff {cs : List Char} {hours minutes : Nat} :
    WritesTime cs hours minutes ↔
      IsShort (offsetParts cs).1 hours ∧ IsShort (offsetParts cs).2 minutes := by
  constructor
  · intro writes
    cases writes with
    | alone short =>
        have length := short.length
        rw [offsetParts_alone short.colon_not_mem (by omega)]
        exact ⟨short, isShort_zero⟩
    | parted shortFirst shortSecond =>
        rw [offsetParts_parted shortFirst.colon_not_mem]
        exact ⟨shortFirst, shortSecond⟩
    | @joined a b c d _ _ shortFirst shortSecond =>
        have absent : ':' ∉ [a, b, c, d] := by
          intro colon
          rcases List.mem_append.mp (show ':' ∈ [a, b] ++ [c, d] from colon) with left | right
          · exact shortFirst.colon_not_mem left
          · exact shortSecond.colon_not_mem right
        rw [offsetParts_joined absent]
        exact ⟨shortFirst, shortSecond⟩
  · rintro ⟨shortFirst, shortSecond⟩
    rcases offsetParts_cases cs with
      ⟨first, second, -, rfl, parts⟩ | ⟨a, b, c, d, rfl, parts⟩ | ⟨-, parts⟩
    · rw [parts] at shortFirst shortSecond
      exact .parted shortFirst shortSecond
    · rw [parts] at shortFirst shortSecond
      exact .joined shortFirst shortSecond
    · rw [parts] at shortFirst shortSecond
      obtain rfl : minutes = 0 := shortSecond.value.symm
      exact .alone shortFirst

/-- Hours and minutes that are numbers are in one of the forms that are meant, or loose. -/
theorem writesTime_or_isLoose {cs : List Char} {hours minutes : Nat} :
    WritesTime cs hours minutes ∨ IsLoose cs hours minutes ↔
      WritesSigned (offsetParts cs).1 hours ∧ WritesSigned (offsetParts cs).2 minutes := by
  rw [writesTime_iff]
  constructor
  · rintro (⟨shortFirst, shortSecond⟩ | loose)
    · exact ⟨shortFirst.writesSigned, shortSecond.writesSigned⟩
    · exact ⟨loose.first, loose.second⟩
  · rintro ⟨first, second⟩
    by_cases short : IsShort (offsetParts cs).1 hours ∧ IsShort (offsetParts cs).2 minutes
    · exact .inl short
    · exact .inr ⟨first, second, short⟩

theorem WritesTime.not_isLoose {cs : List Char} {hours minutes : Nat}
    (writes : WritesTime cs hours minutes) (otherHours otherMinutes : Nat) :
    ¬ IsLoose cs otherHours otherMinutes := by
  intro other
  obtain ⟨shortFirst, shortSecond⟩ := writesTime_iff.mp writes
  obtain rfl := shortFirst.writesSigned.unique other.first
  obtain rfl := shortSecond.writesSigned.unique other.second
  exact other.loose ⟨shortFirst, shortSecond⟩

/-- Hours or minutes with a sign are loose. -/
theorem isLoose_of_sign {cs first second : List Char} {hours minutes : Nat} {sign : Char}
    (parts : offsetParts cs = (first, second)) (writesFirst : WritesSigned first hours)
    (writesSecond : WritesSigned second minutes) (member : sign ∈ first ++ second)
    (other : sign.isDigit = false) : IsLoose cs hours minutes := by
  have noDigit {text : List Char} {n : Nat} (short : IsShort text n) : sign ∉ text :=
    fun member => Bool.eq_false_iff.mp other (short.digits sign member)
  constructor
  · rwa [parts]
  · rwa [parts]
  · rw [parts]
    rintro ⟨shortFirst, shortSecond⟩
    exact (List.mem_append.mp member).elim (noDigit shortFirst) (noDigit shortSecond)

/-! ## Offsets -/

theorem magnitude?_eq_some_iff {cs : List Char} {seconds : Int} :
    magnitude? cs = some seconds ↔
      ∃ hours minutes, (WritesTime cs hours minutes ∨ IsLoose cs hours minutes) ∧
        hours < 24 ∧ minutes < 60 ∧ seconds = (hours * 3600 + minutes * 60 : Nat) := by
  simp only [writesTime_or_isLoose, ← Text.signedNumeral?_eq_natCast_iff, magnitude?,
    Option.bind_eq_bind, Option.bind_eq_some_iff, Option.ite_none_right_eq_some,
    Option.some.injEq]
  constructor
  · rintro ⟨hours, first, minutes, second, bounds, rfl⟩
    obtain ⟨hours, rfl⟩ := Int.eq_ofNat_of_zero_le bounds.1
    obtain ⟨minutes, rfl⟩ := Int.eq_ofNat_of_zero_le bounds.2.2.1
    exact ⟨hours, minutes, ⟨first, second⟩, by omega, by omega, by omega⟩
  · rintro ⟨hours, minutes, ⟨first, second⟩, lessHours, lessMinutes, rfl⟩
    exact ⟨hours, first, minutes, second, by omega, by omega⟩

theorem offset?_eq_some_iff {cs : List Char} {offset : Int} :
    offset? cs = some offset ↔
      ∃ mark sign rest seconds, IsSign mark sign ∧ cs = mark :: rest ∧
        magnitude? rest = some seconds ∧ offset = sign * seconds := by
  constructor
  · intro read
    unfold offset? at read
    split at read
    · exact ⟨_, _, _, offset, .east, rfl, read, (Int.one_mul offset).symm⟩
    · obtain ⟨seconds, magnitude, rfl⟩ := Option.map_eq_some_iff.mp read
      exact ⟨_, _, _, seconds, .west, rfl, magnitude, (Int.neg_one_mul seconds).symm⟩
    · cases read
  · rintro ⟨mark, sign, rest, seconds, isSign, rfl, magnitude, rfl⟩
    cases isSign with
    | east => rw [offset?, magnitude, Int.one_mul]
    | west => rw [offset?, magnitude, Option.map_some, Int.neg_one_mul]

/-- Every offset is written as it is meant or loosely. -/
theorem offset?_eq_some_iff_writesOffset {cs : List Char} {offset : Int} :
    offset? cs = some offset ↔
      WritesOffset WritesTime cs offset ∨ WritesOffset IsLoose cs offset := by
  simp only [offset?_eq_some_iff, magnitude?_eq_some_iff]
  constructor
  · rintro ⟨mark, sign, rest, -, isSign, rfl, ⟨hours, minutes, writes, less, lessMinutes, rfl⟩, rfl⟩
    rcases writes with meant | loose
    · exact .inl ⟨mark, sign, rest, hours, minutes, isSign, rfl, meant, less, lessMinutes, rfl⟩
    · exact .inr ⟨mark, sign, rest, hours, minutes, isSign, rfl, loose, less, lessMinutes, rfl⟩
  · rintro (⟨mark, sign, rest, hours, minutes, isSign, rfl, meant, less, lessMinutes, rfl⟩ |
      ⟨mark, sign, rest, hours, minutes, isSign, rfl, loose, less, lessMinutes, rfl⟩)
    · exact ⟨mark, sign, rest, _, isSign, rfl, ⟨hours, minutes, .inl meant, less, lessMinutes, rfl⟩,
        rfl⟩
    · exact ⟨mark, sign, rest, _, isSign, rfl, ⟨hours, minutes, .inr loose, less, lessMinutes, rfl⟩,
        rfl⟩

/-- No offset is written both ways. -/
theorem WritesOffset.not_loose {cs : List Char} {offset : Int}
    (meant : WritesOffset WritesTime cs offset) (other : Int) :
    ¬ WritesOffset IsLoose cs other := by
  obtain ⟨_, _, rest, _, _, _, rfl, writes, -⟩ := meant
  rintro ⟨_, _, _, _, _, _, same, loose, -⟩
  obtain ⟨-, rfl⟩ := List.cons.inj same
  exact writes.not_isLoose _ _ loose

/-! ## Letters -/

theorem isAlpha_of_mem_writesSigned {cs : List Char} {n : Nat} (writes : WritesSigned cs n) :
    ∀ c ∈ cs, c.isAlpha = false := by
  cases writes with
  | bare writes => exact fun c member => isAlpha_of_isDigit (writes.isDigit c member)
  | plus writes =>
      exact List.forall_mem_cons.mpr
        ⟨rfl, fun c member => isAlpha_of_isDigit (writes.isDigit c member)⟩
  | minus writes =>
      exact List.forall_mem_cons.mpr
        ⟨rfl, fun c member => isAlpha_of_isDigit (writes.isDigit c member)⟩

theorem mem_offsetParts {cs : List Char} {c : Char} (member : c ∈ cs) :
    c ∈ (offsetParts cs).1 ∨ c = ':' ∨ c ∈ (offsetParts cs).2 := by
  rcases offsetParts_cases cs with
    ⟨first, second, -, rfl, parts⟩ | ⟨a, b, c, d, rfl, parts⟩ | ⟨-, parts⟩
  · rw [parts]
    simpa using member
  · rw [parts]
    rcases List.mem_append.mp (show _ ∈ [a, b] ++ [c, d] from member) with left | right
    · exact .inl left
    · exact .inr (.inr right)
  · rw [parts]
    exact .inl member

theorem isAlpha_of_mem_offset {cs : List Char} {offset : Int} (read : offset? cs = some offset) :
    ∀ c ∈ cs, c.isAlpha = false := by
  obtain ⟨mark, sign, rest, seconds, isSign, rfl, magnitude, -⟩ := offset?_eq_some_iff.mp read
  obtain ⟨hours, minutes, writes, -⟩ := magnitude?_eq_some_iff.mp magnitude
  obtain ⟨first, second⟩ := writesTime_or_isLoose.mp writes
  refine List.forall_mem_cons.mpr ⟨?_, fun c member => ?_⟩
  · cases isSign <;> rfl
  · rcases mem_offsetParts member with hour | rfl | minute
    · exact isAlpha_of_mem_writesSigned first c hour
    · rfl
    · exact isAlpha_of_mem_writesSigned second c minute

theorem toLower_of_isAlpha {c : Char} (plain : c.isAlpha = false) : c.toLower = c := by
  have notUpper : ¬ (c.val ≥ 'A'.val ∧ c.val ≤ 'Z'.val) :=
    of_decide_eq_false (Bool.or_eq_false_iff.mp plain).1
  exact dif_neg notUpper

theorem isAlpha_toLower (c : Char) : c.toLower.isAlpha = c.isAlpha := by
  by_cases ascii : c.toNat < 128
  · have table : ∀ n < 128, (Char.ofNat n).toLower.isAlpha = (Char.ofNat n).isAlpha := by decide
    have here := table c.toNat ascii
    rwa [Char.ofNat_toNat] at here
  · -- Letters with another form in lower case have a code point below 128.
    have notUpper : ¬ (c.val ≥ 'A'.val ∧ c.val ≤ 'Z'.val) := by
      intro upper
      have last : c.toNat ≤ 'Z'.toNat := upper.2
      have code : 'Z'.toNat = 90 := rfl
      omega
    have same : c.toLower = c := dif_neg notUpper
    rw [same]

theorem map_toLower_of_isAlpha {cs : List Char} (plain : ∀ c ∈ cs, c.isAlpha = false) :
    cs.map Char.toLower = cs := by
  rw [List.map_congr_left fun c member => toLower_of_isAlpha (plain c member), List.map_id']

/-- An offset has no letters, so that its case makes no difference. -/
theorem offset?_map_toLower (cs : List Char) : offset? (cs.map Char.toLower) = offset? cs := by
  refine Option.ext fun offset => ⟨fun read => ?_, fun read => ?_⟩
  · have plain : ∀ c ∈ cs, c.isAlpha = false := by
      intro c member
      rw [← isAlpha_toLower]
      exact isAlpha_of_mem_offset read _ (List.mem_map_of_mem member)
    rwa [map_toLower_of_isAlpha plain] at read
  · rwa [map_toLower_of_isAlpha (isAlpha_of_mem_offset read)]

/-! ## Locations -/

namespace Location

variable {text : String} {location : Location}

theorem offset?_asciiLowercase (text : String) :
    offset? (Text.asciiLowercase text).toList = offset? text.toList := by
  rw [Text.asciiLowercase, String.toList_ofList, offset?_map_toLower]

/-- A word is no offset. -/
theorem not_writesOffset_of_word {word : String} (same : Text.asciiLowercase text = word)
    (unsigned : offset? word.toList = none) (offset : Int) :
    offset? text.toList ≠ some offset := by
  rw [← offset?_asciiLowercase, same, unsigned]
  exact nofun

/-- A location is read from its names, and from the texts that stray from them. -/
theorem parse?_eq_some_iff :
    parse? text = some location ↔ Names text location ∨ Strays text location := by
  constructor
  · intro read
    unfold parse? at read
    split at read
    · next word => exact Option.some.inj read ▸ .inl (.machine word)
    · next word => exact Option.some.inj read ▸ .inl (.utc (.inl word))
    · next word => exact Option.some.inj read ▸ .inl (.utc (.inr word))
    · obtain ⟨offset, found, rfl⟩ := Option.map_eq_some_iff.mp read
      rw [offset?_asciiLowercase, offset?_eq_some_iff_writesOffset] at found
      exact found.imp .fixed .fixed
  · have fixed {offset : Int} (found : offset? text.toList = some offset) :
        parse? text = some (.fixed offset) := by
      unfold parse?
      split
      · next word => exact absurd found (not_writesOffset_of_word word (by decide) offset)
      · next word => exact absurd found (not_writesOffset_of_word word (by decide) offset)
      · next word => exact absurd found (not_writesOffset_of_word word (by decide) offset)
      · rw [offset?_asciiLowercase, found, Option.map_some]
    rintro (named | strays)
    · cases named with
      | machine word => simp [parse?, word]
      | utc word => rcases word with word | word <;> simp [parse?, word]
      | fixed written => exact fixed (offset?_eq_some_iff_writesOffset.mpr (.inl written))
    · cases strays with
      | fixed written => exact fixed (offset?_eq_some_iff_writesOffset.mpr (.inr written))

/-- No name strays. -/
theorem Names.not_strays (named : Names text location) (other : Location) :
    ¬ Strays text other := by
  rintro ⟨loose⟩
  have found := offset?_eq_some_iff_writesOffset.mpr (.inr loose)
  cases named with
  | machine word => exact not_writesOffset_of_word word (by decide) _ found
  | utc word =>
      rcases word with word | word <;>
        exact not_writesOffset_of_word word (by decide) _ found
  | fixed written => exact written.not_loose _ loose

/-- Exactly the names of locations are read, but for the texts that stray from them: the offsets
whose hours or minutes are in range, but have a sign of their own or more than two digits. These are
read as well. All offsets are less than a day. -/
theorem parse?_named_iff (text : String) :
    (∀ location, parse? text = some location ↔ Names text location ∨ Strays text location) ∧
    ((∀ location, parse? text = some location ↔ Names text location) ↔
      ∀ location, ¬ Strays text location) ∧
    ∀ offset, parse? text = some (.fixed offset) →
      -secondsPerDay < offset ∧ offset < secondsPerDay := by
  refine ⟨fun location => parse?_eq_some_iff, ⟨?_, ?_⟩, ?_⟩
  · intro exactly location strays
    have named := (exactly location).mp (parse?_eq_some_iff.mpr (.inr strays))
    exact named.not_strays location strays
  · intro strict location
    rw [parse?_eq_some_iff]
    exact or_iff_left (strict location)
  · intro offset read
    rcases isSteady_of_parse? read with machine | steady
    · cases machine
    · have small : Fields.isOffset offset = true := steady
      simpa [Fields.isOffset] using small

/-- An offset in four digits, and one with hours in three digits and minutes behind a sign. -/
theorem parse?_named_iff_westward :
    (Names "-0930" (.fixed (-34200)) ∧ parse? "-0930" = some (.fixed (-34200)) ∧
      ∀ location, ¬ Strays "-0930" location) ∧
    (Strays "+005:+7" (.fixed 18420) ∧ parse? "+005:+7" = some (.fixed 18420) ∧
      -secondsPerDay < (18420 : Int) ∧ (18420 : Int) < secondsPerDay) ∧
    ¬ ∀ location, parse? "+005:+7" = some location ↔ Names "+005:+7" location := by
  have named : Names "-0930" (.fixed (-34200)) := by
    refine .fixed
      ⟨_, _, ['0', '9', '3', '0'], 9, 30, .west, by decide, ?_, by decide, by decide, rfl⟩
    exact .joined (isShort_iff.mpr ⟨⟨1, by decide⟩, by decide⟩)
      (isShort_iff.mpr ⟨⟨0, by decide⟩, by decide⟩)
  have strays : Strays "+005:+7" (.fixed 18420) := by
    refine .fixed ⟨_, _, ['0', '0', '5', ':', '+', '7'], 5, 7, .east, by decide, ?_, by decide,
      by decide, rfl⟩
    have parts : offsetParts ['0', '0', '5', ':', '+', '7'] = (['0', '0', '5'], ['+', '7']) := by
      decide
    exact isLoose_of_sign parts (.bare ⟨2, by decide⟩) (.plus ⟨0, by decide⟩)
      (by decide : '+' ∈ _) rfl
  obtain ⟨read, exactly, -⟩ := parse?_named_iff "-0930"
  obtain ⟨readLoose, exactlyLoose, small⟩ := parse?_named_iff "+005:+7"
  have found := (readLoose _).mpr (.inr strays)
  exact ⟨⟨named, (read _).mpr (.inl named), named.not_strays⟩, ⟨strays, found, small _ found⟩,
    fun strict => exactlyLoose.mp strict _ strays⟩

/-- An offset with two signs is read, though it is no name of a location. -/
theorem signedHours_read :
    parse? "-+5" = some (.fixed (-18000)) ∧ ∀ location, ¬ Names "-+5" location := by
  have strays : Strays "-+5" (.fixed (-18000)) := by
    refine .fixed ⟨_, _, ['+', '5'], 5, 0, .west, by decide, ?_, by decide, by decide, rfl⟩
    have parts : offsetParts ['+', '5'] = (['+', '5'], ['0']) := by decide
    exact isLoose_of_sign parts (.plus ⟨0, by decide⟩) (.bare ⟨0, by decide⟩)
      (by decide : '+' ∈ _) rfl
  exact ⟨parse?_eq_some_iff.mpr (.inr strays), fun location named => named.not_strays _ strays⟩

end Location

end Time
end BlogMigration
