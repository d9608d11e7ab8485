import BlogMigration.Proofs.Text.Numerals
import BlogMigration.Proofs.Time.Endings
import BlogMigration.Time.Rfc3339
import Mathlib.Data.List.Basic

/-!
# Reading what was printed

Each part of a printed timestamp is read back as what it shows, whatever text follows. A number has
all the places of its width, so that its end is known, or it stands before a character that is no
digit.
-/

namespace BlogMigration
namespace Time

open Number (tenTo)
open Text (WritesNumber padded paddedText decimalValue)

/-! ## Digits -/

/-- A text goes on with something else than a digit, or not at all. -/
def StartsUndigited (rest : List Char) : Prop :=
  ∀ c, rest.head? = some c → c.isDigit = false

theorem startsUndigited_cons {c : Char} {rest : List Char} (other : c.isDigit = false) :
    StartsUndigited (c :: rest) := by
  rintro _ ⟨⟩
  exact other

/-- Digits are taken up to the width, or up to a character that is none. -/
theorem takeDigits_eq {width : Nat} {digits rest : List Char}
    (all : ∀ c ∈ digits, c.isDigit = true) (fits : digits.length ≤ width)
    (stops : digits.length = width ∨ StartsUndigited rest) :
    takeDigits width (digits ++ rest) = (digits, rest) := by
  induction digits generalizing width with
  | nil =>
      cases width with
      | zero => rfl
      | succ width =>
          have stops : StartsUndigited rest := stops.resolve_left nofun
          cases rest with
          | nil => rfl
          | cons c rest => simp [takeDigits, stops c rfl]
  | cons c digits ih =>
      cases width with
      | zero => cases fits
      | succ width =>
          have digit : c.isDigit = true := all c List.mem_cons_self
          have others := ih (fun d member => all d (List.mem_cons_of_mem c member))
            (Nat.le_of_succ_le_succ fits) (stops.imp_left Nat.succ.inj)
          simp [takeDigits, digit, others]

theorem writesNumber_padded (width n : Nat) : WritesNumber (padded width n) n :=
  ⟨_, rfl⟩

theorem length_padded_of_lt {width n : Nat} (positive : 0 < width) (small : n < tenTo width) :
    (padded width n).length = width :=
  Text.length_padded ((Nat.length_toDigits_le_iff (by decide) positive).mpr small)

section

variable {width n : Nat} (positive : 0 < width) (small : n < tenTo width) (rest : List Char)
include positive small

theorem takeDigits_padded {most : Nat} (fits : width ≤ most)
    (stops : width = most ∨ StartsUndigited rest) :
    takeDigits most (padded width n ++ rest) = (padded width n, rest) := by
  have length := length_padded_of_lt positive small
  refine takeDigits_eq (writesNumber_padded width n).isDigit ?_ ?_
  · rwa [length]
  · rwa [length]

theorem takeNumber_padded (fits : n < 0x8000000000000000) :
    takeNumber width width (padded width n ++ rest) = some ((n : Int), rest) := by
  have length := length_padded_of_lt positive small
  rw [takeNumber, takeDigits_padded positive small rest (Nat.le_refl width) (.inl rfl)]
  dsimp only
  rw [(writesNumber_padded width n).decimalValue_eq, length, if_neg (by omega)]

theorem readFraction_padded (places : width ≤ 9) (stops : StartsUndigited rest) :
    readFraction (padded width n ++ rest) = some (((n * tenTo (9 - width) : Nat) : Int), rest) := by
  have length := length_padded_of_lt positive small
  have kept : rest.dropWhile Char.isDigit = rest := by
    cases rest with
    | nil => rfl
    | cons c rest => exact List.dropWhile_cons_of_neg (by simp [stops c rfl])
  rw [readFraction, takeDigits_padded positive small rest places (.inr stops)]
  dsimp only
  rw [(writesNumber_padded width n).decimalValue_eq, length, kept,
    if_neg (by simp [(writesNumber_padded width n).ne_nil])]
  rfl

end

theorem readPair_padded {n : Nat} (small : n < 100) (rest : List Char) :
    readPair (padded 2 n ++ rest) = some ((n : Int), rest) := by
  have writes := writesNumber_padded 2 n
  obtain ⟨a, b, pair⟩ := List.length_eq_two.mp (length_padded_of_lt (by decide) small)
  rw [pair] at writes ⊢
  have first : a.isDigit = true := writes.isDigit a (by simp)
  have second : b.isDigit = true := writes.isDigit b (by simp)
  simp [readPair, first, second, writes.decimalValue_eq]

/-! ## Fields -/

namespace Fields

def set (slot : Slot) (value : Int) (fields : Fields) : Fields :=
  fun other => if other = slot then some value else fields other

theorem put?_of_unknown {fields : Fields} {slot : Slot} {value : Int}
    (unknown : fields slot = none) (inside : slot.bounds.1 ≤ value ∧ value ≤ slot.bounds.2) :
    fields.put? slot value = some (fields.set slot value) := by
  rw [put?, if_neg (by omega), unknown]
  rfl

def setHour (hour : Int) (fields : Fields) : Fields :=
  (fields.set .halfDay (hour / 12)).set .hourOfHalf (hour % 12)

theorem putHour?_of_unknown {fields : Fields} {hour : Int} (half : fields .halfDay = none)
    (ofHalf : fields .hourOfHalf = none) (inside : 0 ≤ hour ∧ hour ≤ 23) :
    fields.putHour? hour = some (fields.setHour hour) := by
  have ofHalfKept : fields.set .halfDay (hour / 12) .hourOfHalf = none := ofHalf
  rw [putHour?, put?_of_unknown half (by dsimp only [Slot.bounds]; omega), Option.bind_some,
    put?_of_unknown ofHalfKept (by dsimp only [Slot.bounds]; omega)]
  rfl

theorem resolveTime_of_second {fields : Fields} {half hour minute second : Int}
    (halfDay : fields .halfDay = some half) (hourOfHalf : fields .hourOfHalf = some hour)
    (minutes : fields .minute = some minute) (seconds : fields .second = some second) :
    fields.resolveTime =
      .ok (if second = 60 then
        ((half * 12 + hour) * 3600 + minute * 60 + 59,
          nanosPerSecond + ((fields .nanosecond).getD 0).toNat)
      else
        ((half * 12 + hour) * 3600 + minute * 60 + second,
          ((fields .nanosecond).getD 0).toNat)) := by
  simp only [resolveTime, need, halfDay, hourOfHalf, minutes, seconds, bind,
    Except.bind]
  split <;> rfl

theorem isOffset_iff {offset : Int} :
    isOffset offset = true ↔ -secondsPerDay < offset ∧ offset < secondsPerDay := by
  simp [isOffset]

end Fields

/-! ## Items -/

section

variable {fields next : Fields} {cs rest : List Char} {item : Item}

theorem readItems_append (pattern others : Pattern) :
    readItems fields cs (pattern ++ others) =
      (readItems fields cs pattern).bind fun read => readItems read.1 read.2 others := by
  induction pattern generalizing fields cs with
  | nil => rfl
  | cons item pattern ih =>
      rw [List.cons_append, readItems, readItems]
      cases readItem fields cs item with
      | none => rfl
      | some read => exact ih

theorem readItems_cons (read : readItem fields cs item = some (next, rest)) (others : Pattern) :
    readItems fields cs (item :: others) = readItems next rest others := by
  rw [readItems, read]
  rfl

theorem readItem_literal (fields : Fields) (c : Char) (rest : List Char) :
    readItem fields (c :: rest) (.literal [c]) = some (fields, rest) := by
  have front : Text.dropFront? [c] (c :: rest) = some rest := Text.dropFront?_eq_some_iff.mpr rfl
  rw [readItem, front]
  rfl

/-- A number is read back in its places. -/
theorem readItem_padded {width n : Nat} {kind : NumberKind} (positive : 0 < width)
    (small : n < tenTo width) (fits : n < 0x8000000000000000)
    (recorded : kind.record? n fields = some next) (rest : List Char) :
    readItem fields (padded width n ++ rest) (.exactly width kind) = some (next, rest) := by
  rw [readItem, takeNumber_padded positive small rest fits]
  simp only [Option.bind_eq_bind, Option.bind_some, recorded, Option.pure_def]

/-- A number that sets one field is read back in its places. -/
theorem readItem_slot {width n : Nat} {kind : NumberKind} {slot : Slot} (positive : 0 < width)
    (small : n < tenTo width) (only : kind.record? n fields = fields.put? slot n)
    (unknown : fields slot = none) (inside : slot.bounds.1 ≤ (n : Int) ∧ (n : Int) ≤ slot.bounds.2)
    (rest : List Char) :
    readItem fields (padded width n ++ rest) (.exactly width kind) =
      some (fields.set slot n, rest) := by
  have most : slot.bounds.2 < 0x8000000000000000 := by cases slot <;> decide
  refine readItem_padded positive small (by omega) ?_ rest
  rw [only, Fields.put?_of_unknown unknown inside]

end

/-! ## Dates and times of the day -/

/-- The text of a date whose year has four digits. -/
def dateText (year month day : Nat) : List Char :=
  padded 4 year ++ '-' :: (padded 2 month ++ '-' :: padded 2 day)

def timeText (hour minute second : Nat) : List Char :=
  padded 2 hour ++ ':' :: (padded 2 minute ++ ':' :: padded 2 second)

def datePattern : Pattern :=
  [.exactly 4 .year, .literal ['-'], .exactly 2 .month, .literal ['-'], .exactly 2 .day]

def timePattern : Pattern :=
  [.exactly 2 .hour, .literal [':'], .exactly 2 .minute, .literal [':'], .exactly 2 .second]

/-- The pattern of RFC 3339 by its parts. -/
theorem rfc3339_eq :
    Pattern.rfc3339 =
      datePattern ++ (.dateTimeMark ::
        (timePattern ++ [.fraction, .offset Pattern.strictOffset])) :=
  rfl

def dateFields (year month day : Nat) : Fields :=
  ((Fields.unknown.set .year year).set .month month).set .day day

def Fields.setTime (hour minute second : Nat) (fields : Fields) : Fields :=
  ((fields.setHour hour).set .minute minute).set .second second

theorem readItems_date {year month day : Nat} (years : year ≤ 9999)
    (months : 1 ≤ month ∧ month ≤ 12) (days : 1 ≤ day ∧ day ≤ 31) (rest : List Char) :
    readItems .unknown (dateText year month day ++ rest) datePattern =
      some (dateFields year month day, rest) := by
  have yearRead (rest : List Char) :
      readItem .unknown (padded 4 year ++ rest) (.exactly 4 .year) =
        some (Fields.unknown.set .year year, rest) :=
    readItem_slot (by decide) (Nat.lt_of_le_of_lt years (by decide)) rfl rfl
      (by dsimp only [Slot.bounds]; omega) rest
  have monthRead (rest : List Char) :
      readItem (Fields.unknown.set .year year) (padded 2 month ++ rest) (.exactly 2 .month) =
        some ((Fields.unknown.set .year year).set .month month, rest) :=
    readItem_slot (by decide) (Nat.lt_of_le_of_lt months.2 (by decide)) rfl rfl
      (by dsimp only [Slot.bounds]; omega) rest
  have dayRead (rest : List Char) :
      readItem ((Fields.unknown.set .year year).set .month month) (padded 2 day ++ rest)
        (.exactly 2 .day) = some (dateFields year month day, rest) :=
    readItem_slot (by decide) (Nat.lt_of_le_of_lt days.2 (by decide)) rfl rfl
      (by dsimp only [Slot.bounds]; omega) rest
  simp only [dateText, datePattern, List.append_assoc, List.cons_append]
  rw [readItems_cons (yearRead _), readItems_cons (readItem_literal _ _ _),
    readItems_cons (monthRead _), readItems_cons (readItem_literal _ _ _),
    readItems_cons (dayRead _)]
  rfl

theorem readItems_time {year month day hour minute second : Nat} (hours : hour < 24)
    (minutes : minute < 60) (seconds : second ≤ 60) (rest : List Char) :
    readItems (dateFields year month day) (timeText hour minute second ++ rest) timePattern =
      some ((dateFields year month day).setTime hour minute second, rest) := by
  generalize known : dateFields year month day = date
  have hourPut : NumberKind.record? .hour hour date = some (date.setHour hour) := by
    subst known
    rw [NumberKind.record?, if_pos (by omega), Fields.putHour?_of_unknown rfl rfl (by omega)]
  have hourRead (rest : List Char) :
      readItem date (padded 2 hour ++ rest) (.exactly 2 .hour) = some (date.setHour hour, rest) :=
    readItem_padded (by decide) (Nat.lt_trans hours (by decide)) (by omega) hourPut rest
  have minuteRead (rest : List Char) :
      readItem (date.setHour hour) (padded 2 minute ++ rest) (.exactly 2 .minute) =
        some ((date.setHour hour).set .minute minute, rest) :=
    readItem_slot (by decide) (Nat.lt_trans minutes (by decide)) rfl (known ▸ rfl)
      (by dsimp only [Slot.bounds]; omega) rest
  have secondRead (rest : List Char) :
      readItem ((date.setHour hour).set .minute minute) (padded 2 second ++ rest)
        (.exactly 2 .second) = some (date.setTime hour minute second, rest) :=
    readItem_slot (by decide) (Nat.lt_of_le_of_lt seconds (by decide)) rfl (known ▸ rfl)
      (by dsimp only [Slot.bounds]; omega) rest
  simp only [timeText, timePattern, List.append_assoc, List.cons_append]
  rw [readItems_cons (hourRead _), readItems_cons (readItem_literal _ _ _),
    readItems_cons (minuteRead _), readItems_cons (readItem_literal _ _ _),
    readItems_cons (secondRead _)]
  rfl

/-! ## Fractions and offsets -/

/-- The fields with the fraction of a second set, of which nothing is shown if it is zero. -/
def Fields.setFraction (nanos : Nat) (fields : Fields) : Fields :=
  if nanos = 0 then fields else fields.set .nanosecond nanos

@[simp] theorem Fields.setFraction_offset (nanos : Nat) (fields : Fields) :
    fields.setFraction nanos .offset = fields .offset := by
  rw [setFraction]
  split <;> rfl

section

variable {fields : Fields} {rest : List Char}

/-- A fraction has as many places as it needs, and is filled up again. -/
theorem readFraction_fractionText {nanos : Nat} (positive : nanos ≠ 0)
    (small : nanos < nanosPerSecond) (stops : StartsUndigited rest) :
    ∃ digits, (fractionText nanos).toList = '.' :: digits ∧
      readFraction (digits ++ rest) = some ((nanos : Int), rest) := by
  have shown (width n : Nat) : ("." ++ paddedText width n).toList = '.' :: padded width n := by
    simp [paddedText]
  have read (width n scale : Nat) (filled : 0 < width ∧ width ≤ 9) (fits : n < tenTo width)
      (power : tenTo (9 - width) = scale) (same : n * scale = nanos) :
      readFraction (padded width n ++ rest) = some ((nanos : Int), rest) := by
    rw [readFraction_padded filled.1 fits rest filled.2 stops, power, same]
  simp only [nanosPerSecond] at small
  simp only [fractionText, if_neg positive]
  split
  · have same : nanos / 1000000 * 1000000 = nanos := by omega
    have fits : nanos / 1000000 < 1000 := by omega
    exact ⟨_, shown _ _, read 3 _ _ (by decide) fits rfl same⟩
  · split
    · have same : nanos / 1000 * 1000 = nanos := by omega
      have fits : nanos / 1000 < 1000000 := by omega
      exact ⟨_, shown _ _, read 6 _ _ (by decide) fits rfl same⟩
    · exact ⟨_, shown _ _, read 9 _ _ (by decide) small rfl (Nat.mul_one nanos)⟩

theorem readItem_fraction_fractionText {nanos : Nat} (unknown : fields .nanosecond = none)
    (small : nanos < nanosPerSecond) (stops : StartsUndigited rest)
    (other : rest.head? ≠ some '.') :
    readItem fields ((fractionText nanos).toList ++ rest) .fraction =
      some (fields.setFraction nanos, rest) := by
  by_cases zero : nanos = 0
  · subst zero
    have none : (fractionText 0).toList = [] := rfl
    rw [none, List.nil_append, Fields.setFraction, if_pos rfl, readItem.eq_def]
    dsimp only
    split
    · next c cs => exact absurd rfl other
    · rfl
  · obtain ⟨digits, shown, read⟩ := readFraction_fractionText zero small stops
    have inside : Slot.nanosecond.bounds.1 ≤ (nanos : Int) ∧
        (nanos : Int) ≤ Slot.nanosecond.bounds.2 := by
      simp only [nanosPerSecond] at small
      dsimp only [Slot.bounds]
      omega
    rw [shown, List.cons_append, readItem, read, into, Fields.setFraction, if_neg zero]
    simp only [Option.bind_eq_bind, Option.bind_some, Option.pure_def,
      Fields.put?_of_unknown unknown inside]

/-- A sign, hours and minutes are read as an offset. -/
theorem readOffset_padded {sign : Char} {unit : Int} {hours minutes : Nat}
    (signed : sign = '+' ∧ unit = 1 ∨ sign = '-' ∧ unit = -1) (small : hours < 100)
    (minute : minutes < 60) (rest : List Char) :
    readOffset Pattern.strictOffset
        (sign :: (padded 2 hours ++ ':' :: (padded 2 minutes ++ rest))) =
      some (unit * (hours * 3600 + minutes * 60), rest) := by
  -- A sign is no letter Z, so that the offset is read part by part.
  have parts : readOffset Pattern.strictOffset
      (sign :: (padded 2 hours ++ ':' :: (padded 2 minutes ++ rest))) =
      (readPair (padded 2 hours ++ ':' :: (padded 2 minutes ++ rest))).bind fun read =>
        (Text.dropFront? [':'] read.2).bind fun rest => (readPair rest).bind fun last =>
          if last.1 < 60 then some (unit * (read.1 * 3600 + last.1 * 60), last.2) else none := by
    rcases signed with ⟨rfl, rfl⟩ | ⟨rfl, rfl⟩ <;> rfl
  have colon : Text.dropFront? [':'] (':' :: (padded 2 minutes ++ rest)) =
      some (padded 2 minutes ++ rest) := Text.dropFront?_eq_some_iff.mpr rfl
  rw [parts, readPair_padded small, Option.bind_some, colon, Option.bind_some,
    readPair_padded (by omega), Option.bind_some, if_pos (by dsimp only; omega)]

theorem toList_offsetText (offset : Int) :
    (offsetText offset).toList =
      (if offset < 0 then '-' else '+') :: (padded 2 ((offset.natAbs + 30) / 60 / 60) ++
        ':' :: padded 2 ((offset.natAbs + 30) / 60 % 60)) := by
  simp only [offsetText, paddedText, String.toList_append, String.toList_ofList]
  split <;> simp

/-- The sign of an offset ends the number before it, and is not the point of a fraction. -/
theorem startsUndigited_offsetText (offset : Int) :
    StartsUndigited (offsetText offset).toList ∧ (offsetText offset).toList.head? ≠ some '.' := by
  rw [toList_offsetText]
  split
  · exact ⟨startsUndigited_cons rfl, by simp⟩
  · exact ⟨startsUndigited_cons rfl, by simp⟩

/-- An offset of whole minutes is read back. -/
theorem readOffset_offsetText {offset : Int} (inside : Fields.isOffset offset = true)
    (whole : offset % 60 = 0) (rest : List Char) :
    readOffset Pattern.strictOffset ((offsetText offset).toList ++ rest) =
      some (offset, rest) := by
  simp only [Fields.isOffset_iff, secondsPerDay] at inside
  rw [toList_offsetText, List.cons_append, List.append_assoc, List.cons_append]
  split
  · next west =>
      rw [readOffset_padded (.inr ⟨rfl, rfl⟩) (by omega) (by omega)]
      congr 2
      omega
  · next east =>
      rw [readOffset_padded (.inl ⟨rfl, rfl⟩) (by omega) (by omega)]
      congr 2
      omega

theorem readItem_offset_offsetText {offset : Int} (unknown : fields .offset = none)
    (inside : Fields.isOffset offset = true) (whole : offset % 60 = 0) (rest : List Char) :
    readItem fields ((offsetText offset).toList ++ rest) (.offset Pattern.strictOffset) =
      some (fields.set .offset offset, rest) := by
  have strict : Pattern.strictOffset.colon = true := rfl
  have bounds : Slot.offset.bounds.1 ≤ offset ∧ offset ≤ Slot.offset.bounds.2 := by
    simp only [Fields.isOffset_iff, secondsPerDay] at inside
    dsimp only [Slot.bounds]
    omega
  rw [readItem, readOffsetItem, if_pos strict, readOffset_offsetText inside whole]
  simp only [Option.bind_eq_bind, Option.bind_some, if_pos inside, into, Option.pure_def,
    Fields.put?_of_unknown unknown bounds]

end

end Time
end BlogMigration
