import BlogMigration.Proofs.Text.Trimming
import BlogMigration.Proofs.Time.Days
import BlogMigration.Proofs.Time.Gathering
import BlogMigration.Proofs.Time.Meaning
import BlogMigration.Proofs.Time.Printed

/-!
# Printed timestamps are read again

The text of a timestamp whose local clock shows a year of four digits says year, month and day,
hour, minute and second, and what is left of a second. These fields make the timestamp again. So
what a reader has read it reads again from the text, on clocks of whatever offset the text is
written.
-/

namespace BlogMigration
namespace Time

open Text (padded paddedText)

theorem isBlank_of_isDigit {c : Char} (digit : c.isDigit = true) : Text.isBlank c = false := by
  obtain ⟨small, same⟩ := Text.digitChar_digitValue digit
  have plain : ∀ n < 10, Text.isBlank (Nat.digitChar n) = false := by decide
  rw [← same]
  exact plain _ small

/-! ## What the text shows -/

namespace Clock

def hour (time : Clock) : Nat :=
  time.secondOfDay.toNat / 3600

def minute (time : Clock) : Nat :=
  time.secondOfDay.toNat / 60 % 60

/-- The second of the minute, which is 60 in a leap second. -/
def shownSecond (time : Clock) : Nat :=
  time.secondOfDay.toNat % 60 + if nanosPerSecond ≤ time.nanos then 1 else 0

/-- What is left of the second that is shown, in nanoseconds. -/
def shownFraction (time : Clock) : Nat :=
  if nanosPerSecond ≤ time.nanos then time.nanos - nanosPerSecond else time.nanos

def date (time : Clock) : Date :=
  .ofDayNumber time.dayNumber

theorem secondOfDay_bounds (time : Clock) : 0 ≤ time.secondOfDay ∧ time.secondOfDay < 86400 := by
  simp only [secondOfDay, secondsPerDay]
  omega

theorem hour_lt (time : Clock) : time.hour < 24 := by
  have bounds := time.secondOfDay_bounds
  rw [hour]
  omega

theorem minute_lt (time : Clock) : time.minute < 60 :=
  Nat.mod_lt _ (by decide)

theorem date_bounds (time : Clock) :
    (1 ≤ time.date.month ∧ time.date.month ≤ 12) ∧ 1 ≤ time.date.day ∧ time.date.day ≤ 31 := by
  obtain ⟨-, months, days, -⟩ := Date.ofDayNumber_spec time.dayNumber
  exact ⟨months, days.1, Nat.le_trans days.2 (monthLength_le _ _)⟩

theorem ofDay_dayNumber (time : Clock) :
    ofDay time.dayNumber time.secondOfDay time.nanos = time := by
  have same : (time.dayNumber - epochDay) * secondsPerDay + time.secondOfDay = time.seconds := by
    simp only [dayNumber, secondOfDay, secondsPerDay]
    omega
  rw [ofDay, same]

/-- A leap second is shown as the second 60 of its minute. -/
theorem IsShown.shownSecond_eq {time : Clock} (shown : time.IsShown) :
    (nanosPerSecond ≤ time.nanos ∧ time.shownSecond = 60 ∧ time.secondOfDay.toNat % 60 = 59) ∨
      (time.nanos < nanosPerSecond ∧ time.shownSecond = time.secondOfDay.toNat % 60) := by
  rw [shownSecond]
  split
  · next leap =>
      have last := shown.leap leap
      have second : time.secondOfDay.toNat % 60 = 59 := by
        simp only [secondOfDay, secondsPerDay]
        omega
      exact .inl ⟨leap, by rw [second], second⟩
  · next common => exact .inr ⟨Nat.not_le.mp common, rfl⟩

theorem IsShown.shownSecond_le {time : Clock} (shown : time.IsShown) : time.shownSecond ≤ 60 := by
  rcases shown.shownSecond_eq with ⟨-, leap, -⟩ | ⟨-, common⟩ <;> omega

theorem IsShown.shownFraction_lt {time : Clock} (shown : time.IsShown) :
    time.shownFraction < nanosPerSecond := by
  have nanos := shown.nanos
  rw [shownFraction]
  split <;> omega

end Clock

namespace Timestamp

def localYear (stamp : Timestamp) : Int :=
  stamp.localTime.date.year

/-- What the text of a timestamp says. -/
def shownFields (stamp : Timestamp) : Fields
  | .year => some stamp.localYear.toNat
  | .month => some stamp.localTime.date.month
  | .day => some stamp.localTime.date.day
  | .halfDay => some (stamp.localTime.hour / 12)
  | .hourOfHalf => some (stamp.localTime.hour % 12)
  | .minute => some stamp.localTime.minute
  | .second => some stamp.localTime.shownSecond
  | .nanosecond =>
    if stamp.localTime.shownFraction = 0 then none else some stamp.localTime.shownFraction
  | .offset => some stamp.offset
  | _ => none

theorem shownFields_eq (stamp : Timestamp) :
    stamp.shownFields =
      (((dateFields stamp.localYear.toNat stamp.localTime.date.month stamp.localTime.date.day).setTime
        stamp.localTime.hour stamp.localTime.minute stamp.localTime.shownSecond).setFraction
          stamp.localTime.shownFraction).set .offset stamp.offset := by
  funext slot
  -- A fraction of zero is not shown, and then no other field is concerned.
  by_cases zero : stamp.localTime.shownFraction = 0
  · simp only [Fields.setFraction, if_pos zero]
    cases slot with
    | nanosecond => exact if_pos zero
    | _ => rfl
  · simp only [Fields.setFraction, if_neg zero]
    cases slot with
    | nanosecond => exact if_neg zero
    | _ => rfl

variable {stamp : Timestamp}

theorem toList_text (years : 0 ≤ stamp.localYear ∧ stamp.localYear ≤ 9999) :
    stamp.text.toList =
      dateText stamp.localYear.toNat stamp.localTime.date.month stamp.localTime.date.day ++
        'T' :: (timeText stamp.localTime.hour stamp.localTime.minute stamp.localTime.shownSecond ++
          ((fractionText stamp.localTime.shownFraction).toList ++
            (offsetText stamp.offset).toList)) := by
  have year : yearText (Date.ofDayNumber stamp.localTime.dayNumber).year =
      paddedText 4 stamp.localYear.toNat := if_pos years
  rw [text, Clock.text, year]
  simp [dateText, timeText, paddedText, Clock.date, Clock.hour, Clock.minute, Clock.shownSecond,
    Clock.shownFraction]

/-- A timestamp whose text is read again: its clock time is shown by a clock and has a date, and its
offset is one of whole minutes, less than a day. -/
structure IsPrintable (stamp : Timestamp) : Prop where
  shown : stamp.utc.IsShown
  dated : stamp.utc.isDated = true
  isOffset : Fields.isOffset stamp.offset = true
  wholeMinutes : stamp.offset % 60 = 0

theorem IsPrintable.shownLocally (printable : stamp.IsPrintable) : stamp.localTime.IsShown :=
  printable.shown.shift printable.wholeMinutes

/-- The text says what the local clock and the calendar show. -/
theorem IsPrintable.fields?_text (printable : stamp.IsPrintable)
    (years : 0 ≤ stamp.localYear ∧ stamp.localYear ≤ 9999) :
    Pattern.rfc3339.fields? stamp.text.toList = some stamp.shownFields := by
  have shown := printable.shownLocally
  obtain ⟨months, days⟩ := stamp.localTime.date_bounds
  obtain ⟨undigited, other⟩ := startsUndigited_offsetText stamp.offset
  have date (rest : List Char) :=
    readItems_date (by omega : stamp.localYear.toNat ≤ 9999) months days rest
  have time (rest : List Char) := @readItems_time stamp.localYear.toNat stamp.localTime.date.month
    stamp.localTime.date.day _ _ _ stamp.localTime.hour_lt stamp.localTime.minute_lt
    shown.shownSecond_le rest
  have offset {fields : Fields} (unknown : fields .offset = none) :
      readItem fields (offsetText stamp.offset).toList (.offset Pattern.strictOffset) =
        some (fields.set .offset stamp.offset, []) := by
    have read := readItem_offset_offsetText unknown printable.isOffset printable.wholeMinutes []
    rwa [List.append_nil] at read
  rw [Pattern.fields?, toList_text years, rfc3339_eq, readItems_append, date, Option.bind_some,
    readItems_cons rfl, readItems_append, time, Option.bind_some,
    readItems_cons (readItem_fraction_fractionText rfl shown.shownFraction_lt undigited other),
    readItems_cons (offset (Fields.setFraction_offset _ _)), ← shownFields_eq]
  rfl

/-! ## What the fields make -/

/-- The date is that of the day. -/
theorem resolveDay_shownFields (years : 0 ≤ stamp.localYear ∧ stamp.localYear ≤ 9999) :
    stamp.shownFields.resolveDay = .ok stamp.localTime.dayNumber := by
  have dated : isYear stamp.localYear = true := by
    simp only [isYear, Bool.and_eq_true, decide_eq_true_eq]
    simp only [firstYear, lastYear]
    omega
  have found : dayOfDate? stamp.localYear stamp.localTime.date.month stamp.localTime.date.day =
      some stamp.localTime.dayNumber := dayOfDate?_ofDayNumber dated
  have back : (stamp.localYear.toNat : Int) = stamp.localYear := Int.toNat_of_nonneg years.1
  simp [Fields.resolveDay, shownFields, Fields.resolveYear, back, found, Fields.orInvalid,
    Fields.verified, Fields.weekDateAgrees, Fields.yearAgrees, Fields.ordinalAgrees,
    Fields.quarterAgrees, Fields.agrees, bind, Except.bind]

/-- The time of the day is that of the local clock, in a leap second as well. -/
theorem IsPrintable.resolveTime_shownFields (printable : stamp.IsPrintable) :
    stamp.shownFields.resolveTime = .ok (stamp.localTime.secondOfDay, stamp.localTime.nanos) := by
  have bounds := stamp.localTime.secondOfDay_bounds
  have start : ((stamp.localTime.hour / 12 : Int) * 12 + stamp.localTime.hour % 12) * 3600 +
      stamp.localTime.minute * 60 + (stamp.localTime.secondOfDay.toNat % 60 : Nat) =
        stamp.localTime.secondOfDay := by
    simp only [Clock.hour, Clock.minute]
    omega
  have nanos : ((stamp.shownFields .nanosecond).getD 0).toNat =
      stamp.localTime.shownFraction := by
    by_cases zero : stamp.localTime.shownFraction = 0 <;> simp [shownFields, zero]
  have resolved := @Fields.resolveTime_of_second stamp.shownFields _ _ _ _ rfl rfl rfl rfl
  rw [resolved, nanos]
  -- Only the second 60 adds a whole second to the fraction again.
  rcases printable.shownLocally.shownSecond_eq with ⟨leap, second, last⟩ | ⟨common, second⟩
  · rw [if_pos (by omega), Clock.shownFraction, if_pos leap, Nat.add_sub_cancel' leap, ← start, last]
    rfl
  · rw [if_neg (by omega), Clock.shownFraction, if_neg (Nat.not_le.mpr common), second, start]

theorem ofLocal?_localTime (dated : stamp.utc.isDated = true) :
    ofLocal? stamp.offset stamp.localTime = some stamp := by
  rw [ofLocal?, localTime, Clock.shift_shift, Int.add_right_neg, Clock.shift_zero, if_pos dated]

/-- A timestamp is read from its text. -/
theorem IsPrintable.timestamp?_text (printable : stamp.IsPrintable)
    (years : 0 ≤ stamp.localYear ∧ stamp.localYear ≤ 9999) :
    Pattern.rfc3339.timestamp? stamp.text.toList = some stamp := by
  have clock : stamp.shownFields.resolveClock stamp.offset = .ok stamp.localTime := by
    simp only [Fields.resolveClock, resolveDay_shownFields years, printable.resolveTime_shownFields,
      Clock.ofDay_dayNumber]
    rfl
  have offset : (stamp.shownFields .offset).or
      ((stamp.shownFields .epochSeconds).map fun _ => 0) = some stamp.offset := rfl
  rw [Pattern.timestamp?, printable.fields?_text years, Option.bind_some, Fields.timestamp?, offset]
  simp [clock, Except.toOption, printable.isOffset, ofLocal?_localTime printable.dated]

/-! ## Reading the text -/

/-- The text begins and ends with a digit, so there is nothing to trim. -/
theorem trim_text (years : 0 ≤ stamp.localYear ∧ stamp.localYear ≤ 9999) :
    Text.trim stamp.text.toList = stamp.text.toList ∧ stamp.text.toList ≠ [] := by
  have begins := writesNumber_padded 4 stamp.localYear.toNat
  have ends := writesNumber_padded 2 ((stamp.offset.natAbs + 30) / 60 % 60)
  obtain ⟨middle, whole⟩ : ∃ middle, stamp.text.toList =
      padded 4 stamp.localYear.toNat ++ middle ++
        padded 2 ((stamp.offset.natAbs + 30) / 60 % 60) := by
    refine ⟨'-' :: (padded 2 stamp.localTime.date.month ++ '-' ::
      (padded 2 stamp.localTime.date.day ++ 'T' :: (timeText stamp.localTime.hour
        stamp.localTime.minute stamp.localTime.shownSecond ++
          ((fractionText stamp.localTime.shownFraction).toList ++
            (if stamp.offset < 0 then '-' else '+') ::
              (padded 2 ((stamp.offset.natAbs + 30) / 60 / 60) ++ [':']))))), ?_⟩
    rw [toList_text years, toList_offsetText, dateText]
    simp
  have trims : Text.TrimsTo stamp.text.toList stamp.text.toList := by
    refine ⟨⟨[], [], by simp, by simp, by simp⟩, fun c first => ?_, fun c last => ?_⟩
    · rw [whole, List.append_assoc, List.head?_append_of_ne_nil _ begins.ne_nil] at first
      exact isBlank_of_isDigit (begins.isDigit c (List.mem_of_head? first))
    · rw [whole, List.getLast?_append_of_ne_nil _ ends.ne_nil] at last
      exact isBlank_of_isDigit (ends.isDigit c (List.mem_of_getLast? last))
  refine ⟨trims.eq_trim.symm, ?_⟩
  rw [whole]
  simp [begins.ne_nil]

end Timestamp

/-! ## What readers read -/

/-- What a value usually means is a time that a clock shows. -/
theorem isShown_of_localClock? {cs : List Char} {time : Clock}
    (read : localClock? cs = some time) : time.IsShown := by
  obtain ⟨_, _, _, _, found, _⟩ := List.findSome?_eq_some_iff.mp read
  exact Pattern.isShown_of_clock? found

theorem isShown_of_abbreviatedMeaning? {cs : List Char} {meaning : Meaning}
    (read : abbreviatedMeaning? cs = some meaning) : meaning.time.IsShown := by
  simp only [abbreviatedMeaning?, Option.bind_eq_bind, Option.bind_eq_some_iff, Prod.exists] at read
  obtain ⟨_, _, -, time, clock, read⟩ := read
  have shown := isShown_of_localClock? clock
  split at read
  · cases read
    exact shown
  · cases read
    exact shown

theorem isShown_of_textMeaning? {cs : List Char} {meaning : Meaning}
    (read : textMeaning? cs = some meaning) : meaning.time.IsShown := by
  rcases Option.or_eq_some_iff.mp read with zoned | ⟨-, read⟩
  · obtain ⟨stamp, found, rfl⟩ := Option.map_eq_some_iff.mp zoned
    rcases Option.or_eq_some_iff.mp found with strict | ⟨-, zoned⟩
    · exact Pattern.isShown_of_timestamp? strict
    · obtain ⟨_, _, _, _, found, _⟩ := List.findSome?_eq_some_iff.mp zoned
      exact Pattern.isShown_of_timestamp? found
  · rcases Option.or_eq_some_iff.mp read with clock | ⟨-, abbreviated⟩
    · obtain ⟨time, found, rfl⟩ := Option.map_eq_some_iff.mp clock
      exact isShown_of_localClock? found
    · exact isShown_of_abbreviatedMeaning? abbreviated

theorem isShown_of_ofMillis? {millis : Int} {time : Clock}
    (made : Clock.ofMillis? millis = some time) : time.IsShown := by
  simp only [Clock.ofMillis?, Option.ite_none_right_eq_some, Option.some.injEq] at made
  obtain ⟨-, rfl⟩ := made
  have small : (millis % 1000).toNat * 1000000 < nanosPerSecond := by
    rw [nanosPerSecond]
    omega
  exact ⟨by dsimp only; omega, fun leap => absurd small (Nat.not_lt.mpr leap)⟩

theorem isShown_of_usualMeaning? {raw : Json} {meaning : Meaning}
    (read : usualMeaning? raw = some meaning) : meaning.time.IsShown := by
  unfold usualMeaning? at read
  split at read
  · dsimp only at read
    split at read
    · cases read
    · exact isShown_of_textMeaning? read
  · simp only [Option.bind_eq_bind, Option.bind_eq_some_iff, Option.pure_def,
      Option.some.injEq] at read
    obtain ⟨_, -, time, made, rfl⟩ := read
    exact isShown_of_ofMillis? made

/-- A meaning that a clock shows is put on a clock whose offset is one of whole minutes. -/
theorem Meaning.isPrintable_of_at? {meaning : Meaning} {offset : Int} {stamp : Timestamp}
    (shown : meaning.time.IsShown) (isOffset : Fields.isOffset offset = true)
    (whole : offset % 60 = 0) (made : meaning.at? offset = some stamp) : stamp.IsPrintable := by
  have same : stamp.offset = offset := offset_of_at? made
  refine ⟨?_, ?_, same ▸ isOffset, same ▸ whole⟩
  · cases meaning with
    | instant utc =>
        have kept : stamp.utc = utc := keptBy_of_at? made
        exact kept ▸ shown
    | wallClock time =>
        simp only [at?, Timestamp.ofLocal?, Option.ite_none_right_eq_some,
          Option.some.injEq] at made
        obtain ⟨-, rfl⟩ := made
        exact Clock.IsShown.shift shown (by omega)
  · cases meaning with
    | instant utc =>
        simp only [at?, Option.ite_none_right_eq_some, Option.some.injEq] at made
        exact made.2 ▸ made.1
    | wallClock time => exact Timestamp.isDated_of_ofLocal? made

namespace Reader

variable {location : Location} {machine : Zone} {raw : Json} {stamp : Timestamp}

theorem isPrintable_of_read? (steady : location.IsSteady) (whole : location.offset % 60 = 0)
    (read : (make location none machine).read? raw = some stamp) : stamp.IsPrintable := by
  have formless : formMeaning? none raw = none := by
    cases raw <;> simp [formMeaning?]
  rw [read?_make_of_steady steady, formless, Option.bind_none, Option.none_or] at read
  obtain ⟨meaning, found, made⟩ := Option.bind_eq_some_iff.mp read
  exact Meaning.isPrintable_of_at? (isShown_of_usualMeaning? found) steady.isOffset whole made

/-- The text of a timestamp is read as its instant, on the clocks of any zone. -/
theorem read?_text (location : Location) (machine : Zone) (printable : stamp.IsPrintable)
    (years : 0 ≤ stamp.localYear ∧ stamp.localYear ≤ 9999) :
    (make location none machine).read? (.string stamp.text) =
      some ((location.zone machine).convert stamp) := by
  obtain ⟨trimmed, filled⟩ := Timestamp.trim_text years
  have strict := printable.timestamp?_text years
  simp [read?, readText?, trimmed, filled, make, readUsual?, strict]

end Reader

end Time
end BlogMigration
