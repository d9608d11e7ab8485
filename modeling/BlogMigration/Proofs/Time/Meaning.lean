import BlogMigration.Proofs.Time.Endings
import BlogMigration.Time.Reader

/-!
# What timestamps mean

A raw timestamp says either which instant it was, or what a clock showed. Which of the two it says
does not depend on where it is read: a location only puts the instant on its own clocks, or takes
the clock for one of its own.
-/

namespace BlogMigration
namespace Time

/-! ## Times and locations -/

/-- A clock time and those up to a day before and after it have dates. -/
def Clock.IsInside (time : Clock) : Prop :=
  ∀ seconds, -secondsPerDay ≤ seconds → seconds ≤ secondsPerDay → (time.shift seconds).isDated = true

/-- The times with dates have no gaps, so only the ends matter. -/
theorem Clock.isInside_iff (time : Clock) :
    time.IsInside ↔
      (time.shift (-secondsPerDay)).isDated = true ∧ (time.shift secondsPerDay).isDated = true := by
  constructor
  · intro inside
    exact ⟨inside _ (by decide) (by decide), inside _ (by decide) (by decide)⟩
  · rintro ⟨first, last⟩ seconds low high
    simp only [isDated, Bool.and_eq_true, decide_eq_true_eq] at *
    simp only [dayNumber, shift, secondsPerDay] at *
    omega

/-- A location whose clocks have one offset, of less than a day. -/
def Location.IsSteady : Location → Prop
  | .machine => False
  | .utc => True
  | .fixed offset => Fields.isOffset offset = true

theorem Location.IsSteady.isOffset {location : Location} (steady : location.IsSteady) :
    Fields.isOffset location.offset = true := by
  cases location with
  | machine => exact steady.elim
  | utc => rfl
  | fixed offset => exact steady

/-- The clocks of a steady location do not depend on the machine. -/
theorem Location.IsSteady.zone_eq {location : Location} (steady : location.IsSteady)
    (machine : Zone) : location.zone machine = .steady location.offset := by
  cases location with
  | machine => exact steady.elim
  | utc => rfl
  | fixed offset => rfl

theorem magnitude?_bounds {cs : List Char} {seconds : Int} (read : magnitude? cs = some seconds) :
    0 ≤ seconds ∧ seconds < secondsPerDay := by
  simp only [magnitude?, Option.bind_eq_bind, Option.bind_eq_some_iff,
    Option.ite_none_right_eq_some, Option.some.injEq] at read
  obtain ⟨hours, -, minutes, -, bounds, rfl⟩ := read
  simp only [secondsPerDay]
  omega

theorem isOffset_of_offset? {cs : List Char} {offset : Int} (read : offset? cs = some offset) :
    Fields.isOffset offset = true := by
  simp only [Fields.isOffset, Bool.and_eq_true, decide_eq_true_eq]
  unfold offset? at read
  split at read
  · have := magnitude?_bounds read
    omega
  · obtain ⟨seconds, magnitude, rfl⟩ := Option.map_eq_some_iff.mp read
    have := magnitude?_bounds magnitude
    omega
  · simp at read

/-- The location of a text is steady unless it is that of the machine. -/
theorem Location.isSteady_of_parse? {text : String} {location : Location}
    (parsed : parse? text = some location) : location = .machine ∨ location.IsSteady := by
  rw [parse?] at parsed
  split at parsed
  · exact .inl (Option.some.inj parsed).symm
  · exact .inr (Option.some.inj parsed ▸ trivial)
  · exact .inr (Option.some.inj parsed ▸ trivial)
  · obtain ⟨offset, read, rfl⟩ := Option.map_eq_some_iff.mp parsed
    exact .inr (isOffset_of_offset? read)

/-! ## Meanings -/

/-- What is said of a time: an instant, as the clock time at offset zero, or what a local clock
shows. -/
inductive Meaning where
  | instant (utc : Clock)
  | wallClock (time : Clock)
  deriving DecidableEq, Repr

namespace Meaning

def time : Meaning → Clock
  | instant utc => utc
  | wallClock time => time

/-- The timestamp on the clocks of a zone, if they show the time and its instant has a date. -/
def shownBy? (zone : Zone) : Meaning → Option Timestamp
  | instant utc => if utc.isDated then some (zone.convert ⟨utc, 0⟩) else none
  | wallClock time => zone.localize? time

/-- The timestamp at a clock of the given offset, if its instant has a date. -/
def at? (offset : Int) : Meaning → Option Timestamp
  | instant utc => if utc.isDated then some ⟨utc, offset⟩ else none
  | wallClock time => Timestamp.ofLocal? offset time

theorem shownBy?_steady (offset : Int) : shownBy? (.steady offset) = at? offset := by
  funext meaning
  cases meaning <;> rfl

/-- A timestamp keeps a meaning if it is at the instant, or if its local clock shows the time. -/
def KeptBy (stamp : Timestamp) : Meaning → Prop
  | instant utc => stamp.utc = utc
  | wallClock time => stamp.localTime = time

variable {meaning : Meaning} {zone : Zone} {offset : Int} {stamp : Timestamp}

theorem keptBy_of_shownBy? (shown : meaning.shownBy? zone = some stamp) : meaning.KeptBy stamp := by
  cases meaning with
  | instant utc =>
      simp only [shownBy?, Option.ite_none_right_eq_some, Option.some.injEq] at shown
      exact shown.2 ▸ rfl
  | wallClock time =>
      obtain ⟨offset, -, made⟩ := Option.bind_eq_some_iff.mp shown
      exact (Timestamp.localTime_ofLocal? made).1

theorem offset_of_at? (shown : meaning.at? offset = some stamp) : stamp.offset = offset := by
  cases meaning with
  | instant utc =>
      simp only [at?, Option.ite_none_right_eq_some, Option.some.injEq] at shown
      exact shown.2 ▸ rfl
  | wallClock time => exact (Timestamp.localTime_ofLocal? shown).2

theorem keptBy_of_at? (shown : meaning.at? offset = some stamp) : meaning.KeptBy stamp :=
  keptBy_of_shownBy? (shownBy?_steady offset ▸ shown)

/-- A meaning is kept on any clock whose offset is less than a day if its time is well inside the
years that dates may have. -/
theorem at?_ne_none (inside : meaning.time.IsInside) (small : Fields.isOffset offset = true) :
    meaning.at? offset ≠ none := by
  simp only [Fields.isOffset, Bool.and_eq_true, decide_eq_true_eq] at small
  cases meaning with
  | instant utc =>
      have dated : (utc.shift 0).isDated = true := inside 0 (by decide) (by decide)
      rw [Clock.shift_zero] at dated
      simp [at?, dated]
  | wallClock time =>
      have dated : (time.shift (-offset)).isDated = true := inside _ (by omega) (by omega)
      simp [at?, Timestamp.ofLocal?, dated]

end Meaning

/-! ## What texts mean -/

/-- What a text in a pattern means. It gives an instant if it has an offset or counts from 1970. -/
def Pattern.meaning? (pattern : Pattern) (cs : List Char) : Option Meaning :=
  ((pattern.timestamp? cs).map fun stamp => .instant stamp.utc).or
    ((pattern.clock? cs).map .wallClock)

/-- The clock time of a text in one of the forms without an offset. -/
def localClock? (cs : List Char) : Option Clock :=
  localForms.findSome? fun form => (Pattern.parse form).clock? cs

/-- What a text with the abbreviation of a zone after it means. Only the abbreviations of offset
zero are known. -/
def abbreviatedMeaning? (cs : List Char) : Option Meaning := do
  let (rest, zone) ← splitAbbreviation? cs
  let time ← localClock? rest
  if utcAbbreviations.any (Text.sameIgnoringAsciiCase zone) then return .instant time
  else return .wallClock time

/-- What a text in one of the usual forms means. -/
def textMeaning? (cs : List Char) : Option Meaning :=
  (((Pattern.rfc3339.timestamp? cs).or (readZoned? cs)).map fun stamp => .instant stamp.utc).or
    (((localClock? cs).map .wallClock).or (abbreviatedMeaning? cs))

/-- What a value means in a form; only texts that are not blank have a form. -/
def formMeaning? (form : Option String) : Json → Option Meaning
  | .string text =>
    let cs := Text.trim text.toList
    if cs.isEmpty then none
    else (form.filter fun text => !text.isEmpty).bind fun form => (Pattern.parse form).meaning? cs
  | _ => none

/-- What a value means when no form is given: numbers count milliseconds since 1970. -/
def usualMeaning? : Json → Option Meaning
  | .string text =>
    let cs := Text.trim text.toList
    if cs.isEmpty then none else textMeaning? cs
  | value => do
    let millis ← value.signed?
    let time ← Clock.ofMillis? millis
    return .instant time

/-- What a value means. A form that is given comes before the usual ones. -/
def meaning? (form : Option String) (raw : Json) : Option Meaning :=
  (formMeaning? form raw).or (usualMeaning? raw)

/-! ## Reading on the clocks of a zone -/

theorem Clock.isDated_of_ofMillis? {millis : Int} {time : Clock}
    (made : ofMillis? millis = some time) : time.isDated = true := by
  simp only [ofMillis?, Option.ite_none_right_eq_some, Option.some.injEq] at made
  obtain ⟨dated, rfl⟩ := made
  exact dated

theorem Timestamp.isDated_of_ofLocal? {offset : Int} {time : Clock} {stamp : Timestamp}
    (made : ofLocal? offset time = some stamp) : stamp.utc.isDated = true := by
  simp only [ofLocal?, Option.ite_none_right_eq_some, Option.some.injEq] at made
  obtain ⟨dated, rfl⟩ := made
  exact dated

theorem Pattern.isDated_of_timestamp? {pattern : Pattern} {cs : List Char} {stamp : Timestamp}
    (read : pattern.timestamp? cs = some stamp) : stamp.utc.isDated = true := by
  simp only [timestamp?, Fields.timestamp?, Option.bind_eq_bind, Option.bind_eq_some_iff,
    Option.ite_none_right_eq_some] at read
  obtain ⟨_, _, _, _, _, _, _, made⟩ := read
  exact Timestamp.isDated_of_ofLocal? made

theorem isDated_of_readZoned? {cs : List Char} {stamp : Timestamp}
    (read : readZoned? cs = some stamp) : stamp.utc.isDated = true := by
  obtain ⟨_, _, _, _, found, _⟩ := List.findSome?_eq_some_iff.mp read
  exact Pattern.isDated_of_timestamp? found

/-- A timestamp is the same instant on the clocks of any zone. -/
theorem some_convert (zone : Zone) {stamp : Timestamp} (dated : stamp.utc.isDated = true) :
    some (zone.convert stamp) = (Meaning.instant stamp.utc).shownBy? zone := by
  simp [Zone.convert, Timestamp.withOffset, Meaning.shownBy?, dated]

theorem isAlpha_of_isDigit {c : Char} (digit : c.isDigit = true) : c.isAlpha = false := by
  have digits := Char.isDigit_iff_toNat.mp digit
  have last : '9'.toNat < 'A'.toNat ∧ '9'.toNat < 'a'.toNat := by decide
  refine Bool.eq_false_iff.mpr fun letter => ?_
  rcases (Bool.or_eq_true _ _).mp letter with upper | lower
  · have low : 'A'.toNat ≤ c.toNat := (of_decide_eq_true upper).1
    omega
  · have low : 'a'.toNat ≤ c.toNat := of_decide_eq_true ((Bool.and_eq_true _ _).mp lower).1
    omega

/-- A clock time at offset zero is an instant. -/
theorem map_convert_localize? (zone : Zone) (time : Clock) :
    (Zone.utc.localize? time).map zone.convert = (Meaning.instant time).shownBy? zone := by
  by_cases dated : time.isDated = true <;>
    simp [Zone.localize?, Zone.utc, Zone.steady, Zone.convert, Timestamp.ofLocal?,
      Timestamp.withOffset, Meaning.shownBy?, dated]

/-- A text that is read as a local time ends in a digit, and not in the abbreviation of a zone. -/
theorem splitAbbreviation?_of_localClock? {cs : List Char} {time : Clock}
    (read : localClock? cs = some time) : splitAbbreviation? cs = none := by
  have numbers : ∀ form ∈ localForms, (Pattern.parse form).endsInNumber = true := by decide
  obtain ⟨before, form, after, listed, found, -⟩ := List.findSome?_eq_some_iff.mp read
  obtain ⟨fields, matched, -⟩ := Option.bind_eq_some_iff.mp found
  obtain ⟨front, digit, isDigit, rfl⟩ :=
    Pattern.exists_last_digit (numbers form (by simp [listed])) matched
  cases split : Text.splitLast? ' ' (front ++ [digit]) with
  | none => simp [splitAbbreviation?, split]
  | some parts =>
      obtain ⟨rest, zone⟩ := parts
      obtain ⟨cut, -⟩ := Text.splitLast?_eq_some split
      rcases List.eq_nil_or_concat zone with rfl | ⟨letters, last, rfl⟩
      · simp [splitAbbreviation?, split]
      · have cut : front ++ [digit] = (rest ++ ' ' :: letters) ++ [last] := by simpa using cut
        obtain ⟨rfl, -⟩ := List.cons.inj (List.append_inj_right' cut rfl)
        simp [splitAbbreviation?, split, isAlpha_of_isDigit isDigit]

theorem readLocal?_eq (zone : Zone) (cs : List Char) :
    readLocal? zone cs = (localClock? cs).bind zone.localize? :=
  rfl

namespace Reader

theorem readForm?_eq (reader : Reader) (form : String) (cs : List Char) :
    reader.readForm? form cs =
      ((Pattern.parse form).meaning? cs).bind (Meaning.shownBy? reader.zone) := by
  cases read : (Pattern.parse form).timestamp? cs with
  | some stamp =>
      simp [readForm?, Pattern.meaning?, read,
        some_convert reader.zone (Pattern.isDated_of_timestamp? read)]
  | none =>
      cases clock : (Pattern.parse form).clock? cs <;>
        simp [readForm?, Pattern.meaning?, read, clock, Meaning.shownBy?]

theorem readAbbreviated?_eq (reader : Reader) (cs : List Char) :
    reader.readAbbreviated? cs =
      (abbreviatedMeaning? cs).bind (Meaning.shownBy? reader.zone) := by
  rw [readAbbreviated?, abbreviatedMeaning?]
  cases splitAbbreviation? cs with
  | none => rfl
  | some parts =>
      obtain ⟨rest, zone⟩ := parts
      simp only [Option.bind_eq_bind, Option.bind_some, readLocal?_eq]
      cases localClock? rest with
      | none => simp
      | some time =>
          split
          · exact map_convert_localize? reader.zone time
          · rfl

theorem readUsual?_eq (reader : Reader) (cs : List Char) :
    reader.readUsual? cs = (textMeaning? cs).bind (Meaning.shownBy? reader.zone) := by
  cases read : (Pattern.rfc3339.timestamp? cs).or (readZoned? cs) with
  | some stamp =>
      have dated : stamp.utc.isDated = true := by
        rcases Option.or_eq_some_iff.mp read with strict | ⟨-, zoned⟩
        · exact Pattern.isDated_of_timestamp? strict
        · exact isDated_of_readZoned? zoned
      simp [readUsual?, textMeaning?, read, some_convert reader.zone dated]
  | none =>
      cases clock : localClock? cs with
      | some time =>
          -- If the clocks have no date for the time, abbreviations are still tried: there is none.
          have unmarked : reader.readAbbreviated? cs = none := by
            simp [readAbbreviated?, splitAbbreviation?_of_localClock? clock]
          simp [readUsual?, textMeaning?, read, clock, readLocal?_eq, unmarked, Meaning.shownBy?]
      | none => simp [readUsual?, textMeaning?, read, clock, readLocal?_eq, readAbbreviated?_eq]

/-- A value is read by what it means in the form, put on the clocks of the location; if they have no
date for that, by what it usually means. -/
theorem read?_make (location : Location) (form : Option String) (machine : Zone) (raw : Json) :
    (make location form machine).read? raw =
      ((formMeaning? form raw).bind (Meaning.shownBy? (location.zone machine))).or
        ((usualMeaning? raw).bind (Meaning.shownBy? (location.zone machine))) := by
  cases raw with
  | string text =>
      simp only [read?, readText?, formMeaning?, usualMeaning?, make]
      split
      · rfl
      · rw [readUsual?_eq]
        cases form.filter fun text => !text.isEmpty with
        | none => rfl
        | some form => simp [readForm?_eq]
  | integer n =>
      cases signed : (Json.integer n).signed? with
      | none => simp [read?, formMeaning?, usualMeaning?, signed]
      | some millis =>
          cases read : Clock.ofMillis? millis with
          | none => simp [read?, formMeaning?, usualMeaning?, signed, read]
          | some time =>
              have dated : (⟨time, 0⟩ : Timestamp).utc.isDated = true :=
                Clock.isDated_of_ofMillis? read
              simpa [read?, make, formMeaning?, usualMeaning?, signed, read] using
                some_convert (location.zone machine) dated
  | null | bool | double | array | object => rfl

/-- Wherever a value is read, the timestamp keeps what the value means in the form, or what it
usually means. -/
theorem keptBy_of_read? {location : Location} {form : Option String} {machine : Zone} {raw : Json}
    {stamp : Timestamp} (read : (make location form machine).read? raw = some stamp) :
    ∃ meaning, (formMeaning? form raw = some meaning ∨ usualMeaning? raw = some meaning) ∧
      meaning.KeptBy stamp := by
  rw [read?_make] at read
  rcases Option.or_eq_some_iff.mp read with formed | ⟨-, usual⟩
  · obtain ⟨meaning, found, shown⟩ := Option.bind_eq_some_iff.mp formed
    exact ⟨meaning, .inl found, Meaning.keptBy_of_shownBy? shown⟩
  · obtain ⟨meaning, found, shown⟩ := Option.bind_eq_some_iff.mp usual
    exact ⟨meaning, .inr found, Meaning.keptBy_of_shownBy? shown⟩

/-! ## Two locations -/

variable {location : Location} {form : Option String} {machine : Zone} {raw : Json}

theorem read?_make_of_steady (steady : location.IsSteady) :
    (make location form machine).read? raw =
      ((formMeaning? form raw).bind (Meaning.at? location.offset)).or
        ((usualMeaning? raw).bind (Meaning.at? location.offset)) := by
  rw [read?_make, steady.zone_eq, Meaning.shownBy?_steady]

/-- A timestamp is always on the clocks of the location. -/
theorem offset_of_read? (steady : location.IsSteady) {stamp : Timestamp}
    (read : (make location form machine).read? raw = some stamp) :
    stamp.offset = location.offset := by
  rw [read?_make_of_steady steady] at read
  rcases Option.or_eq_some_iff.mp read with formed | ⟨-, usual⟩
  · obtain ⟨_, -, shown⟩ := Option.bind_eq_some_iff.mp formed
    exact Meaning.offset_of_at? shown
  · obtain ⟨_, -, shown⟩ := Option.bind_eq_some_iff.mp usual
    exact Meaning.offset_of_at? shown

/-- Where the location has a date for what the value means in the form, the value is read by its
meaning. -/
theorem read?_eq_of_form (steady : location.IsSteady)
    (dated : ∀ meaning, formMeaning? form raw = some meaning →
      meaning.at? location.offset ≠ none) :
    (make location form machine).read? raw =
      (meaning? form raw).bind (Meaning.at? location.offset) := by
  rw [read?_make_of_steady steady, meaning?]
  cases formed : formMeaning? form raw with
  | none => rfl
  | some meaning =>
      obtain ⟨stamp, shown⟩ := Option.ne_none_iff_exists'.mp (dated meaning formed)
      simp [shown]

/-- Where the location has no date for what the value means in the form, the value is read as if no
form were given. -/
theorem read?_eq_of_not_form (steady : location.IsSteady) {meaning : Meaning}
    (formed : formMeaning? form raw = some meaning)
    (undated : meaning.at? location.offset = none) :
    (make location form machine).read? raw = (make location none machine).read? raw := by
  have formless : formMeaning? none raw = none := by
    cases raw <;> simp [formMeaning?]
  simp [read?_make_of_steady steady, formed, undated, formless]

/-- A value whose time is well inside the years that dates may have is read wherever it has a
meaning. -/
theorem read?_eq_none_iff (steady : location.IsSteady)
    (inside : ∀ meaning, meaning? form raw = some meaning → meaning.time.IsInside) :
    (make location form machine).read? raw = none ↔ meaning? form raw = none := by
  have shown {meaning : Meaning} (found : meaning? form raw = some meaning) :
      meaning.at? location.offset ≠ none :=
    Meaning.at?_ne_none (inside meaning found) steady.isOffset
  have formed {meaning : Meaning} (formed : formMeaning? form raw = some meaning) :
      meaning.at? location.offset ≠ none :=
    shown (by simp [meaning?, formed])
  rw [read?_eq_of_form steady fun _ => formed]
  cases found : meaning? form raw with
  | none => simp
  | some meaning => simp [shown found]

/-- The location never changes what a value means, whatever clocks the machine has. Timestamps are
on the clocks of the location. Two locations that have a date for what the value means in the form,
if it means anything there, both keep the same meaning; a location that has none reads the value as
if no form were given. Well inside the years that dates may have, both locations read the same
values. -/
theorem locations_keep_meaning (first second : Location) (form : Option String) (raw : Json)
    (machine : Zone) (firstSteady : first.IsSteady) (secondSteady : second.IsSteady) :
    (∀ stamp, (make first form machine).read? raw = some stamp → stamp.offset = first.offset) ∧
    (∀ one other, (make first form machine).read? raw = some one →
      (make second form machine).read? raw = some other →
      (∀ meaning, formMeaning? form raw = some meaning →
        meaning.at? first.offset ≠ none ∧ meaning.at? second.offset ≠ none) →
      ∃ meaning, meaning? form raw = some meaning ∧ meaning.KeptBy one ∧ meaning.KeptBy other) ∧
    (∀ meaning, formMeaning? form raw = some meaning → meaning.at? first.offset = none →
      (make first form machine).read? raw = (make first none machine).read? raw) ∧
    ((∀ meaning, meaning? form raw = some meaning → meaning.time.IsInside) →
      ((make first form machine).read? raw = none ↔
        (make second form machine).read? raw = none)) := by
  refine ⟨fun stamp => offset_of_read? firstSteady, ?_,
    fun meaning => read?_eq_of_not_form firstSteady, ?_⟩
  · intro one other readOne readOther dated
    rw [read?_eq_of_form firstSteady fun meaning formed => (dated meaning formed).1] at readOne
    rw [read?_eq_of_form secondSteady fun meaning formed => (dated meaning formed).2] at readOther
    obtain ⟨meaning, found, shownOne⟩ := Option.bind_eq_some_iff.mp readOne
    rw [found] at readOther
    exact ⟨meaning, found, Meaning.keptBy_of_at? shownOne, Meaning.keptBy_of_at? readOther⟩
  · intro inside
    rw [read?_eq_none_iff firstSteady inside, read?_eq_none_iff secondSteady inside]

/-- A clock time in a form, with a fraction of a second, and one that only some clocks can show. -/
theorem locations_keep_meaning_of_fraction :
    let form := some "%d/%m/%Y %H:%M:%S%.f"
    let raw := Json.string " 10/01/2019 21:43:21.25 "
    let lateForm := some "%Y-%m-%d %H:%M:%S+01"
    let late := Json.string "+262142-12-31 23:59:59+01"
    let shown : Meaning := .wallClock ⟨1547156601, 250000000⟩
    (Location.utc.IsSteady ∧ (Location.fixed (-7200)).IsSteady) ∧
    (meaning? form raw = some shown ∧ shown.time.IsInside) ∧
    (∃ one other, (make .utc form).read? raw = some one ∧ one.offset = 0 ∧
      (make (.fixed (-7200)) form).read? raw = some other ∧ other.offset = -7200 ∧
      shown.KeptBy one ∧ shown.KeptBy other) ∧
    ((make .utc form).read? raw = none ↔ (make (.fixed (-7200)) form).read? raw = none) ∧
    (∃ meaning, formMeaning? lateForm late = some meaning ∧ meaning.at? (-7200) = none) ∧
    (make (.fixed (-7200)) lateForm).read? late = (make (.fixed (-7200)) none).read? late := by
  intro form raw lateForm late shown
  have utc : Location.utc.IsSteady := trivial
  have west : (Location.fixed (-7200)).IsSteady := rfl
  have formed : formMeaning? form raw = some shown := by decide +kernel
  have found : meaning? form raw = some shown := by simp [meaning?, formed]
  have inside : shown.time.IsInside := (Clock.isInside_iff _).mpr (by decide)
  have lateFormed : formMeaning? lateForm late = some (.wallClock ⟨8210266876799, 0⟩) := by
    decide +kernel
  have readUtc : (make .utc form).read? raw = some ⟨⟨1547156601, 250000000⟩, 0⟩ := by
    decide +kernel
  have readWest :
      (make (.fixed (-7200)) form).read? raw = some ⟨⟨1547163801, 250000000⟩, -7200⟩ := by
    decide +kernel
  have undated : (Meaning.wallClock ⟨8210266876799, 0⟩).at? (-7200) = none := by decide
  have dated : ∀ meaning, formMeaning? form raw = some meaning →
      meaning.at? 0 ≠ none ∧ meaning.at? (-7200) ≠ none := by
    intro meaning same
    obtain rfl := Option.some.inj (formed.symm.trans same)
    decide
  have insides : ∀ meaning, meaning? form raw = some meaning → meaning.time.IsInside := by
    intro meaning same
    obtain rfl := Option.some.inj (found.symm.trans same)
    exact inside
  obtain ⟨offsetUtc, kept, -, nones⟩ := locations_keep_meaning _ _ form raw .utc utc west
  obtain ⟨offsetWest, -, -, -⟩ := locations_keep_meaning _ _ form raw .utc west utc
  obtain ⟨-, -, fallsBack, -⟩ := locations_keep_meaning _ _ lateForm late .utc west utc
  obtain ⟨meaning, same, keptUtc, keptWest⟩ := kept _ _ readUtc readWest dated
  obtain rfl := Option.some.inj (found.symm.trans same)
  exact ⟨⟨utc, west⟩, ⟨found, inside⟩,
    ⟨_, _, readUtc, offsetUtc _ readUtc, readWest, offsetWest _ readWest, keptUtc, keptWest⟩,
    nones insides, ⟨_, lateFormed, undated⟩, fallsBack _ lateFormed undated⟩

/-- At the end of the last year a location may lack a date for what the form says, and then falls
back on the usual forms. An offset of a day or more is no offset, so that the form with it gives a
clock time. -/
theorem locations_differ_in_last_hour :
    (∃ one other,
      (make .utc (some "%Y-%m-%d %H:%M:%S+01")).read?
        (.string "+262142-12-31 23:59:59+01") = some one ∧
      (make (.fixed (-7200)) (some "%Y-%m-%d %H:%M:%S+01")).read?
        (.string "+262142-12-31 23:59:59+01") = some other ∧
      one.utc ≠ other.utc ∧ one.localTime ≠ other.localTime) ∧
    (∃ one other,
      (make .utc (some "%Y-%m-%d %H:%M:%S%z")).read? (.string "2020-01-01 00:00:00+2500") =
        some one ∧
      (make (.fixed 7200) (some "%Y-%m-%d %H:%M:%S%z")).read?
        (.string "2020-01-01 00:00:00+2500") = some other ∧
      one.utc ≠ other.utc) := by
  refine ⟨⟨⟨⟨8210266876799, 0⟩, 0⟩, ⟨⟨8210266873199, 0⟩, -7200⟩, ?_, ?_, ?_, ?_⟩,
    ⟨⟨⟨1577836800, 0⟩, 0⟩, ⟨⟨1577829600, 0⟩, 7200⟩, ?_, ?_, ?_⟩⟩ <;> decide +kernel

end Reader

end Time
end BlogMigration
