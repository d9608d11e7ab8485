import BlogMigration.Time.Reading

/-!
# What reading can gather

Whatever a text says, each field that is known is within its bounds, and an offset is one of whole
minutes, as items show it in hours and minutes only. So a clock time that is worked out from fields
shows a leap second only as the last second of a minute.
-/

namespace BlogMigration
namespace Time

namespace Fields

/-- The fields that are known are within their bounds, and the offset is one of whole minutes. -/
structure IsSound (fields : Fields) : Prop where
  bounded : ∀ slot value, fields slot = some value → slot.bounds.1 ≤ value ∧ value ≤ slot.bounds.2
  wholeMinutes : ∀ offset, fields .offset = some offset → offset % 60 = 0

theorem isSound_unknown : unknown.IsSound :=
  ⟨nofun, nofun⟩

variable {fields next : Fields} {value : Int}

/-- One field is set. -/
theorem IsSound.put? {slot : Slot} (sound : fields.IsSound)
    (put : fields.put? slot value = some next) (whole : slot = .offset → value % 60 = 0) :
    next.IsSound := by
  simp only [Fields.put?, Option.ite_none_left_eq_some] at put
  obtain ⟨inside, put⟩ := put
  cases known : fields slot with
  | some old =>
      simp only [known, Option.ite_none_right_eq_some, Option.some.injEq] at put
      exact put.2 ▸ sound
  | none =>
      simp only [known, Option.some.injEq] at put
      subst put
      constructor
      · intro other found same
        split at same
        · next here =>
            cases same
            subst here
            omega
        · exact sound.bounded other found same
      · intro offset same
        split at same
        · next here =>
            cases same
            exact whole here.symm
        · exact sound.wholeMinutes offset same

theorem IsSound.putHour? (sound : fields.IsSound) (put : fields.putHour? value = some next) :
    next.IsSound := by
  obtain ⟨half, first, second⟩ := Option.bind_eq_some_iff.mp put
  exact (sound.put? first nofun).put? second nofun

theorem IsSound.putHalfHour? (sound : fields.IsSound)
    (put : fields.putHalfHour? value = some next) : next.IsSound := by
  simp only [Fields.putHalfHour?, Option.ite_none_right_eq_some] at put
  exact sound.put? put.2 nofun

end Fields

open Fields

variable {fields next : Fields} {cs rest : List Char} {value : Int}

/-! ## Items -/

theorem Fields.IsSound.record? (sound : fields.IsSound) {kind : NumberKind}
    (recorded : kind.record? value fields = some next) : next.IsSound := by
  cases kind with
  | daysFromSunday | weekdayFromMonday =>
      simp only [NumberKind.record?, Option.ite_none_right_eq_some] at recorded
      exact sound.put? recorded.2 nofun
  | hour =>
      simp only [NumberKind.record?, Option.ite_none_right_eq_some] at recorded
      exact sound.putHour? recorded.2
  | halfHour => exact sound.putHalfHour? recorded
  | _ => exact sound.put? recorded nofun

theorem Fields.IsSound.into (sound : fields.IsSound) {slot : Slot}
    {found : Option (Int × List Char)}
    (read : into slot fields found = some (next, rest))
    (whole : slot = .offset → ∀ value rest, found = some (value, rest) → value % 60 = 0) :
    next.IsSound := by
  simp only [Time.into, Option.bind_eq_bind, Option.bind_eq_some_iff, Option.pure_def,
    Option.some.injEq, Prod.mk.injEq, Prod.exists] at read
  obtain ⟨value, _, same, _, put, rfl, rfl⟩ := read
  exact sound.put? put fun offset => whole offset value _ same

/-- An offset is read in hours and minutes. -/
theorem readOffset_wholeMinutes {form : OffsetForm}
    (read : readOffset form cs = some (value, rest)) : value % 60 = 0 := by
  unfold readOffset at read
  split at read
  · cases read
    rfl
  · cases read
    rfl
  · simp only [Option.bind_eq_bind, Option.bind_eq_some_iff, Prod.exists] at read
    obtain ⟨sign, _, signed, hours, _, -, _, -, read⟩ := read
    have unit : sign = 1 ∨ sign = -1 := by
      unfold readSign at signed
      split at signed <;> simp_all
    split at read
    · simp only [Option.pure_def, Option.some.injEq, Prod.mk.injEq] at read
      rcases unit with rfl | rfl <;> omega
    · simp only [Option.bind_eq_some_iff, Prod.exists] at read
      obtain ⟨minutes, _, -, read⟩ := read
      simp only [Option.pure_def, Option.ite_none_right_eq_some, Option.some.injEq,
        Prod.mk.injEq] at read
      rcases unit with rfl | rfl <;> omega

theorem Fields.IsSound.readOffsetItem (sound : fields.IsSound) {form : OffsetForm}
    (read : readOffsetItem form fields cs = some (next, rest)) : next.IsSound := by
  rw [Time.readOffsetItem] at read
  split at read
  · simp only [Option.bind_eq_bind, Option.bind_eq_some_iff, Option.ite_none_right_eq_some,
      Prod.exists] at read
    obtain ⟨offset, after, found, -, read⟩ := read
    refine sound.into read fun _ value rest same => ?_
    cases same
    exact readOffset_wholeMinutes found
  · exact sound.into read fun _ value rest => readOffset_wholeMinutes

/-- Reading an item keeps the fields sound. -/
theorem Fields.IsSound.readItem (sound : fields.IsSound) {item : Item}
    (read : readItem fields cs item = some (next, rest)) : next.IsSound := by
  cases item with
  | literal text =>
      simp only [Time.readItem, Option.map_eq_some_iff, Prod.mk.injEq] at read
      obtain ⟨_, -, rfl, -⟩ := read
      exact sound
  | blanks | zoneName =>
      cases read
      exact sound
  | number kind | exactly width kind =>
      simp only [Time.readItem, Option.bind_eq_bind, Option.bind_eq_some_iff, Option.pure_def,
        Option.some.injEq, Prod.mk.injEq, Prod.exists] at read
      obtain ⟨_, _, -, _, recorded, rfl, -⟩ := read
      exact sound.record? recorded
  | monthName long | weekdayName long | placesOf places => exact sound.into read nofun
  | halfDay =>
      rw [Time.readItem] at read
      split at read
      · exact sound.into read nofun
      · exact sound.into read nofun
      · cases read
  | fraction | fractionOf places =>
      rw [readItem.eq_def] at read
      dsimp only at read
      split at read
      · exact sound.into read nofun
      · cases read
        exact sound
  | offset form => exact sound.readOffsetItem read
  | dateTimeMark =>
      rw [readItem.eq_def] at read
      dsimp only at read
      split at read <;> cases read <;> exact sound
  | utcOrOffset =>
      rw [Time.readItem] at read
      split at read
      · refine sound.into read fun _ value rest same => ?_
        cases same
        rfl
      · exact sound.into read fun _ value rest => readOffset_wholeMinutes
  | unknown => cases read

theorem Fields.IsSound.readItems (sound : fields.IsSound) {pattern : Pattern}
    (read : readItems fields cs pattern = some (next, rest)) : next.IsSound := by
  induction pattern generalizing fields cs with
  | nil =>
      cases read
      exact sound
  | cons item others ih =>
      simp only [Time.readItems, Option.bind_eq_bind, Option.bind_eq_some_iff,
        Prod.exists] at read
      obtain ⟨_, _, first, others⟩ := read
      exact ih (sound.readItem first) others

theorem Pattern.isSound_of_fields? {pattern : Pattern}
    (found : pattern.fields? cs = some fields) : fields.IsSound := by
  rw [fields?] at found
  split at found
  · next read =>
      cases found
      exact isSound_unknown.readItems read
  · cases found

/-! ## Clock times -/

/-- A clock shows a time: its nanoseconds go beyond a whole second only in a leap second, which is
the last one of a minute. -/
structure Clock.IsShown (time : Clock) : Prop where
  nanos : time.nanos < 2 * nanosPerSecond
  leap : nanosPerSecond ≤ time.nanos → time.seconds % 60 = 59

theorem Clock.IsShown.shift {time : Clock} (shown : time.IsShown) {seconds : Int}
    (whole : seconds % 60 = 0) : (time.shift seconds).IsShown := by
  refine ⟨shown.nanos, fun leap => ?_⟩
  have last := shown.leap leap
  rw [Clock.shift]
  dsimp only
  omega

namespace Fields

/-- A time of the day is resolved from its fields. Only the second 60 goes beyond a whole second,
and it is shown as second 59. -/
theorem isShown_of_resolveTime {second : Int} {nanos : Nat} (sound : fields.IsSound)
    (resolved : fields.resolveTime = .ok (second, nanos)) (day : Int) :
    (Clock.ofDay day second nanos).IsShown := by
  have inNanos (given : Option Int) (known : fields .nanosecond = given) :
      (given.getD 0).toNat < nanosPerSecond := by
    cases given with
    | none => decide
    | some given =>
        have bounds := sound.bounded .nanosecond given known
        simp only [Slot.bounds] at bounds
        simp only [Option.getD_some, nanosPerSecond]
        omega
  simp only [resolveTime, bind, Except.bind] at resolved
  split at resolved
  · cases resolved
  split at resolved
  · cases resolved
  split at resolved
  · cases resolved
  split at resolved
  · cases resolved
  · cases resolved
    exact ⟨Nat.zero_lt_succ _, nofun⟩
  · next given known =>
      have small := inNanos _ rfl
      generalize ((fields .nanosecond).getD 0).toNat = more at small resolved
      split at resolved
      · next leap =>
          cases resolved
          refine ⟨by dsimp only [Clock.ofDay]; omega, fun _ => ?_⟩
          simp only [Clock.ofDay, secondsPerDay]
          omega
      · cases resolved
        refine ⟨by dsimp only [Clock.ofDay]; omega, fun leap => ?_⟩
        exact absurd leap (Nat.not_le.mpr small)

/-- The fields of a day and of a time of the day are set, whatever is known. -/
theorem IsSound.putTime (sound : fields.IsSound) {year ordinal hour minute : Int}
    (put : ((fields.put? .year year).bind fun fields => (fields.put? .ordinal ordinal).bind
      fun fields => (fields.putHour? hour).bind (Fields.put? .minute minute)) = some next) :
    next.IsSound := by
  simp only [Option.bind_eq_some_iff] at put
  obtain ⟨_, first, _, second, _, third, fourth⟩ := put
  exact (((sound.put? first nofun).put? second nofun).putHour? third).put? fourth nofun

/-- Fields that seconds since 1970 complete are sound. -/
theorem IsSound.completeFrom {time : Clock} (sound : fields.IsSound)
    (completed : fields.completeFrom time = .ok next) : next.IsSound := by
  unfold Fields.completeFrom at completed
  simp only [bind, Except.bind] at completed
  split at completed
  · -- A leap second is known: the clock is at the second before it, or behind it.
    split at completed
    · split at completed
      · next put =>
          cases completed
          exact sound.putTime put
      · cases completed
    · split at completed
      · split at completed
        · next put =>
            cases completed
            exact sound.putTime put
        · cases completed
      · cases completed
  · cases second : fields.put? .second (time.seconds % 60) with
    | none => simp [second] at completed
    | some timed =>
        simp only [second] at completed
        split at completed
        · next put =>
            cases completed
            exact (sound.put? second nofun).putTime put
        · cases completed

theorem of_ite_error {α : Type} {invalid : Prop} [Decidable invalid] {gap : Gap}
    {found : Except Gap α} {result : α}
    (resolved : (if invalid then .error gap else found) = .ok result) : found = .ok result := by
  split at resolved
  · cases resolved
  · exact resolved

/-- A clock time is resolved from the fields as they are, or from those that seconds since 1970
complete. -/
theorem isShown_of_resolveClock {offset : Int} {time : Clock} (sound : fields.IsSound)
    (resolved : fields.resolveClock offset = .ok time) : time.IsShown := by
  unfold resolveClock at resolved
  split at resolved
  · next day second nanos _ found =>
      dsimp only at resolved
      split at resolved
      · cases resolved
        exact isShown_of_resolveTime sound found day
      · cases resolved
  · split at resolved
    · cases resolved
    · next given _ =>
        -- The fields are not known to be invalid, and the seconds have a date.
        have valid := of_ite_error resolved
        dsimp only at valid
        split at valid
        · cases completed : fields.completeFrom ⟨given + offset, 0⟩ with
          | error gap => simp [completed, bind, Except.bind] at valid
          | ok next =>
              cases day : next.resolveDay with
              | error gap => simp [completed, day, bind, Except.bind] at valid
              | ok number =>
                  cases found : next.resolveTime with
                  | error gap => simp [completed, day, found, bind, Except.bind] at valid
                  | ok parts =>
                      simp only [completed, day, found, bind, Except.bind] at valid
                      cases valid
                      exact isShown_of_resolveTime (sound.completeFrom completed) found number
        · cases valid

theorem isShown_of_toOption {offset : Int} {time : Clock} (sound : fields.IsSound)
    (found : (fields.resolveClock offset).toOption = some time) : time.IsShown := by
  cases resolved : fields.resolveClock offset with
  | error gap => simp [resolved, Except.toOption] at found
  | ok shown =>
      simp only [resolved, Except.toOption, Option.some.injEq] at found
      exact found ▸ isShown_of_resolveClock sound resolved

/-- An instant is as far from the clock time as whole minutes make it. -/
theorem isShown_of_timestamp? {stamp : Timestamp} (sound : fields.IsSound)
    (read : fields.timestamp? = some stamp) : stamp.utc.IsShown := by
  simp only [timestamp?, Option.bind_eq_bind, Option.bind_eq_some_iff,
    Option.ite_none_right_eq_some] at read
  obtain ⟨offset, known, time, found, -, made⟩ := read
  have whole : -offset % 60 = 0 := by
    have given : offset % 60 = 0 := by
      rcases Option.or_eq_some_iff.mp known with known | ⟨-, epoch⟩
      · exact sound.wholeMinutes offset known
      · obtain ⟨_, -, rfl⟩ := Option.map_eq_some_iff.mp epoch
        rfl
    omega
  simp only [Timestamp.ofLocal?, Option.ite_none_right_eq_some, Option.some.injEq] at made
  obtain ⟨-, rfl⟩ := made
  exact (isShown_of_toOption sound found).shift whole

end Fields

theorem Pattern.isShown_of_timestamp? {pattern : Pattern} {stamp : Timestamp}
    (read : pattern.timestamp? cs = some stamp) : stamp.utc.IsShown := by
  obtain ⟨fields, found, made⟩ := Option.bind_eq_some_iff.mp read
  exact Fields.isShown_of_timestamp? (isSound_of_fields? found) made

theorem Pattern.isShown_of_clock? {pattern : Pattern} {time : Clock}
    (read : pattern.clock? cs = some time) : time.IsShown := by
  obtain ⟨fields, found, made⟩ := Option.bind_eq_some_iff.mp read
  exact Fields.isShown_of_toOption (isSound_of_fields? found) made

end Time
end BlogMigration
