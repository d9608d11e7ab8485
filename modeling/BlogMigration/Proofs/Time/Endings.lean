import BlogMigration.Time.Reading

/-!
# Endings

Reading takes text from the front: what an item leaves is an ending of the text it was given. A
pattern that ends in a number therefore only matches texts that end in a digit.
-/

namespace BlogMigration
namespace Time

open Text (trimStart dropFront?)

variable {cs rest : List Char}

/-- A digit stands in a text right before its ending `rest`. -/
def DigitBefore (rest cs : List Char) : Prop :=
  ∃ front digit, digit.isDigit = true ∧ front ++ digit :: rest = cs

theorem DigitBefore.suffix (before : DigitBefore rest cs) : rest <:+ cs := by
  obtain ⟨front, digit, -, rfl⟩ := before
  exact ⟨front ++ [digit], by simp⟩

theorem DigitBefore.of_suffix {text : List Char} (before : DigitBefore rest cs)
    (suffix : cs <:+ text) : DigitBefore rest text := by
  obtain ⟨front, digit, isDigit, rfl⟩ := before
  obtain ⟨skipped, rfl⟩ := suffix
  exact ⟨skipped ++ front, digit, isDigit, by simp⟩

/-- The last of some digits stands before what follows them. -/
theorem digitBefore_append {digits : List Char} (some : digits ≠ [])
    (all : ∀ c ∈ digits, c.isDigit = true) (rest : List Char) :
    DigitBefore rest (digits ++ rest) :=
  ⟨digits.dropLast, digits.getLast some, all _ (List.getLast_mem some), by
    rw [List.append_cons, List.dropLast_concat_getLast]⟩

/-! ## Numbers -/

theorem takeDigits_append (width : Nat) (cs : List Char) :
    (takeDigits width cs).1 ++ (takeDigits width cs).2 = cs := by
  fun_induction takeDigits width cs <;> simp_all

theorem isDigit_of_mem_takeDigits (width : Nat) (cs : List Char) :
    ∀ c ∈ (takeDigits width cs).1, c.isDigit = true := by
  fun_induction takeDigits width cs <;> simp_all

theorem takeNumber_suffix {least most : Nat} {value : Int}
    (read : takeNumber least most cs = some (value, rest)) : rest <:+ cs := by
  have parts := takeDigits_append most cs
  simp only [takeNumber, Option.ite_none_left_eq_some, Option.some.injEq, Prod.mk.injEq] at read
  obtain ⟨-, -, rfl⟩ := read
  exact ⟨_, parts⟩

theorem takeNumber_digitBefore {most : Nat} {value : Int}
    (read : takeNumber 1 most cs = some (value, rest)) : DigitBefore rest cs := by
  have parts := takeDigits_append most cs
  have digits := isDigit_of_mem_takeDigits most cs
  simp only [takeNumber, Option.ite_none_left_eq_some, Option.some.injEq, Prod.mk.injEq] at read
  obtain ⟨enough, -, rfl⟩ := read
  have some : (takeDigits most cs).1 ≠ [] := by
    intro empty
    simp [empty] at enough
  have before := digitBefore_append some digits (takeDigits most cs).2
  rwa [parts] at before

theorem readNumber_digitBefore {kind : NumberKind} {value : Int}
    (read : readNumber kind cs = some (value, rest)) : DigitBefore rest cs := by
  have blanks : trimStart cs <:+ cs := List.dropWhile_suffix _
  suffices DigitBefore rest (trimStart cs) from this.of_suffix blanks
  simp only [readNumber] at read
  generalize trimStart cs = text at read ⊢
  split at read
  · split at read
    · simp only [Option.map_eq_some_iff, Prod.mk.injEq, Prod.exists] at read
      obtain ⟨_, _, taken, -, rfl⟩ := read
      exact (takeNumber_digitBefore taken).of_suffix (List.suffix_cons _ _)
    · exact (takeNumber_digitBefore read).of_suffix (List.suffix_cons _ _)
    · exact takeNumber_digitBefore read
  · exact takeNumber_digitBefore read

theorem readFraction_digitBefore {value : Int} (read : readFraction cs = some (value, rest)) :
    DigitBefore rest cs := by
  have parts := takeDigits_append 9 cs
  have digits := isDigit_of_mem_takeDigits 9 cs
  simp only [readFraction, Option.ite_none_left_eq_some, Option.some.injEq, Prod.mk.injEq] at read
  obtain ⟨some, -, rfl⟩ := read
  generalize (takeDigits 9 cs).1 = first, (takeDigits 9 cs).2 = others at *
  -- The digits from the tenth place on are passed over, so the last digit may be one of them.
  have all : ∀ c ∈ first ++ others.takeWhile Char.isDigit, c.isDigit = true := by
    intro c member
    rcases List.mem_append.mp member with member | member
    · exact digits c member
    · exact List.all_eq_true.mp List.all_takeWhile c member
  have before := digitBefore_append (by simp_all) all (others.dropWhile Char.isDigit)
  rwa [List.append_assoc, List.takeWhile_append_dropWhile, parts] at before

theorem readPlaces_suffix {places : Nat} {value : Int}
    (read : readPlaces places cs = some (value, rest)) : rest <:+ cs := by
  simp only [readPlaces, Option.map_eq_some_iff, Prod.mk.injEq, Prod.exists] at read
  obtain ⟨_, _, taken, -, rfl⟩ := read
  exact takeNumber_suffix taken

/-! ## Names and offsets -/

theorem dropFront?_suffix {front : List Char} (dropped : dropFront? front cs = some rest) :
    rest <:+ cs :=
  ⟨front, (Text.dropFront?_eq_some_iff.mp dropped).symm⟩

theorem dropIgnoringCase?_suffix {front : List Char}
    (dropped : dropIgnoringCase? front cs = some rest) : rest <:+ cs := by
  simp only [dropIgnoringCase?, Option.map_eq_some_iff] at dropped
  obtain ⟨-, -, rfl⟩ := dropped
  exact List.drop_suffix _ _

theorem readName_suffix {long : Bool} {index place : Nat} {names : List String}
    (read : readName long cs index names = some (place, rest)) : rest <:+ cs := by
  induction names generalizing index with
  | nil => simp [readName] at read
  | cons name names ih =>
      rw [readName] at read
      cases short : dropIgnoringCase? (name.toList.take shortLength) cs with
      | none => exact ih (by simpa [short] using read)
      | some after =>
          have shorter := dropIgnoringCase?_suffix short
          simp only [short, Option.some.injEq, Prod.mk.injEq] at read
          obtain ⟨-, rfl⟩ := read
          split
          · cases ending : dropIgnoringCase? (name.toList.drop shortLength) after with
            | none => exact shorter
            | some others => exact (dropIgnoringCase?_suffix ending).trans shorter
          · exact shorter

theorem readSign_suffix {sign : Int} (read : readSign cs = some (sign, rest)) : rest <:+ cs := by
  fun_cases readSign cs <;> simp_all [readSign, List.suffix_cons]

theorem skipColon_suffix {form : OffsetForm} (skipped : skipColon form cs = some rest) :
    rest <:+ cs := by
  rw [skipColon] at skipped
  split at skipped
  · exact dropFront?_suffix skipped
  · obtain rfl := Option.some.inj skipped
    exact List.dropWhile_suffix _

theorem readPair_suffix {value : Int} (read : readPair cs = some (value, rest)) : rest <:+ cs := by
  fun_cases readPair cs with
  | case1 a b after digits =>
      simp only [readPair, digits, and_self, if_true, Option.some.injEq, Prod.mk.injEq] at read
      obtain ⟨-, rfl⟩ := read
      exact ⟨[a, b], rfl⟩
  | case2 a b after other => simp [readPair, other] at read
  | case3 => simp_all [readPair]

theorem readOffset_suffix {form : OffsetForm} {offset : Int}
    (read : readOffset form cs = some (offset, rest)) : rest <:+ cs := by
  unfold readOffset at read
  split at read
  · simp_all [List.suffix_cons]
  · simp_all [List.suffix_cons]
  · simp only [Option.bind_eq_bind, Option.bind_eq_some_iff, Prod.exists] at read
    obtain ⟨sign, afterSign, signed, hours, afterHours, paired, afterColon, skipped, read⟩ := read
    have toColon :=
      (skipColon_suffix skipped).trans ((readPair_suffix paired).trans (readSign_suffix signed))
    split at read
    · simp_all
    · simp only [Option.bind_eq_some_iff, Prod.exists] at read
      obtain ⟨minutes, afterMinutes, paired, read⟩ := read
      simp only [Option.pure_def, Option.ite_none_right_eq_some, Option.some.injEq,
        Prod.mk.injEq] at read
      obtain ⟨-, -, rfl⟩ := read
      exact (readPair_suffix paired).trans toColon

/-! ## Items and patterns -/

theorem of_into {slot : Slot} {fields next : Fields} {found : Option (Int × List Char)}
    (read : into slot fields found = some (next, rest)) : ∃ value, found = some (value, rest) := by
  simp only [into, Option.bind_eq_bind, Option.bind_eq_some_iff, Option.pure_def,
    Option.some.injEq, Prod.mk.injEq, Prod.exists] at read
  obtain ⟨value, _, found, _, -, -, rfl⟩ := read
  exact ⟨value, found⟩

theorem readOffsetItem_suffix {form : OffsetForm} {fields next : Fields}
    (read : readOffsetItem form fields cs = some (next, rest)) : rest <:+ cs := by
  rw [readOffsetItem] at read
  split at read
  · simp only [Option.bind_eq_bind, Option.bind_eq_some_iff, Option.ite_none_right_eq_some,
      Prod.exists] at read
    obtain ⟨offset, after, found, -, read⟩ := read
    obtain ⟨_, ⟨⟩⟩ := of_into read
    exact readOffset_suffix found
  · obtain ⟨_, found⟩ := of_into read
    exact (readOffset_suffix found).trans (List.dropWhile_suffix _)

theorem readItem_number_digitBefore {kind : NumberKind} {fields next : Fields}
    (read : readItem fields cs (.number kind) = some (next, rest)) : DigitBefore rest cs := by
  simp only [readItem, Option.bind_eq_bind, Option.bind_eq_some_iff, Option.pure_def,
    Option.some.injEq, Prod.mk.injEq, Prod.exists] at read
  obtain ⟨_, _, number, _, -, -, rfl⟩ := read
  exact readNumber_digitBefore number

/-- A fraction may be missing. -/
theorem readItem_fraction {fields next : Fields}
    (read : readItem fields cs .fraction = some (next, rest)) :
    rest = cs ∨ DigitBefore rest cs := by
  rw [readItem.eq_def] at read
  dsimp only at read
  split at read
  · obtain ⟨_, found⟩ := of_into read
    exact .inr ((readFraction_digitBefore found).of_suffix (List.suffix_cons _ _))
  · simp_all

/-- What an item leaves is an ending of the text. -/
theorem readItem_suffix {item : Item} {fields next : Fields}
    (read : readItem fields cs item = some (next, rest)) : rest <:+ cs := by
  cases item with
  | literal text =>
      simp only [readItem, Option.map_eq_some_iff, Prod.mk.injEq] at read
      obtain ⟨_, dropped, -, rfl⟩ := read
      exact dropFront?_suffix dropped
  | blanks =>
      simp only [readItem, Option.some.injEq, Prod.mk.injEq] at read
      obtain ⟨-, rfl⟩ := read
      exact List.dropWhile_suffix _
  | number kind => exact (readItem_number_digitBefore read).suffix
  | exactly width kind =>
      simp only [readItem, Option.bind_eq_bind, Option.bind_eq_some_iff, Option.pure_def,
        Option.some.injEq, Prod.mk.injEq, Prod.exists] at read
      obtain ⟨_, _, number, _, -, -, rfl⟩ := read
      exact takeNumber_suffix number
  | monthName long | weekdayName long =>
      obtain ⟨_, found⟩ := of_into read
      simp only [Option.map_eq_some_iff, Prod.mk.injEq, Prod.exists] at found
      obtain ⟨_, _, named, -, rfl⟩ := found
      exact readName_suffix named
  | halfDay =>
      rw [readItem] at read
      split at read
      · next morning =>
        obtain ⟨_, ⟨⟩⟩ := of_into read
        exact dropIgnoringCase?_suffix morning
      · next evening =>
        obtain ⟨_, ⟨⟩⟩ := of_into read
        exact dropIgnoringCase?_suffix evening
      · simp at read
  | fraction =>
      rcases readItem_fraction read with rfl | before
      · exact List.suffix_rfl
      · exact before.suffix
  | fractionOf places =>
      rw [readItem.eq_def] at read
      dsimp only at read
      split at read
      · obtain ⟨_, found⟩ := of_into read
        exact (readPlaces_suffix found).trans (List.suffix_cons _ _)
      · simp_all
  | placesOf places =>
      obtain ⟨_, found⟩ := of_into read
      exact readPlaces_suffix found
  | zoneName =>
      simp only [readItem, Option.some.injEq, Prod.mk.injEq] at read
      obtain ⟨-, rfl⟩ := read
      exact List.dropWhile_suffix _
  | offset form => exact readOffsetItem_suffix read
  | dateTimeMark =>
      rw [readItem.eq_def] at read
      dsimp only at read
      split at read <;> simp_all [List.suffix_cons]
  | utcOrOffset =>
      rw [readItem] at read
      split at read
      · next utc =>
        obtain ⟨_, ⟨⟩⟩ := of_into read
        exact dropIgnoringCase?_suffix utc
      · obtain ⟨_, found⟩ := of_into read
        exact readOffset_suffix found
  | unknown => simp [readItem] at read

theorem of_readItems_cons {item : Item} {others : Pattern} {fields next : Fields}
    (read : readItems fields cs (item :: others) = some (next, rest)) :
    ∃ fields' after, readItem fields cs item = some (fields', after) ∧
      readItems fields' after others = some (next, rest) := by
  simpa only [readItems, Option.bind_eq_bind, Option.bind_eq_some_iff, Prod.exists] using read

theorem readItems_nil_rest {fields next : Fields}
    (read : readItems fields cs [] = some (next, rest)) : rest = cs := by
  simp only [readItems, Option.some.injEq, Prod.mk.injEq] at read
  exact read.2.symm

/-- Whether a pattern ends in a number, which a fraction may follow. -/
def Pattern.endsInNumber : Pattern → Bool
  | [.number _] => true
  | [.number _, .fraction] => true
  | _ :: rest => endsInNumber rest
  | [] => false

/-- A pattern that ends in a number leaves off after a digit. -/
theorem readItems_digitBefore {pattern : Pattern} {fields next : Fields}
    (ends : pattern.endsInNumber = true)
    (read : readItems fields cs pattern = some (next, rest)) : DigitBefore rest cs := by
  fun_induction Pattern.endsInNumber pattern generalizing fields cs with
  | case1 kind =>
      obtain ⟨_, _, number, read⟩ := of_readItems_cons read
      obtain rfl := readItems_nil_rest read
      exact readItem_number_digitBefore number
  | case2 kind =>
      obtain ⟨_, _, number, read⟩ := of_readItems_cons read
      obtain ⟨_, _, fraction, read⟩ := of_readItems_cons read
      obtain rfl := readItems_nil_rest read
      -- The last digit is that of the fraction, or of the number if there is no fraction.
      have before := readItem_number_digitBefore number
      rcases readItem_fraction fraction with rfl | later
      · exact before
      · exact later.of_suffix before.suffix
  | case3 item others _ _ ih =>
      obtain ⟨_, _, first, read⟩ := of_readItems_cons read
      exact (ih ends read).of_suffix (readItem_suffix first)
  | case4 => simp at ends

/-- A pattern that ends in a number only matches texts that end in a digit. -/
theorem Pattern.exists_last_digit {pattern : Pattern} {fields : Fields}
    (ends : pattern.endsInNumber = true) (found : pattern.fields? cs = some fields) :
    ∃ front digit, digit.isDigit = true ∧ front ++ [digit] = cs := by
  rw [fields?] at found
  split at found
  · next read => exact readItems_digitBefore ends read
  · simp at found

end Time
end BlogMigration
