import BlogMigration.Number.Power
import BlogMigration.Text.Case
import BlogMigration.Text.Numeral
import BlogMigration.Time.Pattern

/-!
# Reading texts by patterns

A text is read item by item. What an item shows goes into the fields, and the text after it is left
for the next item. A pattern has to use up the text.
-/

namespace BlogMigration
namespace Time

open Number (tenTo)
open Text (trimStart dropFront? decimalValue)

/-- What is known, and the text that is left. -/
abbrev Reading := Fields × List Char

/-- The digits at the start of a text, at most `width` of them, and the text after them. -/
def takeDigits : Nat → List Char → List Char × List Char
  | 0, cs => ([], cs)
  | _ + 1, [] => ([], [])
  | width + 1, c :: rest =>
    if c.isDigit then
      let (digits, rest) := takeDigits width rest
      (c :: digits, rest)
    else ([], c :: rest)

/-- A number of at least `least` and at most `most` digits, which has to fit 64 bits. -/
def takeNumber (least most : Nat) (cs : List Char) : Option (Int × List Char) :=
  let (digits, rest) := takeDigits most cs
  let value := decimalValue digits
  if digits.length < least ∨ 0x8000000000000000 ≤ value then none else some (value, rest)

namespace NumberKind

def width : NumberKind → Nat
  | year | weekYear => 4
  | quarter | daysFromSunday | weekdayFromMonday => 1
  | ordinal => 3
  | nanosecond => 9
  | epochSeconds => 0
  | _ => 2

/-- Whether the number may have a sign, which lifts the limit on its digits. -/
def isSigned : NumberKind → Bool
  | year | weekYear => true
  | _ => false

def record? (kind : NumberKind) (value : Int) (fields : Fields) : Option Fields :=
  match kind with
  | year => fields.put? .year value
  | century => fields.put? .century value
  | yearOfCentury => fields.put? .yearOfCentury value
  | weekYear => fields.put? .weekYear value
  | weekCentury => fields.put? .weekCentury value
  | weekYearOfCentury => fields.put? .weekYearOfCentury value
  | quarter => fields.put? .quarter value
  | month => fields.put? .month value
  | day => fields.put? .day value
  | weekFromSunday => fields.put? .weekFromSunday value
  | weekFromMonday => fields.put? .weekFromMonday value
  | weekOfWeekYear => fields.put? .weekOfWeekYear value
  | daysFromSunday =>
    if 0 ≤ value ∧ value ≤ 6 then fields.put? .weekday ((value + 6) % 7) else none
  | weekdayFromMonday =>
    if 1 ≤ value ∧ value ≤ 7 then fields.put? .weekday (value - 1) else none
  | ordinal => fields.put? .ordinal value
  | hour => if 0 ≤ value ∧ value ≤ 23 then fields.putHour? value else none
  | halfHour => fields.putHalfHour? value
  | minute => fields.put? .minute value
  | second => fields.put? .second value
  | nanosecond => fields.put? .nanosecond value
  | epochSeconds => fields.put? .epochSeconds value

end NumberKind

def readNumber (kind : NumberKind) (cs : List Char) : Option (Int × List Char) :=
  let cs := trimStart cs
  if kind.isSigned then
    match cs with
    | '-' :: rest => (takeNumber 1 rest.length rest).map fun (n, rest) => (-n, rest)
    | '+' :: rest => takeNumber 1 rest.length rest
    | cs => takeNumber 1 kind.width cs
  else takeNumber 1 (if kind.width = 0 then cs.length else kind.width) cs

def monthNames : List String :=
  ["january", "february", "march", "april", "may", "june", "july", "august", "september",
    "october", "november", "december"]

def weekdayNames : List String :=
  ["monday", "tuesday", "wednesday", "thursday", "friday", "saturday", "sunday"]

/-- What follows a text at the start of another one, in any case of its ASCII letters. -/
def dropIgnoringCase? (front cs : List Char) : Option (List Char) :=
  (dropFront? front (cs.map Char.toLower)).map fun _ => cs.drop front.length

def shortLength : Nat := 3

/-- A name of a list by its short form, and its place in the list. The rest of a long name may
follow. -/
def readName (long : Bool) (cs : List Char) : Nat → List String → Option (Nat × List Char)
  | _, [] => none
  | index, name :: names =>
    match dropIgnoringCase? (name.toList.take shortLength) cs with
    | none => readName long cs (index + 1) names
    | some rest =>
      let ending := name.toList.drop shortLength
      some (index, if long then (dropIgnoringCase? ending rest).getD rest else rest)

/-- A fraction of a second in nanoseconds, after the point: digits from the ninth place on are
passed over. -/
def readFraction (cs : List Char) : Option (Int × List Char) :=
  let (digits, rest) := takeDigits 9 cs
  if digits.isEmpty then none
  else some (decimalValue digits * tenTo (9 - digits.length), rest.dropWhile Char.isDigit)

/-- A fraction of a second of a fixed number of places, in nanoseconds. -/
def readPlaces (places : Nat) (cs : List Char) : Option (Int × List Char) :=
  (takeNumber places places cs).map fun (value, rest) => (value * tenTo (9 - places), rest)

/-- The sign of an offset; the minus sign of Unicode counts as well. -/
def readSign : List Char → Option (Int × List Char)
  | '+' :: rest => some (1, rest)
  | '-' :: rest => some (-1, rest)
  | '−' :: rest => some (-1, rest)
  | _ => none

/-- What may stand between the hours and the minutes of an offset. -/
def skipColon (form : OffsetForm) (cs : List Char) : Option (List Char) :=
  if form.colon then dropFront? [':'] cs
  else some (cs.dropWhile fun c => c == ':' || Text.isBlank c)

def readPair : List Char → Option (Int × List Char)
  | a :: b :: rest =>
    if a.isDigit ∧ b.isDigit then some (decimalValue [a, b], rest) else none
  | _ => none

def readOffset (form : OffsetForm) (cs : List Char) : Option (Int × List Char) :=
  match form.zulu, cs with
  | true, 'Z' :: rest => some (0, rest)
  | true, 'z' :: rest => some (0, rest)
  | _, cs => do
    let (sign, cs) ← readSign cs
    let (hours, cs) ← readPair cs
    let cs ← skipColon form cs
    if form.hoursOnly && cs.isEmpty then return (sign * (hours * 3600), cs)
    let (minutes, cs) ← readPair cs
    if minutes < 60 then return (sign * (hours * 3600 + minutes * 60), cs) else none

def into (slot : Slot) (fields : Fields) (found : Option (Int × List Char)) : Option Reading := do
  let (value, rest) ← found
  let fields ← fields.put? slot value
  return (fields, rest)

/-- Reads an offset. That of RFC 3339 has no blanks before it and is less than a day. -/
def readOffsetItem (form : OffsetForm) (fields : Fields) (cs : List Char) : Option Reading :=
  if form.colon then do
    let (offset, rest) ← readOffset form cs
    if Fields.isOffset offset then into .offset fields (some (offset, rest)) else none
  else into .offset fields (readOffset form (trimStart cs))

def readItem (fields : Fields) (cs : List Char) : Item → Option Reading
  | .literal text => (dropFront? text cs).map (fields, ·)
  | .blanks => some (fields, trimStart cs)
  | .number kind => do
    let (value, rest) ← readNumber kind cs
    return (← kind.record? value fields, rest)
  | .exactly width kind => do
    let (value, rest) ← takeNumber width width cs
    return (← kind.record? value fields, rest)
  | .monthName long =>
    into .month fields ((readName long cs 0 monthNames).map fun (n, rest) => (n + 1, rest))
  | .weekdayName long =>
    into .weekday fields ((readName long cs 0 weekdayNames).map fun (n, rest) => (n, rest))
  | .halfDay =>
    match dropIgnoringCase? ['a', 'm'] cs, dropIgnoringCase? ['p', 'm'] cs with
    | some rest, _ => into .halfDay fields (some (0, rest))
    | none, some rest => into .halfDay fields (some (1, rest))
    | none, none => none
  | .fraction =>
    match cs with
    | '.' :: rest => into .nanosecond fields (readFraction rest)
    | cs => some (fields, cs)
  | .fractionOf places =>
    match cs with
    | '.' :: rest => into .nanosecond fields (readPlaces places rest)
    | cs => some (fields, cs)
  | .placesOf places => into .nanosecond fields (readPlaces places cs)
  | .zoneName => some (fields, cs.dropWhile fun c => !Text.isBlank c)
  | .offset form => readOffsetItem form fields cs
  | .dateTimeMark =>
    match cs with
    | 'T' :: rest => some (fields, rest)
    | 't' :: rest => some (fields, rest)
    | ' ' :: rest => some (fields, rest)
    | _ => none
  | .utcOrOffset =>
    match dropIgnoringCase? ['u', 't', 'c'] cs with
    | some rest => into .offset fields (some (0, rest))
    | none => into .offset fields (readOffset ⟨true, false, false⟩ cs)
  | .unknown => none

def readItems (fields : Fields) (cs : List Char) : Pattern → Option Reading
  | [] => some (fields, cs)
  | item :: rest => do
    let (fields, cs) ← readItem fields cs item
    readItems fields cs rest

namespace Pattern

/-- What a text says that a pattern matches completely. -/
def fields? (pattern : Pattern) (cs : List Char) : Option Fields :=
  match readItems .unknown cs pattern with
  | some (fields, []) => some fields
  | _ => none

def timestamp? (pattern : Pattern) (cs : List Char) : Option Timestamp :=
  (pattern.fields? cs).bind Fields.timestamp?

/-- The clock time of a text, whatever it says of an offset. -/
def clock? (pattern : Pattern) (cs : List Char) : Option Clock :=
  (pattern.fields? cs).bind Fields.clock?

def rfc3339 : Pattern :=
  [.exactly 4 .year, .literal ['-'], .exactly 2 .month, .literal ['-'], .exactly 2 .day,
    .dateTimeMark, .exactly 2 .hour, .literal [':'], .exactly 2 .minute, .literal [':'],
    .exactly 2 .second, .fraction, .offset strictOffset]

end Pattern
end Time
end BlogMigration
