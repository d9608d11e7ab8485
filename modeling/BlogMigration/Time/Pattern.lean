import BlogMigration.Text.Blank
import BlogMigration.Text.Split
import BlogMigration.Time.Fields

/-!
# Patterns of dates and times

A pattern lists what a text shows, item by item. It is written with specifiers that start with a
percent sign, as in `%Y-%m-%d`. A pattern in which a specifier is not known matches no text.
-/

namespace BlogMigration
namespace Time

inductive NumberKind where
  | year
  | century
  | yearOfCentury
  | weekYear
  | weekCentury
  | weekYearOfCentury
  | quarter
  | month
  | day
  | weekFromSunday
  | weekFromMonday
  | weekOfWeekYear
  | daysFromSunday
  | weekdayFromMonday
  | ordinal
  | hour
  | halfHour
  | minute
  | second
  | nanosecond
  | epochSeconds
  deriving DecidableEq, Repr

structure OffsetForm where
  /-- A letter Z may stand for the offset zero. -/
  zulu : Bool
  /-- The minutes may be left out. -/
  hoursOnly : Bool
  /-- The colon has to be there, with nothing around it; otherwise colons and blanks are optional. -/
  colon : Bool
  deriving DecidableEq, Repr

inductive Item where
  | literal (text : List Char)
  | blanks
  | number (kind : NumberKind)
  | exactly (width : Nat) (kind : NumberKind)
  | monthName (long : Bool)
  | weekdayName (long : Bool)
  | halfDay
  | fraction
  | fractionOf (places : Nat)
  | placesOf (places : Nat)
  | zoneName
  | offset (form : OffsetForm)
  | dateTimeMark
  | utcOrOffset
  | unknown
  deriving DecidableEq, Repr

abbrev Pattern := List Item

namespace Pattern

/-- The offset of the specifier for offsets. -/
def plainOffset : OffsetForm := ⟨false, false, false⟩

/-- The offset of the specifier for offsets with a number sign. -/
def lenientOffset : OffsetForm := ⟨true, true, false⟩

/-- The offset of RFC 3339. -/
def strictOffset : OffsetForm := ⟨true, false, true⟩

def joined (mark : Char) : List NumberKind → Pattern
  | [] => []
  | [kind] => [.number kind]
  | kind :: rest => .number kind :: .literal [mark] :: joined mark rest

/-- The items of `%+`: a date and time of RFC 3339 with blanks allowed between its parts. -/
def internetTime : Pattern :=
  [.number .year, .blanks, .literal ['-'], .number .month, .blanks, .literal ['-'], .number .day,
    .dateTimeMark, .number .hour, .blanks, .literal [':'], .number .minute, .blanks, .literal [':'],
    .number .second, .fraction, .blanks, .utcOrOffset]

def ofLetter : Char → Pattern
  | 'A' => [.weekdayName true]
  | 'B' => [.monthName true]
  | 'C' => [.number .century]
  | 'D' => joined '/' [.month, .day, .yearOfCentury]
  | 'F' => joined '-' [.year, .month, .day]
  | 'G' => [.number .weekYear]
  | 'H' => [.number .hour]
  | 'I' => [.number .halfHour]
  | 'M' => [.number .minute]
  | 'P' => [.halfDay]
  | 'R' => joined ':' [.hour, .minute]
  | 'S' => [.number .second]
  | 'T' => joined ':' [.hour, .minute, .second]
  | 'U' => [.number .weekFromSunday]
  | 'V' => [.number .weekOfWeekYear]
  | 'W' => [.number .weekFromMonday]
  | 'X' => joined ':' [.hour, .minute, .second]
  | 'Y' => [.number .year]
  | 'Z' => [.zoneName]
  | 'a' => [.weekdayName false]
  | 'b' | 'h' => [.monthName false]
  | 'c' =>
    [.weekdayName false, .blanks, .monthName false, .blanks, .number .day, .blanks] ++
      joined ':' [.hour, .minute, .second] ++ [.blanks, .number .year]
  | 'd' | 'e' => [.number .day]
  | 'f' => [.number .nanosecond]
  | 'g' => [.number .weekYearOfCentury]
  | 'j' => [.number .ordinal]
  | 'k' => [.number .hour]
  | 'l' => [.number .halfHour]
  | 'm' => [.number .month]
  | 'n' | 't' => [.blanks]
  | 'p' => [.halfDay]
  | 'q' => [.number .quarter]
  | 'r' => joined ':' [.halfHour, .minute, .second] ++ [.blanks, .halfDay]
  | 's' => [.number .epochSeconds]
  | 'u' => [.number .weekdayFromMonday]
  | 'v' =>
    [.number .day, .literal ['-'], .monthName false, .literal ['-'], .number .year]
  | 'w' => [.number .daysFromSunday]
  | 'x' => joined '/' [.month, .day, .yearOfCentury]
  | 'y' => [.number .yearOfCentury]
  | 'z' => [.offset plainOffset]
  | '+' => internetTime
  | '%' => [.literal ['%']]
  | _ => [.unknown]

/-- The items of a specifier with a mark for padding, which only a single number may have. -/
def ofPadded (letter : Char) : Pattern :=
  match ofLetter letter with
  | [.number kind] => [.number kind]
  | _ => [.unknown]

/-- The items of the specifier after a percent sign, and the pattern after it. -/
def specifier : List Char → Pattern × List Char
  | '-' :: letter :: rest => (ofPadded letter, rest)
  | '0' :: letter :: rest => (ofPadded letter, rest)
  | '_' :: letter :: rest => (ofPadded letter, rest)
  | '#' :: 'z' :: rest => ([.offset lenientOffset], rest)
  | ':' :: ':' :: ':' :: 'z' :: rest => ([.offset plainOffset], rest)
  | ':' :: ':' :: 'z' :: rest => ([.offset plainOffset], rest)
  | ':' :: 'z' :: rest => ([.offset plainOffset], rest)
  | '.' :: '3' :: 'f' :: rest => ([.fractionOf 3], rest)
  | '.' :: '6' :: 'f' :: rest => ([.fractionOf 6], rest)
  | '.' :: '9' :: 'f' :: rest => ([.fractionOf 9], rest)
  | '.' :: 'f' :: rest => ([.fraction], rest)
  | '3' :: 'f' :: rest => ([.placesOf 3], rest)
  | '6' :: 'f' :: rest => ([.placesOf 6], rest)
  | '9' :: 'f' :: rest => ([.placesOf 9], rest)
  | letter :: rest => (ofLetter letter, rest)
  | [] => ([.unknown], [])

/-- The items of a pattern; `fuel` bounds its length. -/
def parseFrom : Nat → List Char → Pattern
  | 0, _ => []
  | _ + 1, [] => []
  | fuel + 1, '%' :: rest =>
    let (items, rest) := specifier rest
    items ++ parseFrom fuel rest
  | fuel + 1, c :: rest =>
    if Text.isBlank c then .blanks :: parseFrom fuel rest
    else .literal [c] :: parseFrom fuel rest

def parse (text : String) : Pattern :=
  parseFrom (text.toList.length + 1) text.toList

end Pattern
end Time
end BlogMigration
