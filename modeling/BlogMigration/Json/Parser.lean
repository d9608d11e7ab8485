import BlogMigration.Json.Numeral
import BlogMigration.Text.Split

/-!
# Reading JSON text

A reader takes the text that is left and returns what it read together with the text after it.
Arrays and objects nest to a limited depth, so the reader of values recurs on the depth that is
left; the items of one array or object are read by a loop that ends with the text.
-/

namespace BlogMigration
namespace Json

def depthLimit : Nat := 127

namespace Parser

def isSpace (c : Char) : Bool :=
  c == ' ' || c == '\t' || c == '\n' || c == '\r'

def skipSpace (cs : List Char) : List Char :=
  cs.dropWhile isSpace

def digits (cs : List Char) : List Char × List Char :=
  cs.span Char.isDigit

def hexValue? (c : Char) : Option Nat :=
  if c.isDigit then some (c.toNat - '0'.toNat)
  else if 'a' ≤ c ∧ c ≤ 'f' then some (c.toNat - 'a'.toNat + 10)
  else if 'A' ≤ c ∧ c ≤ 'F' then some (c.toNat - 'A'.toNat + 10)
  else none

def hexUnit : List Char → Option (Nat × List Char)
  | a :: b :: c :: d :: rest => do
    let a ← hexValue? a
    let b ← hexValue? b
    let c ← hexValue? c
    let d ← hexValue? d
    return (((a * 16 + b) * 16 + c) * 16 + d, rest)
  | _ => none

def shortEscape? : Char → Option Char
  | '"' => some '"'
  | '\\' => some '\\'
  | '/' => some '/'
  | 'b' => some '\x08'
  | 'f' => some '\x0c'
  | 'n' => some '\n'
  | 'r' => some '\r'
  | 't' => some '\t'
  | _ => none

/-- A character given by its unit in hexadecimal. A unit of the upper half of a surrogate pair
needs the lower half after it, and the lower half never comes first. -/
def unitEscape (cs : List Char) : Option (Char × List Char) := do
  let (unit, rest) ← hexUnit cs
  if 0xD800 ≤ unit ∧ unit < 0xDC00 then
    match rest with
    | '\\' :: 'u' :: rest => do
      let (lower, rest) ← hexUnit rest
      if 0xDC00 ≤ lower ∧ lower < 0xE000 then
        return (Char.ofNat (0x10000 + (unit - 0xD800) * 0x400 + (lower - 0xDC00)), rest)
      else none
    | _ => none
  else if 0xDC00 ≤ unit ∧ unit < 0xE000 then none
  else return (Char.ofNat unit, rest)

/-- The rest of a string after its opening quote; `fuel` bounds its length. -/
def stringBody : Nat → List Char → Option (List Char × List Char)
  | 0, _ => none
  | _ + 1, [] => none
  | _ + 1, '"' :: rest => some ([], rest)
  | fuel + 1, '\\' :: 'u' :: rest => do
    let (c, rest) ← unitEscape rest
    let (cs, rest) ← stringBody fuel rest
    return (c :: cs, rest)
  | fuel + 1, '\\' :: letter :: rest => do
    let c ← shortEscape? letter
    let (cs, rest) ← stringBody fuel rest
    return (c :: cs, rest)
  | fuel + 1, c :: rest =>
    if c.toNat < 0x20 ∨ c = '\\' then none
    else do
      let (cs, rest) ← stringBody fuel rest
      return (c :: cs, rest)

def string : List Char → Option (String × List Char)
  | '"' :: rest => do
    let (cs, rest) ← stringBody (rest.length + 1) rest
    return (String.ofList cs, rest)
  | _ => none

/-- The rest of a string after its opening quote, passed over without decoding: an escape of a unit
needs four hexadecimal digits but may be half of a pair. -/
def passString : Nat → List Char → Option (List Char)
  | 0, _ => none
  | _ + 1, [] => none
  | _ + 1, '"' :: rest => some rest
  | fuel + 1, '\\' :: 'u' :: rest => do
    let (_, rest) ← hexUnit rest
    passString fuel rest
  | fuel + 1, '\\' :: letter :: rest => do
    let _ ← shortEscape? letter
    passString fuel rest
  | fuel + 1, c :: rest =>
    if c.toNat < 0x20 ∨ c = '\\' then none else passString fuel rest

/-- The digits of the whole part: a single zero, or digits that do not start with one. -/
def wholePart (cs : List Char) : Option (List Char × List Char) :=
  match digits cs with
  | ([], _) => none
  | ('0' :: _ :: _, _) => none
  | found => some found

def fractionPart : List Char → Option (List Char × List Char)
  | '.' :: rest =>
    match digits rest with
    | ([], _) => none
    | found => some found
  | cs => some ([], cs)

def exponentDigits (sign : Int) (cs : List Char) : Option (Option Int × List Char) :=
  match digits cs with
  | ([], _) => none
  | (found, rest) => some (some (sign * Text.decimalValue found), rest)

def exponentPart : List Char → Option (Option Int × List Char)
  | c :: rest =>
    if c = 'e' ∨ c = 'E' then
      match rest with
      | '+' :: rest => exponentDigits 1 rest
      | '-' :: rest => exponentDigits (-1) rest
      | rest => exponentDigits 1 rest
    else some (none, c :: rest)
  | [] => some (none, [])

def numeral (cs : List Char) : Option (Numeral × List Char) := do
  let (negative, cs) := match cs with
    | '-' :: rest => (true, rest)
    | cs => (false, cs)
  let (whole, cs) ← wholePart cs
  let (fraction, cs) ← fractionPart cs
  let (exponent, cs) ← exponentPart cs
  return (⟨negative, whole, fraction, exponent⟩, cs)

/-- The items up to the closing bracket `close`, separated by commas, with at least one item;
`fuel` bounds their number. -/
def separated {α : Type} (close : Char) (item : List Char → Option (α × List Char)) :
    Nat → List Char → Option (List α × List Char)
  | 0, _ => none
  | fuel + 1, cs => do
    let (first, cs) ← item cs
    match skipSpace cs with
    | c :: rest =>
      if c = close then return ([first], rest)
      else if c = ',' then do
        let (others, rest) ← separated close item fuel rest
        return (first :: others, rest)
      else none
    | [] => none

def bracketed {α : Type} (close : Char) (item : List Char → Option (α × List Char))
    (cs : List Char) : Option (List α × List Char) :=
  match skipSpace cs with
  | c :: rest =>
    if c = close then some ([], rest) else separated close item (rest.length + 1) (c :: rest)
  | [] => none

/-- A member of an object, whose value is read by `value` as its name tells. -/
def member {α : Type} (value : String → List Char → Option (α × List Char)) (cs : List Char) :
    Option ((String × α) × List Char) := do
  let (name, cs) ← string (skipSpace cs)
  match skipSpace cs with
  | ':' :: rest => do
    let (found, rest) ← value name rest
    return ((name, found), rest)
  | _ => none

/-- A value in which arrays and objects nest to at most the given depth. -/
def value : Nat → List Char → Option (Json × List Char)
  | depth, cs =>
    match skipSpace cs with
    | [] => none
    | '"' :: rest => do
      let (s, rest) ← string ('"' :: rest)
      return (.string s, rest)
    | '[' :: rest =>
      match depth with
      | 0 => none
      | depth + 1 => do
        let (items, rest) ← bracketed ']' (value depth) rest
        return (.array items, rest)
    | '{' :: rest =>
      match depth with
      | 0 => none
      | depth + 1 => do
        let (members, rest) ← bracketed '}' (member fun _ => value depth) rest
        return (ofMembers members, rest)
    | c :: rest =>
      match Text.dropFront? "null".toList (c :: rest) with
      | some rest => some (.null, rest)
      | none =>
      match Text.dropFront? "true".toList (c :: rest) with
      | some rest => some (.bool true, rest)
      | none =>
      match Text.dropFront? "false".toList (c :: rest) with
      | some rest => some (.bool false, rest)
      | none => do
        let (found, rest) ← numeral (c :: rest)
        let result ← found.value?
        return (result, rest)

/-- A value that is passed over. Its numbers may be out of range, its strings may hold halves of
surrogate pairs and its nesting is bounded by the length of the text alone. -/
def passValue : Nat → List Char → Option (Unit × List Char)
  | 0, _ => none
  | fuel + 1, cs =>
    match skipSpace cs with
    | [] => none
    | '"' :: rest => (passString (rest.length + 1) rest).map ((), ·)
    | '[' :: rest => (bracketed ']' (passValue fuel) rest).map ((), ·.2)
    | '{' :: rest => (bracketed '}' (passMember (passValue fuel)) rest).map ((), ·.2)
    | c :: rest =>
      match Text.dropFront? "null".toList (c :: rest) with
      | some rest => some ((), rest)
      | none =>
      match Text.dropFront? "true".toList (c :: rest) with
      | some rest => some ((), rest)
      | none =>
      match Text.dropFront? "false".toList (c :: rest) with
      | some rest => some ((), rest)
      | none => (numeral (c :: rest)).map ((), ·.2)
where
  passMember (value : List Char → Option (Unit × List Char)) (cs : List Char) :
      Option (Unit × List Char) :=
    match skipSpace cs with
    | '"' :: rest => do
      let rest ← passString (rest.length + 1) rest
      match skipSpace rest with
      | ':' :: rest => value rest
      | _ => none
    | _ => none

def complete {α : Type} (found : Option (α × List Char)) : Option α := do
  let (result, rest) ← found
  if (skipSpace rest).isEmpty then some result else none

end Parser

def parse? (text : String) : Option Json :=
  Parser.complete (Parser.value depthLimit text.toList)

end Json
end BlogMigration
