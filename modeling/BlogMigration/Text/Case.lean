import BlogMigration.Text.CaseTable

/-!
# Lower case

Lower-casing over the whole of Unicode. Three rules go beyond the table of single letters: the
capital I with a dot becomes two characters, and a capital sigma becomes the final sigma at the
end of a word, which needs the characters around it.
-/

namespace BlogMigration
namespace Text

def CaseRun.contains (run : CaseRun) (n : Nat) : Bool :=
  run.first ≤ n && n ≤ run.last && (n - run.first) % run.step == 0

/-- The lower-case letter of a single letter; any other character stands for itself. -/
def lowerChar (c : Char) : Char :=
  match lowerCaseRuns.find? (·.contains c.toNat) with
  | some run => Char.ofNat (Int.toNat (c.toNat + run.shift))
  | none => c

def isCased (c : Char) : Bool :=
  inRuns casedRuns c.toNat

/-- A character that does not end a word for the purpose of letter case. -/
def isCaseIgnorable (c : Char) : Bool :=
  inRuns caseIgnorableRuns c.toNat

/-- Whether a cased letter comes first, apart from characters that letter case ignores. -/
def casedFirst (cs : List Char) : Bool :=
  match cs.dropWhile isCaseIgnorable with
  | [] => false
  | c :: _ => isCased c

/-- The capital sigma, whose lower-case form depends on its place in the word. -/
def capitalSigma : Char := 'Σ'

/-- The capital I with a dot above, whose lower-case form has two characters. -/
def dottedCapitalI : Char := 'İ'

/-- Lower-cases a text that follows `before`, given with its last character first. -/
def lowerFrom (before : List Char) : List Char → List Char
  | [] => []
  | c :: rest =>
    let here :=
      if c = capitalSigma then
        if casedFirst before && !casedFirst rest then ['ς'] else ['σ']
      else if c = dottedCapitalI then ['i', Char.ofNat 0x307]
      else [lowerChar c]
    here ++ lowerFrom (c :: before) rest

def lowercase (s : String) : String :=
  String.ofList (lowerFrom [] s.toList)

/-- The ASCII letters of the string in lower case, all other characters as they are. -/
def asciiLowercase (s : String) : String :=
  String.ofList (s.toList.map Char.toLower)

def sameIgnoringAsciiCase (s t : String) : Bool :=
  asciiLowercase s == asciiLowercase t

end Text
end BlogMigration
