import BlogMigration.Text.Runs

/-!
# Blank characters and trimming

A character is blank when it has the Unicode property `White_Space`. Trimming removes the blank
characters at the ends of a text and nothing else.
-/

namespace BlogMigration
namespace Text

def blankRuns : List (Nat × Nat) :=
  [(0x09, 0x0D), (0x20, 0x20), (0x85, 0x85), (0xA0, 0xA0), (0x1680, 0x1680), (0x2000, 0x200A),
    (0x2028, 0x2029), (0x202F, 0x202F), (0x205F, 0x205F), (0x3000, 0x3000)]

/-- A character with the property `White_Space`. -/
def isBlank (c : Char) : Bool :=
  inRuns blankRuns c.toNat

def trimStart (cs : List Char) : List Char :=
  cs.dropWhile isBlank

def trimEnd (cs : List Char) : List Char :=
  (cs.reverse.dropWhile isBlank).reverse

def trim (cs : List Char) : List Char :=
  trimEnd (trimStart cs)

def allBlank (s : String) : Bool :=
  s.toList.all isBlank

def trimmed (s : String) : String :=
  String.ofList (trim s.toList)

theorem dropWhile_isBlank_eq_nil_iff (cs : List Char) :
    cs.dropWhile isBlank = [] ↔ cs.all isBlank = true := by
  induction cs with
  | nil => simp
  | cons c rest ih => by_cases h : isBlank c = true <;> simp [h, ih]

theorem trim_eq_nil_iff (cs : List Char) : trim cs = [] ↔ cs.all isBlank = true := by
  induction cs with
  | nil => simp [trim, trimStart, trimEnd]
  | cons c rest ih =>
    by_cases h : isBlank c = true
    · have step : trim (c :: rest) = trim rest := by simp [trim, trimStart, h]
      simp [step, ih, h]
    · have kept : trim (c :: rest) = trimEnd (c :: rest) := by simp [trim, trimStart, h]
      rw [kept]
      constructor
      · intro empty
        have dropped : (c :: rest).reverse.dropWhile isBlank = [] := by
          simpa [trimEnd] using empty
        have all := (dropWhile_isBlank_eq_nil_iff _).mp dropped
        simp [h] at all
      · intro all
        simp [h] at all

end Text
end BlogMigration
