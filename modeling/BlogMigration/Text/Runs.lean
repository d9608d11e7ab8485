/-!
# Runs of code points

A set of code points is listed as the runs it consists of, each by its first and last member.
-/

namespace BlogMigration
namespace Text

def inRuns : List (Nat × Nat) → Nat → Bool
  | [], _ => false
  | (first, last) :: rest, n => (first ≤ n && n ≤ last) || inRuns rest n

end Text
end BlogMigration
