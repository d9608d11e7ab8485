import BlogMigration.Json.Value
import BlogMigration.Text.Split

/-!
# Dotted paths into a value

A path such as `metadata.url` names a field of a field. Only objects are entered, and a null at the
end of the path counts as absent.
-/

namespace BlogMigration
namespace Json

def pathNames (path : String) : List String :=
  (Text.splitAll '.' path.toList).map String.ofList

def follow (value : Json) : List String → Option Json
  | [] => some value
  | name :: names => (value.field? name).bind fun inner => follow inner names

@[simp] theorem follow_nil (value : Json) : follow value [] = some value := rfl

theorem follow_append (value : Json) (front back : List String) :
    follow value (front ++ back) = (follow value front).bind (follow · back) := by
  induction front generalizing value with
  | nil => rfl
  | cons name names ih =>
    simp only [List.cons_append, follow]
    cases value.field? name <;> simp [ih]

/-- The value at a dotted path, unless it is absent or null. -/
def lookup? (value : Json) (path : String) : Option Json :=
  (follow value (pathNames path)).filter fun found => !found.isNull

end Json
end BlogMigration
