import BlogMigration.Number.Binary64

/-!
# JSON values

A number is an integer when it was written as one and fits 64 bits, signed or unsigned; every other
number is a double. The fields of an object keep their order of appearance and have distinct names.
-/

namespace BlogMigration

open Number (Binary64)

inductive Json where
  | null
  | bool (value : Bool)
  | integer (value : Int)
  | double (value : Binary64)
  | string (value : String)
  | array (items : List Json)
  | object (fields : List (String × Json))
  deriving Inhabited

namespace Json

abbrev Fields := List (String × Json)

/-- The fields with `name` set to `value`, in place if the name is there already. -/
def Fields.put (name : String) (value : Json) : Fields → Fields
  | [] => [(name, value)]
  | (key, old) :: rest =>
    if key = name then (name, value) :: rest else (key, old) :: Fields.put name value rest

def Fields.get? (name : String) : Fields → Option Json
  | [] => none
  | (key, value) :: rest => if key = name then some value else Fields.get? name rest

theorem Fields.get?_put (name key : String) (value : Json) (fields : Fields) :
    Fields.get? key (Fields.put name value fields) =
      if key = name then some value else Fields.get? key fields := by
  induction fields with
  | nil =>
    by_cases h : name = key
    · simp [put, get?, h]
    · simp [put, get?, h, Ne.symm h]
  | cons field rest ih =>
    obtain ⟨first, old⟩ := field
    by_cases same : first = name <;> by_cases hit : first = key <;>
      simp_all [put, get?, eq_comm]

/-- The object with the given members, the last of several members of one name counting. -/
def ofMembers (members : List (String × Json)) : Json :=
  .object (members.foldl (fun fields (name, value) => Fields.put name value fields) [])

/-- The field of an object; no other value has fields. -/
def field? (name : String) : Json → Option Json
  | .object fields => Fields.get? name fields
  | _ => none

/-- The item of an array; no other value has items. -/
def item? (index : Nat) : Json → Option Json
  | .array items => items[index]?
  | _ => none

def isObject : Json → Bool
  | .object _ => true
  | _ => false

def isNull : Json → Bool
  | .null => true
  | _ => false

def string? : Json → Option String
  | .string value => some value
  | _ => none

def array? : Json → Option (List Json)
  | .array items => some items
  | _ => none

def signed? : Json → Option Int
  | .integer n => if -0x8000000000000000 ≤ n ∧ n < 0x8000000000000000 then some n else none
  | _ => none

/-- An integer of 64 bits without sign, as indexes and counts are. -/
def natural? : Json → Option Nat
  | .integer (.ofNat n) => if n < 0x10000000000000000 then some n else none
  | _ => none

/-- Any number, an integer being rounded to a double. -/
def double? : Json → Option Binary64
  | .integer n => Binary64.ofInt? n
  | .double x => some x
  | _ => none

/-- A field that may be absent or null, and otherwise has to have the shape read by `read`. -/
def optionalField? {α : Type} (read : Json → Option α) (name : String) (value : Json) :
    Option (Option α) :=
  match value.field? name with
  | none => some none
  | some .null => some none
  | some present => (read present).map some

end Json

end BlogMigration
