import BlogMigration.Json.Lookup

/-!
# Payloads of cards and atoms

A renderer states which fields it needs and how it reads the payload. The fields are looked for
first, so that the error names the first one that is missing.
-/

namespace BlogMigration
namespace Render

inductive RenderError where
  | notAnObject
  | missingField (path : String)
  | invalidPayload
  deriving DecidableEq, Repr

namespace RenderError

/-- The text of the error; what is wrong with an invalid payload is left to the reader of it. -/
def message? : RenderError → Option String
  | .notAnObject => some "payload is not an object"
  | .missingField path => some ("missing required field `" ++ path ++ "`")
  | .invalidPayload => none

end RenderError

/-- Reads a payload that has to be an object with all the required fields. -/
def readPayload {α : Type} (required : List String) (read : Json → Option α) (payload : Json) :
    Except RenderError α :=
  if payload.isObject then
    match required.find? fun path => (payload.lookup? path).isNone with
    | some path => .error (.missingField path)
    | none =>
      match read payload with
      | some result => .ok result
      | none => .error .invalidPayload
  else .error .notAnObject

def stringField? (name : String) (payload : Json) : Option String :=
  (payload.field? name).bind Json.string?

def optionalString? (name : String) (payload : Json) : Option (Option String) :=
  payload.optionalField? Json.string? name

def nonEmpty (value : Option String) : Option String :=
  value.filter fun s => !s.isEmpty

@[simp] theorem nonEmpty_none : nonEmpty none = none := rfl

theorem nonEmpty_eq_some_iff {value : Option String} {s : String} :
    nonEmpty value = some s ↔ value = some s ∧ s ≠ "" := by
  cases value <;> simp [nonEmpty, Option.filter_eq_some_iff]

theorem nonEmpty_ne_empty (value : Option String) : nonEmpty value ≠ some "" :=
  fun kept => (nonEmpty_eq_some_iff.mp kept).2 rfl

end Render
end BlogMigration
