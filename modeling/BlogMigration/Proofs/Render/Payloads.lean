import BlogMigration.Proofs.Json.Edits
import BlogMigration.Render.Error

/-!
# Payloads before and after an edit

When an edit of payloads keeps their layout, a renderer that reads an edited payload has the same
error as before, or the result that belongs to the edit.
-/

namespace BlogMigration
namespace Render

open Json (mapString mapField KeepsLayout)

/-! ## Fields -/

theorem stringField?_mapField_self (name : String) (change : String → String) (payload : Json) :
    stringField? name (mapField name (mapString change) payload) =
      (stringField? name payload).map change := by
  rw [stringField?, stringField?, Json.field?_mapField_self]
  cases payload.field? name with
  | none => rfl
  | some value => exact Json.string?_mapString change value

theorem stringField?_mapField_of_ne {name key : String} (apart : key ≠ name) (edit : Json → Json)
    (payload : Json) : stringField? key (mapField name edit payload) = stringField? key payload := by
  rw [stringField?, stringField?, Json.field?_mapField_of_ne apart]

theorem optionalString?_mapField_self (name : String) (change : String → String)
    (payload : Json) :
    optionalString? name (mapField name (mapString change) payload) =
      (optionalString? name payload).map (Option.map change) := by
  simp only [optionalString?, Json.optionalField?, Json.field?_mapField_self]
  cases payload.field? name with
  | none => rfl
  | some value => cases value <;> rfl

theorem optionalString?_mapField_of_ne {name key : String} (apart : key ≠ name)
    (edit : Json → Json) (payload : Json) :
    optionalString? key (mapField name edit payload) = optionalString? key payload := by
  simp only [optionalString?, Json.optionalField?, Json.field?_mapField_of_ne apart]

/-! ## Whole payloads -/

variable {α β : Type}

theorem readPayload_eq_ok_iff {required : List String} {read : Json → Option α} {payload : Json}
    {result : α} : readPayload required read payload = .ok result ↔
      payload.isObject = true ∧ (∀ path ∈ required, (payload.lookup? path).isSome = true) ∧
        read payload = some result := by
  have present_iff : (required.find? fun path => (payload.lookup? path).isNone) = none ↔
      ∀ path ∈ required, (payload.lookup? path).isSome = true := by
    simp [Option.isSome_iff_ne_none]
  rw [readPayload, ← present_iff]
  cases payload.isObject with
  | false => simp
  | true =>
      cases required.find? fun path => (payload.lookup? path).isNone with
      | some path => simp
      | none => cases read payload <;> simp

/-- A field is there under a path of one name if it has a value other than null. -/
theorem isSome_lookup?_of_field? {name : String} (single : Json.pathNames name = [name])
    {payload value : Json} (found : payload.field? name = some value)
    (shown : value.isNull = false) : (payload.lookup? name).isSome = true := by
  simp [Json.lookup?, single, Json.follow, found, shown]

/-- Reading an edited payload gives the error of the payload itself, or its result changed. -/
theorem readPayload_edit {edit : Json → Json} (keeps : KeepsLayout edit) {change : α → β}
    {read : Json → Option α} {readEdited : Json → Option β}
    (follows : ∀ payload, readEdited (edit payload) = (read payload).map change)
    (required : List String) (payload : Json) :
    readPayload required readEdited (edit payload) =
      (readPayload required read payload).map change := by
  simp only [readPayload, keeps.isObject, keeps.lookup?, follows]
  split
  · split
    · rfl
    · cases read payload <;> rfl
  · rfl

end Render
end BlogMigration
