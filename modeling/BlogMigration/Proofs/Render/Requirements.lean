import BlogMigration.Proofs.Export.Rows
import BlogMigration.Proofs.Json.Paths
import BlogMigration.Render.Error

/-!
# Required paths of payloads

Whether a payload is an object comes first, then whether it has all the required paths, and only
then is it read. So an error names the first path that leads nowhere, whatever else is wrong with
the payload.
-/

namespace BlogMigration
namespace Render

open Json (LeadsTo)

variable {α : Type}

/-- A payload has a value under a path. -/
def Has (payload : Json) (path : String) : Prop :=
  ∃ found, LeadsTo payload path found

/-- The first of several paths under which a payload has no value. -/
def IsFirstAbsent (payload : Json) (required : List String) (path : String) : Prop :=
  Export.IsFirst (fun path => ¬ Has payload path) required path

/-- What a payload is decoded to, given the required paths and how a payload is read that has them
all. -/
inductive DecodesTo (required : List String) (read : Json → Option α) :
    Json → Except RenderError α → Prop where
  | notAnObject {payload : Json} (other : ∀ fields, payload ≠ .object fields) :
      DecodesTo required read payload (.error .notAnObject)
  | missingField {fields : Json.Fields} {path : String}
      (first : IsFirstAbsent (.object fields) required path) :
      DecodesTo required read (.object fields) (.error (.missingField path))
  | invalidPayload {fields : Json.Fields} (present : ∀ path ∈ required, Has (.object fields) path)
      (unread : read (.object fields) = none) :
      DecodesTo required read (.object fields) (.error .invalidPayload)
  | ok {fields : Json.Fields} {result : α} (present : ∀ path ∈ required, Has (.object fields) path)
      (taken : read (.object fields) = some result) :
      DecodesTo required read (.object fields) (.ok result)

/-! ## Paths that lead nowhere -/

theorem isSome_lookup?_iff {payload : Json} {path : String} :
    (payload.lookup? path).isSome = true ↔ Has payload path := by
  rw [Option.isSome_iff_exists, Has]
  simp only [Json.lookup?_eq_some_iff]

instance (payload : Json) (path : String) : Decidable (Has payload path) :=
  decidable_of_iff _ isSome_lookup?_iff

theorem isNone_lookup?_iff {payload : Json} {path : String} :
    (payload.lookup? path).isNone = true ↔ ¬ Has payload path := by
  rw [← isSome_lookup?_iff, Option.isNone_iff_eq_none, Option.not_isSome_iff_eq_none]

theorem find?_eq_some_iff_isFirstAbsent {payload : Json} {required : List String} {path : String} :
    (required.find? fun path => (payload.lookup? path).isNone) = some path ↔
      IsFirstAbsent payload required path := by
  have same : (fun path => (payload.lookup? path).isNone) =
      fun path => decide (¬ Has payload path) := by
    funext path
    rw [Bool.eq_iff_iff, isNone_lookup?_iff, decide_eq_true_iff]
  rw [same]
  exact Export.find?_eq_some_iff_isFirst

theorem find?_eq_none_iff_has {payload : Json} {required : List String} :
    (required.find? fun path => (payload.lookup? path).isNone) = none ↔
      ∀ path ∈ required, Has payload path := by
  rw [List.find?_eq_none]
  simp only [isNone_lookup?_iff, Classical.not_not]

/-! ## Outcomes -/

theorem readPayload_of_other {payload : Json} (other : ∀ fields, payload ≠ .object fields)
    (required : List String) (read : Json → Option α) :
    readPayload required read payload = .error .notAnObject := by
  cases payload with
  | object fields => exact absurd rfl (other fields)
  | _ => rfl

/-- An object is looked through for the required paths, and then read. -/
theorem readPayload_object (fields : Json.Fields) (required : List String)
    (read : Json → Option α) :
    readPayload required read (.object fields) =
      match required.find? fun path => ((Json.object fields).lookup? path).isNone with
      | some path => .error (.missingField path)
      | none =>
        match read (.object fields) with
        | some result => .ok result
        | none => .error .invalidPayload := rfl

theorem readPayload_of_first {fields : Json.Fields} {required : List String} {path : String}
    (first : IsFirstAbsent (.object fields) required path) (read : Json → Option α) :
    readPayload required read (.object fields) = .error (.missingField path) := by
  rw [readPayload_object, find?_eq_some_iff_isFirstAbsent.mpr first]

/-- The title that is null counts before the address that is no string. -/
example : readPayload ["metadata.url", "metadata.title"] (stringField? "metadata")
    (.object [("metadata", .object [("url", .integer 42), ("title", .null)])]) =
      .error (.missingField "metadata.title") := rfl

/-- A payload that has all the required paths is as it is read. -/
theorem readPayload_of_has {fields : Json.Fields} {required : List String}
    (present : ∀ path ∈ required, Has (.object fields) path) (read : Json → Option α) :
    readPayload required read (.object fields) =
      match read (.object fields) with
      | some result => .ok result
      | none => .error .invalidPayload := by
  rw [readPayload_object, find?_eq_none_iff_has.mpr present]

theorem decodesTo_readPayload (required : List String) (read : Json → Option α) (payload : Json) :
    DecodesTo required read payload (readPayload required read payload) := by
  cases payload with
  | object fields =>
      cases found : required.find? fun path => ((Json.object fields).lookup? path).isNone with
      | some path =>
          have first := find?_eq_some_iff_isFirstAbsent.mp found
          rw [readPayload_of_first first]
          exact .missingField first
      | none =>
          have present := find?_eq_none_iff_has.mp found
          rw [readPayload_of_has present]
          cases taken : read (.object fields) with
          | some result => exact .ok present taken
          | none => exact .invalidPayload present taken
  | _ => exact .notAnObject fun fields => Json.noConfusion

theorem DecodesTo.eq_readPayload {required : List String} {read : Json → Option α} {payload : Json}
    {outcome : Except RenderError α} (decodes : DecodesTo required read payload outcome) :
    readPayload required read payload = outcome := by
  cases decodes with
  | notAnObject other => exact readPayload_of_other other required read
  | missingField first => exact readPayload_of_first first read
  | invalidPayload present unread => rw [readPayload_of_has present, unread]
  | ok present taken => rw [readPayload_of_has present, taken]

/-- A path in two parts is looked up part by part, through objects and over no nulls, and a payload
is decoded in the order of its faults: it is no object, or else lacks a required path, the first of
which is named, or else is what the reader makes of it. -/
theorem readPayload_finds_first_fault :
    (∀ (value : Json) (front back : String),
      value.lookup? (front ++ "." ++ back) =
        (value.lookup? front).bind fun inner => inner.lookup? back) ∧
    (∀ (value found : Json) (path : String),
      value.lookup? path = some found ↔ LeadsTo value path found) ∧
    ∀ {α : Type} (required : List String) (read : Json → Option α) (payload : Json)
      (outcome : Except RenderError α),
      readPayload required read payload = outcome ↔ DecodesTo required read payload outcome := by
  refine ⟨Json.lookup?_append_dot, fun value found path => Json.lookup?_eq_some_iff, ?_⟩
  intro α required read payload outcome
  constructor
  · rintro rfl
    exact decodesTo_readPayload required read payload
  · exact DecodesTo.eq_readPayload

end Render
end BlogMigration
