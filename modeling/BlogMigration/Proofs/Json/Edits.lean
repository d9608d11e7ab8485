import BlogMigration.Json.Lookup

/-!
# Edits of values

An edit changes strings at fixed places of a value: in a field of an object, in the items of an
array, or in both, one inside the other. It leaves everything else as it is, so that whether a field
is missing is the same before and after.
-/

namespace BlogMigration
namespace Json

/-- Changes a string; any other value stays. -/
def mapString (change : String → String) : Json → Json
  | .string value => .string (change value)
  | other => other

/-- Edits the items of an array; any other value stays. -/
def mapItems (edit : Json → Json) : Json → Json
  | .array items => .array (items.map edit)
  | other => other

/-- Edits the field of a name in an object; any other value stays. -/
def mapField (name : String) (edit : Json → Json) : Json → Json
  | .object fields =>
    .object (fields.map fun (key, value) => (key, if key = name then edit value else value))
  | other => other

variable {edit : Json → Json}

/-! ## Reading edited values -/

theorem string?_mapString (change : String → String) (value : Json) :
    (mapString change value).string? = value.string?.map change := by
  cases value <;> rfl

theorem array?_mapItems (edit : Json → Json) (value : Json) :
    (mapItems edit value).array? = value.array?.map fun items => items.map edit := by
  cases value <;> rfl

/-- An edited field is found edited, any other field is found as it was. -/
theorem field?_mapField (name key : String) (edit : Json → Json) (value : Json) :
    (mapField name edit value).field? key =
      if key = name then (value.field? key).map edit else value.field? key := by
  cases value with
  | object fields =>
      simp only [mapField, field?]
      induction fields with
      | nil => simp [Fields.get?]
      | cons first rest ih =>
          obtain ⟨here, old⟩ := first
          by_cases found : here = key
          · subst found
            by_cases hit : here = name <;> simp [Fields.get?, hit]
          · simp only [List.map_cons, Fields.get?, if_neg found, ih]
  | _ => simp [mapField, field?]

theorem field?_mapField_self (name : String) (edit : Json → Json) (value : Json) :
    (mapField name edit value).field? name = (value.field? name).map edit := by
  rw [field?_mapField, if_pos rfl]

theorem field?_mapField_of_ne {name key : String} (apart : key ≠ name) (edit : Json → Json)
    (value : Json) : (mapField name edit value).field? key = value.field? key := by
  rw [field?_mapField, if_neg apart]

/-! ## Fields that are missing -/

/-- An edit that leaves objects objects, and that leaves the same paths without a value. -/
structure KeepsLayout (edit : Json → Json) : Prop where
  isObject : ∀ value, (edit value).isObject = value.isObject
  isNull : ∀ value, (edit value).isNull = value.isNull
  missing : ∀ names value,
    ((follow (edit value) names).filter fun found => !found.isNull).isNone =
      ((follow value names).filter fun found => !found.isNull).isNone

theorem KeepsLayout.lookup? (keeps : KeepsLayout edit) (value : Json) (path : String) :
    ((edit value).lookup? path).isNone = (value.lookup? path).isNone :=
  keeps.missing (pathNames path) value

/-- An edit of values without fields keeps the layout if it keeps nulls and objects. -/
theorem keepsLayout_of_field? (isObject : ∀ value, (edit value).isObject = value.isObject)
    (isNull : ∀ value, (edit value).isNull = value.isNull)
    (same : ∀ value name, (edit value).field? name = value.field? name) : KeepsLayout edit where
  isObject := isObject
  isNull := isNull
  missing names value := by
    cases names with
    | nil =>
        simp only [follow_nil, Option.filter_some, isNull]
        split <;> rfl
    | cons name names => simp only [follow, same]

theorem keepsLayout_mapString (change : String → String) : KeepsLayout (mapString change) :=
  keepsLayout_of_field? (by rintro ⟨⟩ <;> rfl) (by rintro ⟨⟩ <;> rfl) (by rintro ⟨⟩ _ <;> rfl)

theorem keepsLayout_mapItems (edit : Json → Json) : KeepsLayout (mapItems edit) :=
  keepsLayout_of_field? (by rintro ⟨⟩ <;> rfl) (by rintro ⟨⟩ <;> rfl) (by rintro ⟨⟩ _ <;> rfl)

theorem KeepsLayout.mapField (keeps : KeepsLayout edit) (name : String) :
    KeepsLayout (mapField name edit) where
  isObject := by rintro ⟨⟩ <;> rfl
  isNull := by rintro ⟨⟩ <;> rfl
  missing names value := by
    cases names with
    | nil => cases value <;> rfl
    | cons first names =>
        by_cases hit : first = name
        · subst hit
          simp only [follow, field?_mapField_self]
          cases value.field? first with
          | none => rfl
          | some inner => exact keeps.missing names inner
        · simp only [follow, field?_mapField_of_ne hit]

theorem KeepsLayout.comp {first second : Json → Json} (outer : KeepsLayout second)
    (inner : KeepsLayout first) : KeepsLayout fun value => second (first value) where
  isObject value := (outer.isObject _).trans (inner.isObject value)
  isNull value := (outer.isNull _).trans (inner.isNull value)
  missing names value := (outer.missing names _).trans (inner.missing names value)

end Json
end BlogMigration
