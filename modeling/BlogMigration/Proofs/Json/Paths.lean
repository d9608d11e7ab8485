import BlogMigration.Json.Lookup
import BlogMigration.Proofs.Text.Lines

/-!
# Dotted paths

A dotted path leads through the fields of objects, name by name, and never over a null. Looking up a
path in two parts gives the same as looking it up whole.
-/

namespace BlogMigration
namespace Json

/-- A dotted path leads from a value to another one: each of its names is that of a field of an
object, and no field on the way is null. -/
inductive LeadsTo : Json → String → Json → Prop where
  | field {fields : Fields} {name : String} {found : Json} (single : '.' ∉ name.toList)
      (here : Fields.get? name fields = some found) (shown : found ≠ .null) :
      LeadsTo (.object fields) name found
  | through {fields : Fields} {name path : String} {inner found : Json}
      (single : '.' ∉ name.toList) (here : Fields.get? name fields = some inner)
      (shown : inner ≠ .null) (onward : LeadsTo inner path found) :
      LeadsTo (.object fields) (name ++ "." ++ path) found

/-! ## Names -/

theorem pathNames_append_dot (front back : String) :
    pathNames (front ++ "." ++ back) = pathNames front ++ pathNames back := by
  have parted : (front ++ "." ++ back).toList = front.toList ++ '.' :: back.toList := by
    simp
  rw [pathNames, parted, Text.splitAll_append_separator, List.map_append, pathNames, pathNames]

theorem pathNames_of_not_mem {name : String} (single : '.' ∉ name.toList) :
    pathNames name = [name] := by
  rw [pathNames, Text.splitAll_of_not_mem single, List.map_singleton, String.ofList_toList]

theorem pathNames_ne_nil (path : String) : pathNames path ≠ [] := by
  rw [pathNames, ne_eq, List.map_eq_nil_iff]
  exact Text.splitAll_ne_nil '.' path.toList

/-- A path is a single name, or a name and a dot before a shorter path. -/
@[elab_as_elim]
theorem path_induction {motive : String → Prop}
    (single : ∀ name, '.' ∉ name.toList → motive name)
    (through : ∀ name rest, '.' ∉ name.toList → motive rest → motive (name ++ "." ++ rest))
    (path : String) : motive path := by
  by_cases dotted : '.' ∈ path.toList
  · -- The path is cut at its first dot, so that its name has none and the rest is shorter.
    obtain ⟨front, back, parted, first⟩ := List.eq_append_cons_of_mem dotted
    have joined : path = String.ofList front ++ "." ++ String.ofList back := by
      rw [← String.toList_inj, parted]
      simp
    have shorter : back.length < path.toList.length := by
      rw [parted, List.length_append, List.length_cons]
      omega
    rw [joined]
    refine through _ _ ?_ (path_induction single through (String.ofList back))
    rwa [String.toList_ofList]
  · exact single path dotted
termination_by path.toList.length
decreasing_by rwa [String.toList_ofList]

/-! ## Values -/

theorem isNull_eq_false_iff {value : Json} : value.isNull = false ↔ value ≠ .null := by
  cases value <;> simp [isNull]

theorem follow_null {names : List String} (onward : names ≠ []) : follow .null names = none := by
  cases names with
  | nil => exact absurd rfl onward
  | cons name rest => rfl

/-- A path in two parts is looked up in what its first part leads to. A null there ends the path, as
it has no fields. -/
theorem lookup?_append_dot (value : Json) (front back : String) :
    value.lookup? (front ++ "." ++ back) =
      (value.lookup? front).bind fun inner => inner.lookup? back := by
  rw [lookup?, lookup?, pathNames_append_dot, follow_append]
  cases follow value (pathNames front) with
  | none => rfl
  | some inner =>
      rw [Option.bind_some]
      -- Nulls are left out at the end of a whole path only, but nothing lies beyond one anyway.
      by_cases null : inner = .null
      · rw [null, follow_null (pathNames_ne_nil back)]
        rfl
      · rw [Option.filter_some, isNull_eq_false_iff.mpr null]
        rfl

theorem lookup?_name_eq_some_iff {name : String} (single : '.' ∉ name.toList)
    {value found : Json} :
    value.lookup? name = some found ↔
      ∃ fields, value = .object fields ∧ Fields.get? name fields = some found ∧ found ≠ .null := by
  rw [lookup?, pathNames_of_not_mem single, Option.filter_eq_some_iff, Bool.not_eq_true',
    isNull_eq_false_iff]
  cases value with
  | object fields => simp [follow, field?]
  | _ => simp [follow, field?]

/-- Looking up a path finds the value that the path leads to, if it leads to one. -/
theorem lookup?_eq_some_iff {value found : Json} {path : String} :
    value.lookup? path = some found ↔ LeadsTo value path found := by
  constructor
  · intro looked
    induction path using path_induction generalizing value with
    | single name single =>
        obtain ⟨fields, rfl, here, shown⟩ := (lookup?_name_eq_some_iff single).mp looked
        exact .field single here shown
    | through name rest single ih =>
        rw [lookup?_append_dot, Option.bind_eq_some_iff] at looked
        obtain ⟨inner, first, onward⟩ := looked
        obtain ⟨fields, rfl, here, shown⟩ := (lookup?_name_eq_some_iff single).mp first
        exact .through single here shown (ih onward)
  · intro leads
    induction leads with
    | field single here shown =>
        exact (lookup?_name_eq_some_iff single).mpr ⟨_, rfl, here, shown⟩
    | through single here shown _ ih =>
        rw [lookup?_append_dot, (lookup?_name_eq_some_iff single).mpr ⟨_, rfl, here, shown⟩]
        exact ih

end Json
end BlogMigration
