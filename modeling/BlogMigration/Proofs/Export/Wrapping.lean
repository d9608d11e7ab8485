import BlogMigration.Export.Decode
import BlogMigration.Proofs.Json.Members

/-!
# Wrapped exports

An export stands alone or as the first entry of a list under `db`. What stands beside the list, and
which entries follow the first one, does not matter, and neither does how often a text names the
list before it does so for the last time. Only a list without entries is an empty export.
-/

namespace BlogMigration
namespace Export

/-- A value that is read as a list of exports. -/
def IsWrapped (value : Json) : Prop :=
  ∃ entries, value.field? "db" = some (.array entries)

/-- The fields of an object with a list under `db`, among any other fields. -/
def wrapping (before : Json.Fields) (entries : List Json) (after : Json.Fields) : Json.Fields :=
  before ++ ("db", .array entries) :: after

def ofEntry (entry : Json) : Except Failure Export :=
  match decodeEntry? entry with
  | some result => .ok result
  | none => .error .malformedExport

theorem ofEntry_ne_emptyExport (entry : Json) : ofEntry entry ≠ .error .emptyExport := by
  rw [ofEntry]
  split <;> nofun

/-! ## The list under `db` -/

theorem ofJson_of_entries {value entry : Json} {further : List Json}
    (listed : value.field? "db" = some (.array (entry :: further))) :
    ofJson value = ofEntry entry := by
  simp only [ofJson, listed]
  rfl

theorem ofJson_of_noEntries {value : Json} (listed : value.field? "db" = some (.array [])) :
    ofJson value = .error .emptyExport := by
  simp only [ofJson, listed]
  rfl

theorem ofJson_of_bare {value : Json} (bare : ¬ IsWrapped value) :
    ofJson value = ofEntry value := by
  rw [ofJson]
  split
  · next listed => exact absurd ⟨_, listed⟩ bare
  · next listed => exact absurd ⟨_, listed⟩ bare
  · rfl

theorem ofJson_eq_emptyExport_iff {value : Json} :
    ofJson value = .error .emptyExport ↔ value.field? "db" = some (.array []) := by
  constructor
  · intro empty
    by_cases wrapped : IsWrapped value
    · obtain ⟨entries, listed⟩ := wrapped
      cases entries with
      | nil => exact listed
      | cons entry further =>
          rw [ofJson_of_entries listed] at empty
          exact absurd empty (ofEntry_ne_emptyExport entry)
    · rw [ofJson_of_bare wrapped] at empty
      exact absurd empty (ofEntry_ne_emptyExport value)
  · exact ofJson_of_noEntries

theorem field?_wrapping {before : Json.Fields} (absent : "db" ∉ before.map Prod.fst)
    (entries : List Json) (after : Json.Fields) :
    (Json.object (wrapping before entries after)).field? "db" = some (.array entries) :=
  Json.Fields.get?_eq_some_iff.mpr ⟨before, after, absent, rfl⟩

theorem exists_wrapping_of_field? {value : Json} {entries : List Json}
    (listed : value.field? "db" = some (.array entries)) :
    ∃ before after, "db" ∉ before.map Prod.fst ∧
      value = .object (wrapping before entries after) := by
  cases value with
  | object fields =>
      obtain ⟨before, after, absent, rfl⟩ := Json.Fields.get?_eq_some_iff.mp listed
      exact ⟨before, after, absent, rfl⟩
  | _ => cases listed

/--
A bare export is read alike alone and as the first entry of a list under `db`, whatever else the
object of the list holds. So it is from a text whose last member `db` is the list. Exactly the
objects with an empty list are empty exports.
-/
theorem ofJson_wrapped :
    (∀ entry, ¬ IsWrapped entry →
      (∀ before further after, "db" ∉ before.map Prod.fst →
        ofJson (.object (wrapping before (entry :: further) after)) = ofJson entry) ∧
      ∀ text before further after, "db" ∉ after.map Prod.fst →
        Json.members? text = some (wrapping before (entry :: further) after) →
          parse text = ofJson entry) ∧
    ∀ value, ofJson value = .error .emptyExport ↔
      ∃ before after, "db" ∉ before.map Prod.fst ∧ value = .object (wrapping before [] after) := by
  refine ⟨fun entry bare => ⟨?_, ?_⟩, fun value => ?_⟩
  · intro before further after absent
    rw [ofJson_of_entries (field?_wrapping absent _ after), ofJson_of_bare bare]
  · intro text before further after last members
    have listed : (Json.ofMembers (wrapping before (entry :: further) after)).field? "db" =
        some (.array (entry :: further)) := Json.field?_ofMembers last before _
    rw [parse, Json.parse?_of_members? members, ofJson_of_bare bare]
    exact ofJson_of_entries listed
  · rw [ofJson_eq_emptyExport_iff]
    constructor
    · exact exists_wrapping_of_field?
    · rintro ⟨before, after, absent, rfl⟩
      exact field?_wrapping absent [] after

def bareExport : Json :=
  .object [("data", .object [("tags", .array [.array [.string "t1", .string "rust"]])])]

/-- A text that names the list under `db` after another value under that name. -/
def wrappedText : String :=
  "\x7b\"db\":0,\"db\":[\x7b\"data\":\x7b\"tags\":[[\"t1\",\"rust\"]]\x7d\x7d,false]\x7d"

theorem ofJson_wrapped_tag :
    ¬ IsWrapped bareExport ∧
    ofJson (.object (wrapping [("meta", .null)] [bareExport, .null] [])) = ofJson bareExport ∧
    parse wrappedText = ofJson bareExport ∧
    ofJson bareExport =
      .ok ⟨⟨none, none⟩, { Data.empty with tags := [⟨.text "t1", "rust"⟩] }⟩ := by
  have bare : ¬ IsWrapped bareExport := by
    rintro ⟨entries, listed⟩
    cases listed
  have beside : "db" ∉ [("meta", Json.null)].map Prod.fst := by
    rw [List.map_singleton, List.mem_singleton]
    decide
  have members : Json.members? wrappedText =
      some (wrapping [("db", .integer 0)] [bareExport, .bool false] []) := rfl
  obtain ⟨values, texts⟩ := ofJson_wrapped.1 bareExport bare
  exact ⟨bare, values _ [.null] [] beside, texts _ _ _ _ List.not_mem_nil members, rfl⟩

end Export
end BlogMigration
