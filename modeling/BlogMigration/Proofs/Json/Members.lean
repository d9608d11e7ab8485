import BlogMigration.Json.Record

/-!
# Members of objects

A record can be read straight from the text of an object, member by member, or from the value that
the text writes. The first reader refuses a name that is given twice and the second one keeps the
last value of it. On a text whose members have distinct names of fields the two agree, whatever the
order of the members is.
-/

namespace BlogMigration
namespace Json

/-- The members of a text that writes an object, as they come. -/
def members? (text : String) : Option Fields :=
  match Parser.skipSpace text.toList with
  | '{' :: rest =>
    Parser.complete
      (Parser.bracketed '}' (Parser.member fun _ => Parser.value (depthLimit - 1)) rest)
  | _ => none

theorem Parser.complete_eq_some_iff {α : Type} (found : Option (α × List Char)) (result : α) :
    complete found = some result ↔
      ∃ rest, found = some (result, rest) ∧ (skipSpace rest).isEmpty = true := by
  cases found with
  | none => simp [complete]
  | some pair =>
      simp only [complete, Option.bind_eq_bind, Option.bind_some, Option.some.injEq]
      constructor
      · intro read
        split at read
        · next blank => exact ⟨pair.2, by rw [← Option.some.inj read], blank⟩
        · cases read
      · rintro ⟨rest, rfl, blank⟩
        exact if_pos blank

/-- The value of the text is the object of its members. -/
theorem parse?_of_members? {text : String} {members : Fields}
    (found : members? text = some members) : parse? text = some (ofMembers members) := by
  unfold members? at found
  split at found
  · next rest start =>
      obtain ⟨after, read, blank⟩ := (Parser.complete_eq_some_iff _ _).mp found
      refine (Parser.complete_eq_some_iff _ _).mpr ⟨after, ?_, blank⟩
      rw [depthLimit] at read ⊢
      simp [Parser.value, start, read]
  · cases found

/-! ## The value of a member -/

theorem Fields.get?_append_of_not_mem {name : String} {before : Fields}
    (absent : name ∉ before.map Prod.fst) (rest : Fields) :
    get? name (before ++ rest) = get? name rest := by
  induction before with
  | nil => rfl
  | cons entry before ih =>
      obtain ⟨key, value⟩ := entry
      obtain ⟨apart, later⟩ : name ≠ key ∧ name ∉ before.map Prod.fst := by
        simpa only [List.map_cons, List.mem_cons, not_or] using absent
      rw [List.cons_append, get?, if_neg (Ne.symm apart), ih later]

/-- A field has the value of the first entry with its name. -/
theorem Fields.get?_eq_some_iff {name : String} {fields : Fields} {value : Json} :
    get? name fields = some value ↔
      ∃ before after, name ∉ before.map Prod.fst ∧ fields = before ++ (name, value) :: after := by
  constructor
  · intro found
    induction fields with
    | nil => cases found
    | cons entry rest ih =>
        obtain ⟨key, other⟩ := entry
        rw [get?] at found
        split at found
        · next same =>
            cases found
            exact ⟨[], rest, List.not_mem_nil, by rw [same]; rfl⟩
        · next apart =>
            obtain ⟨before, after, absent, rfl⟩ := ih found
            refine ⟨(key, other) :: before, after, ?_, rfl⟩
            rw [List.map_cons, List.mem_cons, not_or]
            exact ⟨Ne.symm apart, absent⟩
  · rintro ⟨before, after, absent, rfl⟩
    rw [get?_append_of_not_mem absent, get?, if_pos rfl]

theorem Fields.get?_foldl_put_of_not_mem {name : String} {members : Fields}
    (absent : name ∉ members.map Prod.fst) (fields : Fields) :
    get? name (members.foldl (fun fields (key, value) => put key value fields) fields) =
      get? name fields := by
  induction members generalizing fields with
  | nil => rfl
  | cons entry rest ih =>
      obtain ⟨key, value⟩ := entry
      obtain ⟨apart, later⟩ : name ≠ key ∧ name ∉ rest.map Prod.fst := by
        simpa only [List.map_cons, List.mem_cons, not_or] using absent
      rw [List.foldl_cons, ih later, get?_put, if_neg apart]

/-- Of several members of one name the last one counts. -/
theorem field?_ofMembers {name : String} {after : Fields} (last : name ∉ after.map Prod.fst)
    (before : Fields) (value : Json) :
    (ofMembers (before ++ (name, value) :: after)).field? name = some value := by
  rw [ofMembers, List.foldl_append, List.foldl_cons, field?,
    Fields.get?_foldl_put_of_not_mem last, Fields.get?_put, if_pos rfl]

/-! ## Two readers of items -/

namespace Parser

variable {α β : Type} {item : List Char → Option (α × List Char)}
  {other : List Char → Option (β × List Char)} {f : α → β} {Known : α → Prop}

/-- If one reader of items gives the image of what another one gives, so do the readers of
separated items. -/
theorem separated_map
    (agree : ∀ cs value rest, item cs = some (value, rest) → Known value →
      other cs = some (f value, rest))
    {close : Char} {fuel : Nat} {cs rest : List Char} {values : List α}
    (read : separated close item fuel cs = some (values, rest))
    (known : ∀ value ∈ values, Known value) :
    separated close other fuel cs = some (values.map f, rest) := by
  induction fuel generalizing cs values with
  | zero => cases read
  | succ fuel ih =>
      obtain ⟨⟨first, after⟩, firstRead, read⟩ := Option.bind_eq_some_iff.mp read
      have head (member : first ∈ values) : other cs = some (f first, after) :=
        agree cs first after firstRead (known first member)
      cases next : skipSpace after with
      | nil => simp only [next, reduceCtorEq] at read
      | cons c tail =>
          simp only [next] at read
          split at read
          · next closed =>
              cases read
              simp [separated, head (by simp), next, closed]
          · next opened =>
              split at read
              · next comma =>
                  obtain ⟨⟨others, last⟩, othersRead, same⟩ := Option.bind_eq_some_iff.mp read
                  cases same
                  have tailRead := ih othersRead fun value member =>
                    known value (List.mem_cons_of_mem first member)
                  simp [separated, head (by simp), next, comma, tailRead, comma ▸ opened]
              · cases read

theorem bracketed_map
    (agree : ∀ cs value rest, item cs = some (value, rest) → Known value →
      other cs = some (f value, rest))
    {close : Char} {cs rest : List Char} {values : List α}
    (read : bracketed close item cs = some (values, rest))
    (known : ∀ value ∈ values, Known value) :
    bracketed close other cs = some (values.map f, rest) := by
  unfold bracketed at read ⊢
  split at read
  · next c tail start =>
      split at read
      · next closed =>
          cases read
          rw [if_pos closed, List.map_nil]
      · next opened =>
          rw [if_neg opened]
          exact separated_map agree read known
  · cases read

end Parser

/-! ## Members of records -/

namespace Record

/-- A member with the name of a field is kept. -/
theorem member_readMember {names : List String} {cs rest : List Char} {entry : String × Json}
    (read : Parser.member (fun _ => Parser.value (depthLimit - 1)) cs = some (entry, rest))
    (known : entry.1 ∈ names) :
    Parser.member (readMember names) cs = some ((entry.1, some entry.2), rest) := by
  obtain ⟨⟨name, after⟩, named, read⟩ := Option.bind_eq_some_iff.mp read
  cases next : Parser.skipSpace after with
  | nil => simp [next] at read
  | cons c tail =>
      simp only [next] at read
      split at read
      · next colon =>
          cases colon
          obtain ⟨⟨value, last⟩, valued, same⟩ := Option.bind_eq_some_iff.mp read
          cases same
          simp [Parser.member, named, next, readMember, known, valued]
      · cases read

/-- A text whose members are fields is read as the record of its members. -/
theorem parse?_of_members? {names : List String} {text : String} {members : Fields}
    (found : members? text = some members) (known : ∀ entry ∈ members, entry.1 ∈ names) :
    parse? names text = ofMembers? names (members.map fun entry => (entry.1, some entry.2)) := by
  unfold members? at found
  split at found
  · next rest start =>
      obtain ⟨after, read, blank⟩ := (Parser.complete_eq_some_iff _ _).mp found
      have kept := Parser.bracketed_map (fun _ _ _ => member_readMember) read known
      have whole := (Parser.complete_eq_some_iff _ _).mpr ⟨after, kept, blank⟩
      simp only [parse?, start, whole, Option.bind_eq_bind, Option.bind_some]
  · cases found

theorem mapM_eq_some_map {α β : Type} {f : α → Option β} {g : α → β}
    (each : ∀ x, f x = some (g x)) (items : List α) : items.mapM f = some (items.map g) := by
  rw [funext each]
  exact List.mapM_pure

theorem valuesOf_cons (name : String) (entry : String × Json) (rest : Fields) :
    valuesOf name ((entry :: rest).map fun entry => (entry.1, some entry.2)) =
      if entry.1 = name then
        entry.2 :: valuesOf name (rest.map fun entry => (entry.1, some entry.2))
      else valuesOf name (rest.map fun entry => (entry.1, some entry.2)) := by
  simp only [valuesOf, List.map_cons, List.filterMap_cons]
  split <;> simp_all

theorem valuesOf_of_not_mem {name : String} {fields : Fields}
    (absent : name ∉ fields.map Prod.fst) :
    valuesOf name (fields.map fun entry => (entry.1, some entry.2)) = [] := by
  simp only [valuesOf, List.filterMap_map, List.filterMap_eq_nil_iff]
  intro entry member
  have apart : entry.1 ≠ name := fun same => absent (same ▸ List.mem_map_of_mem member)
  simp [apart]

/-- Among members with distinct names there is at most one of a name. -/
theorem valuesOf_of_nodup {fields : Fields} (distinct : (fields.map Prod.fst).Nodup)
    (name : String) :
    valuesOf name (fields.map fun entry => (entry.1, some entry.2)) =
      (Fields.get? name fields).toList := by
  induction fields with
  | nil => rfl
  | cons entry rest ih =>
      obtain ⟨key, value⟩ := entry
      rw [List.map_cons, List.nodup_cons] at distinct
      rw [valuesOf_cons, Fields.get?]
      split
      · next same =>
          subst same
          rw [valuesOf_of_not_mem distinct.1, Option.toList_some]
      · exact ih distinct.2

/--
A text that writes the fields of an object in any order, each of them once, is read as the record
of that object.
-/
theorem parse?_eq_ofJson? {names : List String} {text : String} {members fields : Fields}
    (found : members? text = some members) (same : members.Perm fields)
    (distinct : (fields.map Prod.fst).Nodup) (known : ∀ entry ∈ fields, entry.1 ∈ names) :
    parse? names text = ofJson? names (.object fields) := by
  rw [parse?_of_members? found fun entry member => known entry (same.mem_iff.mp member)]
  have values (name : String) :
      valuesOf name (members.map fun entry => (entry.1, some entry.2)) =
        (Fields.get? name fields).toList := by
    have perm := (same.map fun entry => (entry.1, some entry.2)).filterMap
      fun entry : String × Option Json => if entry.1 = name then entry.2 else none
    have there := valuesOf_of_nodup distinct name
    unfold valuesOf at there ⊢
    rw [there] at perm
    cases given : Fields.get? name fields with
    | none =>
        rw [given] at perm
        exact perm.eq_nil
    | some value =>
        rw [given] at perm
        exact perm.eq_singleton
  refine mapM_eq_some_map (fun name => ?_) names
  rw [values]
  cases Fields.get? name fields <;> rfl

end Record

end Json
end BlogMigration
