import BlogMigration.Mobiledoc.Decode
import Mathlib.Data.List.Forall2

/-!
# Edits of documents

Documents and the JSON values they are read from, changed at a single place: a value put into a
list or exchanged for another, at the level of sections or inside one run of markers. Reading
carries a change in a run of entries over to the run of markers that is read from them.
-/

namespace BlogMigration
namespace Mobiledoc

/-! ## Lists -/

/-- One item of a list is replaced, as the relation allows. -/
inductive OneReplaced {α : Type} (Replaced : α → α → Prop) : List α → List α → Prop where
  | intro {old new : α} (front back : List α) (replaced : Replaced old new) :
      OneReplaced Replaced (front ++ old :: back) (front ++ new :: back)

/-- One item with the property is put into a list. -/
inductive OneInserted {α : Type} (Inserted : α → Prop) : List α → List α → Prop where
  | intro {new : α} (front back : List α) (inserted : Inserted new) :
      OneInserted Inserted (front ++ back) (front ++ new :: back)

section Lists

variable {α β : Type} {old new : List α}

theorem OneReplaced.forall₂ {Replaced Related : α → α → Prop} (refl : ∀ x, Related x x)
    (related : ∀ x y, Replaced x y → Related x y) (edit : OneReplaced Replaced old new) :
    List.Forall₂ Related old new := by
  cases edit with
  | intro front back replaced =>
      have same (items : List α) : List.Forall₂ Related items items := List.forall₂_same.mpr
        fun x _ => refl x
      exact List.rel_append (same front) (.cons (related _ _ replaced) (same back))

theorem OneReplaced.map_eq {Replaced : α → α → Prop} {f : α → β}
    (same : ∀ x y, Replaced x y → f x = f y) (edit : OneReplaced Replaced old new) :
    old.map f = new.map f := by
  cases edit with
  | intro front back replaced => simp only [List.map_append, List.map_cons, same _ _ replaced]

theorem OneReplaced.eq_of_eq (edit : OneReplaced Eq old new) : old = new := by
  cases edit with
  | intro front back replaced => rw [replaced]

theorem OneReplaced.filterMap_eq {Replaced : α → α → Prop} {f : α → Option β}
    (same : ∀ x y, Replaced x y → f x = f y) (edit : OneReplaced Replaced old new) :
    old.filterMap f = new.filterMap f := by
  cases edit with
  | intro front back replaced =>
      simp only [List.filterMap_append, List.filterMap_cons, same _ _ replaced]

theorem OneInserted.filterMap_eq {Inserted : α → Prop} {f : α → Option β}
    (dropped : ∀ x, Inserted x → f x = none) (edit : OneInserted Inserted old new) :
    old.filterMap f = new.filterMap f := by
  cases edit with
  | intro front back inserted =>
      simp only [List.filterMap_append, List.filterMap_cons_none (dropped _ inserted)]

end Lists

section Options

variable {α β : Type} {Related : α → α → Prop} {old new : Option α}

theorem rel_imp {Weaker : α → α → Prop} (weaken : ∀ x y, Related x y → Weaker x y)
    (related : Option.Rel Related old new) : Option.Rel Weaker old new := by
  cases related with
  | none => exact .none
  | some related => exact .some (weaken _ _ related)

theorem map_eq_of_rel {f : α → β} (same : ∀ x y, Related x y → f x = f y)
    (related : Option.Rel Related old new) : old.map f = new.map f := by
  cases related with
  | none => rfl
  | some related => exact congrArg some (same _ _ related)

theorem eq_of_rel (same : ∀ x y, Related x y → x = y) (related : Option.Rel Related old new) :
    old = new := by
  cases related with
  | none => rfl
  | some related => exact congrArg some (same _ _ related)

end Options

/-! ## Runs of markers -/

/-- One run of a section is edited. -/
inductive Section.RunEdited (Edited : List Marker → List Marker → Prop) :
    Section → Section → Prop where
  | markup {old new : List Marker} (tag : String) (edit : Edited old new) :
      Section.RunEdited Edited (.markup tag old) (.markup tag new)
  | list {old new : List (List Marker)} (tag : String) (edit : OneReplaced Edited old new) :
      Section.RunEdited Edited (.list tag old) (.list tag new)

/-- One list of marker entries is edited, that of a markup section or of an item of a list. -/
inductive EntriesEdited (Edited : List Json → List Json → Prop) : Json → Json → Prop where
  | markup {items old new : List Json}
      (kind : items[0]? = some (.integer 1))
      (place : items[2]? = some (.array old))
      (edit : Edited old new) :
      EntriesEdited Edited (.array items) (.array (items.set 2 (.array new)))
  | list {items old new : List Json} (front back : List Json)
      (kind : items[0]? = some (.integer 3))
      (place : items[2]? = some (.array (front ++ .array old :: back)))
      (edit : Edited old new) :
      EntriesEdited Edited (.array items)
        (.array (items.set 2 (.array (front ++ .array new :: back))))

theorem Section.RunEdited.eq_of_eq {old new : Section} (edit : Section.RunEdited Eq old new) :
    old = new := by
  cases edit with
  | markup tag edit => rw [edit]
  | list tag edit => rw [edit.eq_of_eq]

theorem decode?_markup {items : List Json} (kind : items[0]? = some (.integer 1)) :
    Section.decode? (.array items) =
      (stringItem? 1 (.array items)).map fun tag =>
        .markup (Text.lowercase tag) (decodeMarkers (itemsItem 2 (.array items))) := by
  have first : naturalItem? 0 (.array items) = some markupSection := by
    simp [naturalItem?, Json.item?, kind, Json.natural?, markupSection]
  rw [Section.decode?, first]
  cases stringItem? 1 (.array items) <;> rfl

theorem decode?_list {items : List Json} (kind : items[0]? = some (.integer 3)) :
    Section.decode? (.array items) =
      (stringItem? 1 (.array items)).map fun tag =>
        .list (Text.lowercase tag)
          ((itemsItem 2 (.array items)).map fun item => decodeMarkers (item.array?.getD [])) := by
  have first : naturalItem? 0 (.array items) = some listSection := by
    simp [naturalItem?, Json.item?, kind, Json.natural?, listSection]
  rw [Section.decode?, first]
  cases stringItem? 1 (.array items) <;> rfl

theorem itemsItem_of_place {items entries : List Json}
    (place : items[2]? = some (.array entries)) : itemsItem 2 (.array items) = entries := by
  simp [itemsItem, Json.item?, place, Json.array?]

theorem place_set {items : List Json} {value : Json} (place : items[2]? = some value)
    (replacement : Json) : (items.set 2 replacement)[2]? = some replacement := by
  have bound : 2 < items.length := (List.getElem?_eq_some_iff.mp place).1
  exact List.getElem?_set_self bound

theorem stringItem?_set (items : List Json) (replacement : Json) :
    stringItem? 1 (.array (items.set 2 replacement)) = stringItem? 1 (.array items) := by
  rw [stringItem?, stringItem?, Json.item?, Json.item?, List.getElem?_set_ne (by decide)]

/-- An edit of marker entries is an edit of the run that is read from them, in a section that is
read as before. -/
theorem EntriesEdited.decode? {Edited : List Json → List Json → Prop}
    {Image : List Marker → List Marker → Prop}
    (carries : ∀ x y, Edited x y → Image (decodeMarkers x) (decodeMarkers y))
    {old new : Json} (edit : EntriesEdited Edited old new) :
    Option.Rel (Section.RunEdited Image) (Section.decode? old) (Section.decode? new) := by
  cases edit with
  | @markup items old new kind place edit =>
      have kindAfter : (items.set 2 (.array new))[0]? = some (.integer 1) := by
        rw [List.getElem?_set_ne (by decide)]
        exact kind
      rw [decode?_markup kind, decode?_markup kindAfter, stringItem?_set,
        itemsItem_of_place place, itemsItem_of_place (place_set place _)]
      cases stringItem? 1 (.array items) with
      | none => exact .none
      | some tag => exact .some (.markup _ (carries _ _ edit))
  | @list items old new front back kind place edit =>
      have kindAfter : (items.set 2 (.array (front ++ .array new :: back)))[0]? =
          some (.integer 3) := by
        rw [List.getElem?_set_ne (by decide)]
        exact kind
      rw [decode?_list kind, decode?_list kindAfter, stringItem?_set,
        itemsItem_of_place place, itemsItem_of_place (place_set place _)]
      cases stringItem? 1 (.array items) with
      | none => exact .none
      | some tag =>
          simp only [List.map_append, List.map_cons]
          exact .some (.list _ (.intro _ _ (carries _ _ edit)))

end Mobiledoc
end BlogMigration
