import BlogMigration.Proofs.Export.Rows
import BlogMigration.Proofs.Text.Repetition

/-!
# The tags of a post

A post has the tags to which the rows with its identifier lead. They are named in the order of these
rows, the marks at the start of a name being left out, and a row that leads to no name is passed
over. Nothing else in an export has a part in it.
-/

namespace BlogMigration
namespace Export

def Id.isNumber : Id → Bool
  | .number _ => true
  | .text _ => false

/-- The rows that give tags to a post, as they stand in the table. -/
def tagLinksOf (data : Data) (post : Id) : List PostTag :=
  data.postTags.filter fun row => row.postId = post

/-- A row names the first tag with its identifier. What stands behind the marks of an internal tag
is the name, unless nothing does. -/
inductive NamesTag (tags : List Tag) (row : PostTag) : String → Prop where
  | intro {tag : Tag} {name : String} (marks : Nat)
      (first : IsFirst (fun tag => tag.id = row.tagId) tags tag)
      (marked : tag.name = Text.repeated '#' marks ++ name)
      (unmarked : name.toList.head? ≠ some '#') (filled : name ≠ "") : NamesTag tags row name

/-- The names that rows give, in their order. -/
inductive NamesTags (tags : List Tag) : List PostTag → List String → Prop where
  | nil : NamesTags tags [] []
  | named {row : PostTag} {name : String} {rows : List PostTag} {names : List String}
      (gives : NamesTag tags row name) (rest : NamesTags tags rows names) :
      NamesTags tags (row :: rows) (name :: names)
  | nameless {row : PostTag} {rows : List PostTag} {names : List String}
      (unnamed : ∀ name, ¬ NamesTag tags row name) (rest : NamesTags tags rows names) :
      NamesTags tags (row :: rows) names

/-- The tags of a post. A post without an identifier has none. -/
inductive HasTags (data : Data) (post : PostRow) : List String → Prop where
  | anonymous (unidentified : post.id = none) : HasTags data post []
  | identified {id : Id} {rows : List PostTag} {names : List String}
      (identifier : post.id = some id)
      (arranged : IsArranged PostTag.sortOrder (tagLinksOf data id) rows)
      (named : NamesTags data.tags rows names) : HasTags data post names

/-! ## The name of a row -/

theorem visibleName_eq_iff {full name : String} :
    visibleName full = name ↔
      (∃ marks, full = Text.repeated '#' marks ++ name) ∧ name.toList.head? ≠ some '#' :=
  Text.ofList_dropWhile_eq_iff

theorem tagName?_eq_some_iff {data : Data} {row : PostTag} {name : String} :
    tagName? data row = some name ↔ NamesTag data.tags row name := by
  rw [tagName?, Option.filter_eq_some_iff, Option.map_eq_some_iff]
  constructor
  · rintro ⟨⟨tag, found, visible⟩, filled⟩
    obtain ⟨⟨marks, marked⟩, unmarked⟩ := visibleName_eq_iff.mp visible
    exact .intro marks (find?_eq_some_iff_isFirst.mp found) marked unmarked (by simpa using filled)
  · rintro ⟨marks, first, marked, unmarked, filled⟩
    refine ⟨⟨_, find?_eq_some_iff_isFirst.mpr first, ?_⟩, by simpa using filled⟩
    exact visibleName_eq_iff.mpr ⟨⟨marks, marked⟩, unmarked⟩

theorem namesTags_filterMap (data : Data) (rows : List PostTag) :
    NamesTags data.tags rows (rows.filterMap (tagName? data)) := by
  induction rows with
  | nil => exact .nil
  | cons row rest ih =>
      cases found : tagName? data row with
      | none =>
          rw [List.filterMap_cons_none found]
          refine .nameless (fun name gives => ?_) ih
          rw [tagName?_eq_some_iff.mpr gives] at found
          cases found
      | some name =>
          rw [List.filterMap_cons_some found]
          exact .named (tagName?_eq_some_iff.mp found) ih

theorem NamesTags.eq_filterMap {data : Data} {rows : List PostTag} {names : List String}
    (named : NamesTags data.tags rows names) : names = rows.filterMap (tagName? data) := by
  induction named with
  | nil => rfl
  | named gives _ ih => rw [List.filterMap_cons_some (tagName?_eq_some_iff.mpr gives), ← ih]
  | @nameless row _ _ unnamed _ ih =>
      have absent : tagName? data row = none := by
        rw [Option.eq_none_iff_forall_ne_some]
        exact fun name found => unnamed name (tagName?_eq_some_iff.mp found)
      rw [List.filterMap_cons_none absent, ← ih]

/-! ## The names of all rows -/

theorem tagRowsOf_eq (data : Data) (id : Id) :
    tagRowsOf data id = (tagLinksOf data id).mergeSort (mayPrecede PostTag.sortOrder) :=
  rfl

theorem tagNames_of_id {data : Data} {post : PostRow} {id : Id} (identifier : post.id = some id) :
    tagNames data post = (tagRowsOf data id).filterMap (tagName? data) := by
  rw [tagNames, identifier]

theorem tagNames_of_none {data : Data} {post : PostRow} (unidentified : post.id = none) :
    tagNames data post = [] := by
  rw [tagNames, unidentified]

theorem hasTags_tagNames (data : Data) (post : PostRow) :
    HasTags data post (tagNames data post) := by
  cases identifier : post.id with
  | none =>
      rw [tagNames_of_none identifier]
      exact .anonymous identifier
  | some id =>
      rw [tagNames_of_id identifier]
      exact .identified identifier (isArranged_iff.mpr (tagRowsOf_eq data id))
        (namesTags_filterMap data _)

theorem HasTags.eq_tagNames {data : Data} {post : PostRow} {names : List String}
    (has : HasTags data post names) : names = tagNames data post := by
  cases has with
  | anonymous unidentified => rw [tagNames_of_none unidentified]
  | identified identifier arranged named =>
      rw [tagNames_of_id identifier, tagRowsOf_eq, ← isArranged_iff.mp arranged]
      exact named.eq_filterMap

theorem exists_namesTag_of_mem {data : Data} {post : PostRow} {name : String}
    (member : name ∈ tagNames data post) : ∃ row, NamesTag data.tags row name := by
  cases identifier : post.id with
  | none =>
      rw [tagNames_of_none identifier] at member
      cases member
  | some id =>
      rw [tagNames_of_id identifier] at member
      obtain ⟨row, -, found⟩ := List.mem_filterMap.mp member
      exact ⟨row, tagName?_eq_some_iff.mp found⟩

/-- The tags of a post are told by its rows and by the names that these give. -/
theorem tagNames_congr {data other : Data} {post : PostRow}
    (rows : ∀ id, post.id = some id → tagRowsOf data id = tagRowsOf other id)
    (names : ∀ row, tagName? data row = tagName? other row) :
    tagNames data post = tagNames other post := by
  cases identifier : post.id with
  | none => rw [tagNames_of_none identifier, tagNames_of_none identifier]
  | some id =>
      rw [tagNames_of_id identifier, tagNames_of_id identifier, rows id identifier, funext names]

theorem tagNames_of_sameBut {data : Data} {post : PostRow} {rows : List PostTag}
    (same : SameBut (fun row => post.id ≠ some row.postId) data.postTags rows) :
    tagNames { data with postTags := rows } post = tagNames data post := by
  refine tagNames_congr (fun id identifier => ?_) fun row => rfl
  rw [tagRowsOf, tagRowsOf, same.ownRows_eq identifier]

theorem tagNames_of_perm {data : Data} {post : PostRow} {rows : List PostTag} {tags : List Tag}
    (orders : ∀ id, post.id = some id → ((tagLinksOf data id).map PostTag.sortOrder).Nodup)
    (ids : (data.tags.map Tag.id).Nodup) (sameRows : data.postTags.Perm rows)
    (sameTags : data.tags.Perm tags) :
    tagNames { data with postTags := rows, tags := tags } post = tagNames data post := by
  refine (tagNames_congr (fun id identifier => ?_) fun row => ?_).symm
  · exact mergeSort_eq_of_perm (sameRows.filter _) (orders id identifier)
  · rw [tagName?, tagName?, find?_eq_of_perm sameTags ids]

theorem tagNames_of_other_kind {data : Data} {post : PostRow} {id : Id}
    (identifier : post.id = some id)
    (other : ∀ row ∈ data.postTags, row.postId.isNumber ≠ id.isNumber) :
    tagNames data post = [] := by
  have nothing : tagLinksOf data id = [] := by
    refine List.filter_eq_nil_iff.mpr fun row member own => other row member ?_
    rw [of_decide_eq_true own]
  rw [tagNames_of_id identifier, tagRowsOf_eq, nothing, List.mergeSort_nil, List.filterMap_nil]

/--
The tags of a post are those that its rows give, and no others. No name is empty or begins with a
mark. Rows of other posts have no part in the tags, nor has the order of the tables where the orders
of the rows and the identifiers of the tags differ, and a number and a text never meet.
-/
theorem tagNames_resolved (data : Data) (post : PostRow) :
    (∀ names, tagNames data post = names ↔ HasTags data post names) ∧
    (∀ name ∈ tagNames data post, name ≠ "" ∧ name.toList.head? ≠ some '#') ∧
    (∀ rows, SameBut (fun row => post.id ≠ some row.postId) data.postTags rows →
      tagNames { data with postTags := rows } post = tagNames data post) ∧
    ((∀ id, post.id = some id → ((tagLinksOf data id).map PostTag.sortOrder).Nodup) →
      (data.tags.map Tag.id).Nodup →
      ∀ rows tags, data.postTags.Perm rows → data.tags.Perm tags →
        tagNames { data with postTags := rows, tags := tags } post = tagNames data post) ∧
    ∀ id, post.id = some id → (∀ row ∈ data.postTags, row.postId.isNumber ≠ id.isNumber) →
      tagNames data post = [] := by
  refine ⟨fun names => ?_, fun name member => ?_, fun rows => tagNames_of_sameBut, ?_, ?_⟩
  · constructor
    · rintro rfl
      exact hasTags_tagNames data post
    · exact fun has => has.eq_tagNames.symm
  · obtain ⟨row, marks, -, -, unmarked, filled⟩ := exists_namesTag_of_mem member
    exact ⟨filled, unmarked⟩
  · exact fun orders ids rows tags => tagNames_of_perm orders ids
  · exact fun id => tagNames_of_other_kind

/-- The rows that lead from the post 1 to tags. -/
def numberLinks : List PostTag :=
  [⟨.number 1, .text "t3", 1⟩, ⟨.number 1, .text "t1", 0⟩, ⟨.number 1, .text "t2", 2⟩]

/-- A row of a post whose identifier is the same numeral as a text. -/
def textLink : PostTag := ⟨.text "1", .text "t1", 0⟩

def taggedData : Data where
  posts := []
  users := []
  tags := [⟨.text "t1", "rust"⟩, ⟨.text "t2", "#internal"⟩, ⟨.text "t3", "hugo"⟩]
  postTags := textLink :: numberLinks
  postAuthors := []
  settings := []

theorem tagRowsOf_taggedData : tagRowsOf taggedData (.number 1) =
    [⟨.number 1, .text "t1", 0⟩, ⟨.number 1, .text "t3", 1⟩, ⟨.number 1, .text "t2", 2⟩] := by
  refine (mergeSort_eq_of_perm (List.Perm.swap _ _ _) (by decide)).trans ?_
  exact List.mergeSort_of_pairwise (by decide)

theorem tagNames_resolved_reversed :
    ((tagLinksOf taggedData (.number 1)).map PostTag.sortOrder).Nodup ∧
    (taggedData.tags.map Tag.id).Nodup ∧
    tagNames taggedData (.identified (.number 1)) = ["rust", "hugo", "internal"] ∧
    tagNames { taggedData with postTags := numberLinks } (.identified (.number 1)) =
      ["rust", "hugo", "internal"] ∧
    tagNames { taggedData with
      postTags := taggedData.postTags.reverse, tags := taggedData.tags.reverse }
        (.identified (.number 1)) = ["rust", "hugo", "internal"] ∧
    tagNames { taggedData with postTags := [textLink] } (.identified (.number 1)) = [] := by
  have orders : ((tagLinksOf taggedData (.number 1)).map PostTag.sortOrder).Nodup := by decide
  have ids : (taggedData.tags.map Tag.id).Nodup := by decide
  have here : tagNames taggedData (.identified (.number 1)) = ["rust", "hugo", "internal"] := by
    rw [tagNames_of_id rfl, tagRowsOf_taggedData]
    rfl
  obtain ⟨-, -, others, arranged, -⟩ :=
    tagNames_resolved taggedData (.identified (.number 1))
  obtain ⟨-, -, -, -, apart⟩ :=
    tagNames_resolved { taggedData with postTags := [textLink] } (.identified (.number 1))
  have foreign : some (Id.number 1) ≠ some textLink.postId := by decide
  have dropped := others numberLinks
    (.left foreign (.both _ (.both _ (.both _ .nil))))
  have reversed := arranged (by rintro _ ⟨⟩; exact orders) ids _ _
    (List.reverse_perm _).symm (List.reverse_perm _).symm
  refine ⟨orders, ids, here, dropped.trans here, reversed.trans here, apart _ rfl ?_⟩
  intro row member
  cases List.mem_singleton.mp member
  decide

end Export
end BlogMigration
