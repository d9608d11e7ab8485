import BlogMigration.Proofs.Export.Rows

/-!
# The author of a post

A post has one author: the user of its lowest row in the table of authors, or, if it has no row
there, the user of its own column. Whether that user has a name decides whether the author has one;
no other user takes the place of a missing one.
-/

namespace BlogMigration
namespace Export

/-- The identifier of the author of a post. The column of the post counts only if the table of
authors has no row of the post. -/
inductive AuthorId (data : Data) (post : PostRow) : Id → Prop where
  | primary {own : Id} {row : PostAuthor} (identifier : post.id = some own)
      (lowest : IsLowest PostAuthor.sortOrder (authorsOf data own) row) :
      AuthorId data post row.authorId
  | legacy {id : Id} (unlisted : ∀ own, post.id = some own → authorsOf data own = [])
      (column : post.authorId = some id) : AuthorId data post id

/-- The name of the author of a post, which the first user with the identifier has or has not. -/
inductive NamesAuthor (data : Data) (post : PostRow) : Option String → Prop where
  | named {id : Id} {user : User} (author : AuthorId data post id)
      (first : IsFirst (fun user => user.id = id) data.users user) (filled : user.name ≠ "") :
      NamesAuthor data post (some user.name)
  | nameless {id : Id} {user : User} (author : AuthorId data post id)
      (first : IsFirst (fun user => user.id = id) data.users user) (empty : user.name = "") :
      NamesAuthor data post none
  | missing {id : Id} (author : AuthorId data post id)
      (absent : ∀ user ∈ data.users, user.id ≠ id) : NamesAuthor data post none
  | nobody (unknown : ∀ id, ¬ AuthorId data post id) : NamesAuthor data post none

def authorId? (data : Data) (post : PostRow) : Option Id :=
  (post.id.bind (primaryAuthor? data)).or post.authorId

theorem author?_eq (data : Data) (post : PostRow) :
    author? data post = (authorId? data post).bind (userName? data) :=
  rfl

/-! ## The identifier of the author -/

theorem primaryAuthor?_eq_none_iff {data : Data} {own : Id} :
    primaryAuthor? data own = none ↔ authorsOf data own = [] := by
  rw [primaryAuthor?, Option.map_eq_none_iff, firstLowest_eq_none_iff]

theorem primaryAuthor?_eq_some_iff {data : Data} {own id : Id} :
    primaryAuthor? data own = some id ↔
      ∃ row, IsLowest PostAuthor.sortOrder (authorsOf data own) row ∧ row.authorId = id := by
  simp only [primaryAuthor?, Option.map_eq_some_iff, firstLowest_eq_some_iff]

theorem authorId?_of_primary {data : Data} {post : PostRow} {own id : Id}
    (identifier : post.id = some own) (primary : primaryAuthor? data own = some id) :
    authorId? data post = some id := by
  rw [authorId?, identifier, Option.bind_some, primary, Option.some_or]

theorem authorId?_of_unlisted {data : Data} {post : PostRow}
    (unlisted : ∀ own, post.id = some own → authorsOf data own = []) :
    authorId? data post = post.authorId := by
  rw [authorId?]
  cases identifier : post.id with
  | none => rfl
  | some own =>
      rw [Option.bind_some, primaryAuthor?_eq_none_iff.mpr (unlisted own identifier),
        Option.none_or]

theorem authorId?_eq_some_iff {data : Data} {post : PostRow} {id : Id} :
    authorId? data post = some id ↔ AuthorId data post id := by
  constructor
  · intro found
    by_cases unlisted : ∀ own, post.id = some own → authorsOf data own = []
    · rw [authorId?_of_unlisted unlisted] at found
      exact .legacy unlisted found
    · simp only [not_forall] at unlisted
      obtain ⟨own, identifier, listed⟩ := unlisted
      cases primary : primaryAuthor? data own with
      | none => exact absurd (primaryAuthor?_eq_none_iff.mp primary) listed
      | some other =>
          rw [authorId?_of_primary identifier primary] at found
          obtain ⟨row, lowest, rfl⟩ := primaryAuthor?_eq_some_iff.mp primary
          cases found
          exact .primary identifier lowest
  · intro author
    cases author with
    | primary identifier lowest =>
        exact authorId?_of_primary identifier (primaryAuthor?_eq_some_iff.mpr ⟨_, lowest, rfl⟩)
    | legacy unlisted column => rw [authorId?_of_unlisted unlisted, column]

theorem author?_of_authorId {data : Data} {post : PostRow} {id : Id}
    (author : AuthorId data post id) : author? data post = userName? data id := by
  rw [author?_eq, authorId?_eq_some_iff.mpr author, Option.bind_some]

/-! ## The name of the author -/

theorem userName?_of_isFirst {data : Data} {id : Id} {user : User}
    (first : IsFirst (fun user => user.id = id) data.users user) :
    userName? data id = (some user.name).filter fun name => !name.isEmpty := by
  rw [userName?, find?_eq_some_iff_isFirst.mpr first, Option.map_some]

theorem userName?_of_absent {data : Data} {id : Id} (absent : ∀ user ∈ data.users, user.id ≠ id) :
    userName? data id = none := by
  have nowhere : data.users.find? (fun user => decide (user.id = id)) = none := by
    simpa using absent
  rw [userName?, nowhere, Option.map_none, Option.filter_none]

theorem namesAuthor_author? (data : Data) (post : PostRow) :
    NamesAuthor data post (author? data post) := by
  cases found : authorId? data post with
  | none =>
      rw [author?_eq, found, Option.bind_none]
      refine .nobody fun id author => ?_
      rw [authorId?_eq_some_iff.mpr author] at found
      cases found
  | some id =>
      have author : AuthorId data post id := authorId?_eq_some_iff.mp found
      rw [author?_of_authorId author]
      cases search : data.users.find? (fun user => decide (user.id = id)) with
      | none =>
          have absent : ∀ user ∈ data.users, user.id ≠ id := by simpa using search
          rw [userName?_of_absent absent]
          exact .missing author absent
      | some user =>
          have first := find?_eq_some_iff_isFirst.mp search
          rw [userName?_of_isFirst first]
          by_cases empty : user.name = ""
          · rw [empty]
            exact .nameless author first empty
          · rw [Option.filter_some_pos (by simpa using empty)]
            exact .named author first empty

theorem NamesAuthor.eq_author? {data : Data} {post : PostRow} {result : Option String}
    (names : NamesAuthor data post result) : result = author? data post := by
  cases names with
  | named author first filled =>
      rw [author?_of_authorId author, userName?_of_isFirst first,
        Option.filter_some_pos (by simpa using filled)]
  | nameless author first empty =>
      rw [author?_of_authorId author, userName?_of_isFirst first, empty]
      rfl
  | missing author absent => rw [author?_of_authorId author, userName?_of_absent absent]
  | nobody unknown =>
      have nothing : authorId? data post = none := by
        rw [Option.eq_none_iff_forall_ne_some]
        exact fun id found => unknown id (authorId?_eq_some_iff.mp found)
      rw [author?_eq, nothing, Option.bind_none]

/-! ## What has no part in it -/

theorem author?_of_sameBut {data : Data} {post : PostRow} {rows : List PostAuthor}
    (same : SameBut (fun row => post.id ≠ some row.postId) data.postAuthors rows) :
    author? { data with postAuthors := rows } post = author? data post := by
  have ids : authorId? { data with postAuthors := rows } post = authorId? data post := by
    rw [authorId?, authorId?]
    cases identifier : post.id with
    | none => rfl
    | some own =>
        have rowsOfPost := same.ownRows_eq identifier
        rw [Option.bind_some, Option.bind_some, primaryAuthor?, primaryAuthor?, authorsOf,
          authorsOf, rowsOfPost]
  rw [author?_eq, author?_eq, ids]
  rfl

theorem author?_of_otherColumn {data : Data} {post : PostRow} {row : PostAuthor}
    (member : row ∈ data.postAuthors) (own : post.id = some row.postId) (column : Option Id) :
    author? data { post with authorId := column } = author? data post := by
  have listed : row ∈ authorsOf data row.postId :=
    List.mem_filter.mpr ⟨member, decide_eq_true rfl⟩
  cases primary : primaryAuthor? data row.postId with
  | none =>
      rw [primaryAuthor?_eq_none_iff.mp primary] at listed
      cases listed
  | some id =>
      have before : authorId? data post = some id := authorId?_of_primary own primary
      have after : authorId? data { post with authorId := column } = some id :=
        authorId?_of_primary own primary
      rw [author?_eq, author?_eq, before, after]

theorem author?_of_otherUsers {data : Data} {post : PostRow} {id : Id} {users : List User}
    (author : AuthorId data post id)
    (same : SameBut (fun user => user.id ≠ id) data.users users) :
    author? { data with users := users } post = author? data post := by
  have ids : authorId? { data with users := users } post = authorId? data post := rfl
  have apart (user : User) (foreign : user.id ≠ id) : decide (user.id = id) = false :=
    decide_eq_false foreign
  have found := same.filter_eq apart
  rw [author?_of_authorId author, author?_eq, ids, authorId?_eq_some_iff.mpr author,
    Option.bind_some, userName?, userName?, ← List.head?_filter, ← List.head?_filter, found]

theorem author?_of_perm {data : Data} {post : PostRow} {rows : List PostAuthor}
    {users : List User}
    (orders : ∀ own, post.id = some own →
      ((authorsOf data own).map PostAuthor.sortOrder).Nodup)
    (ids : (data.users.map User.id).Nodup) (sameRows : data.postAuthors.Perm rows)
    (sameUsers : data.users.Perm users) :
    author? { data with postAuthors := rows, users := users } post = author? data post := by
  have authors : authorId? { data with postAuthors := rows, users := users } post =
      authorId? data post := by
    rw [authorId?, authorId?]
    cases identifier : post.id with
    | none => rfl
    | some own =>
        have lowest := firstLowest_eq_of_perm (sameRows.filter fun row => row.postId = own)
          (orders own identifier)
        rw [Option.bind_some, Option.bind_some, primaryAuthor?, primaryAuthor?, authorsOf,
          authorsOf, lowest]
  have names (id : Id) :
      userName? { data with postAuthors := rows, users := users } id = userName? data id := by
    rw [userName?, userName?, find?_eq_of_perm sameUsers ids]
  rw [author?_eq, author?_eq, authors, funext names]

/--
A post has the name of its one author, if that user has a name, and none otherwise. Rows of other
posts have no part in it, nor have users other than the author, nor has the column of the post if
the table of authors has a row of it, nor has the order of the tables where the orders of the rows
and the identifiers of the users differ.
-/
theorem author?_resolved (data : Data) (post : PostRow) :
    (∀ result, author? data post = result ↔ NamesAuthor data post result) ∧
    (∀ rows, SameBut (fun row => post.id ≠ some row.postId) data.postAuthors rows →
      author? { data with postAuthors := rows } post = author? data post) ∧
    (∀ row ∈ data.postAuthors, post.id = some row.postId → ∀ column,
      author? data { post with authorId := column } = author? data post) ∧
    (∀ id users, AuthorId data post id → SameBut (fun user => user.id ≠ id) data.users users →
      author? { data with users := users } post = author? data post) ∧
    ((∀ own, post.id = some own → ((authorsOf data own).map PostAuthor.sortOrder).Nodup) →
      (data.users.map User.id).Nodup →
      ∀ rows users, data.postAuthors.Perm rows → data.users.Perm users →
        author? { data with postAuthors := rows, users := users } post = author? data post) := by
  refine ⟨fun result => ?_, fun rows => author?_of_sameBut, ?_, ?_, ?_⟩
  · constructor
    · rintro rfl
      exact namesAuthor_author? data post
    · exact fun names => names.eq_author?.symm
  · exact fun row member own column => author?_of_otherColumn member own column
  · exact fun id users author same => author?_of_otherUsers author same
  · exact fun orders ids rows users => author?_of_perm orders ids

/-- The rows that give authors to the post 1, the second one being the primary author. -/
def ownAuthors : List PostAuthor :=
  [⟨.number 1, .text "u1", 1⟩, ⟨.number 1, .text "u2", 0⟩]

/-- A row of a post whose identifier is the same numeral as a text. -/
def textAuthor : PostAuthor := ⟨.text "1", .text "u1", 0⟩

def authoredData : Data where
  posts := []
  users := [⟨.text "u1", "Ada"⟩, ⟨.text "u2", "Grace"⟩]
  tags := []
  postTags := []
  postAuthors := textAuthor :: ownAuthors
  settings := []

def authoredPost : PostRow :=
  { PostRow.identified (.number 1) with authorId := some (.text "u1") }

theorem author?_resolved_grace :
    ((authorsOf authoredData (.number 1)).map PostAuthor.sortOrder).Nodup ∧
    (authoredData.users.map User.id).Nodup ∧
    AuthorId authoredData authoredPost (.text "u2") ∧
    author? authoredData authoredPost = some "Grace" ∧
    author? { authoredData with postAuthors := ownAuthors } authoredPost = some "Grace" ∧
    author? authoredData { authoredPost with authorId := none } = some "Grace" ∧
    author? { authoredData with users := [⟨.text "u2", "Grace"⟩] } authoredPost = some "Grace" ∧
    author? { authoredData with
      postAuthors := authoredData.postAuthors.reverse, users := authoredData.users.reverse }
        authoredPost = some "Grace" := by
  have orders : ((authorsOf authoredData (.number 1)).map PostAuthor.sortOrder).Nodup := by decide
  have ids : (authoredData.users.map User.id).Nodup := by decide
  have lowest : IsLowest PostAuthor.sortOrder (authorsOf authoredData (.number 1))
      ⟨.number 1, .text "u2", 0⟩ := .later Int.zero_lt_one (.first nofun)
  have author : AuthorId authoredData authoredPost (.text "u2") := .primary rfl lowest
  obtain ⟨meaning, others, column, users, arranged⟩ := author?_resolved authoredData authoredPost
  have here : author? authoredData authoredPost = some "Grace" :=
    (meaning _).mpr (.named author (.later (by decide) (.here rfl)) (by decide))
  have foreign : authoredPost.id ≠ some textAuthor.postId := by decide
  have dropped := others ownAuthors (.left foreign (.both _ (.both _ .nil)))
  have free := column ⟨.number 1, .text "u1", 1⟩ (by decide) rfl none
  have alone := users _ [⟨.text "u2", "Grace"⟩] author (.left (by decide) (.both _ .nil))
  have reversed := arranged (by rintro _ ⟨⟩; exact orders) ids _ _
    (List.reverse_perm _).symm (List.reverse_perm _).symm
  exact ⟨orders, ids, author, here, dropped.trans here, free.trans here, alone.trans here,
    reversed.trans here⟩

end Export
end BlogMigration
