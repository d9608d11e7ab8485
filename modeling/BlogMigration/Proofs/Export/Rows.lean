import BlogMigration.Export.Resolve
import Mathlib.Data.List.Nodup

/-!
# Rows of tables

What a look-up, a minimum and a sorting of the rows of a table find, said by the places of the rows
in the table. Where the keys of the rows differ the places do not matter, so that all orders of the
table give the same. Rows of no concern may come and go.
-/

namespace BlogMigration
namespace Export

variable {α κ : Type}

/-! ## The first row of a kind -/

/-- The first row of a table that meets a condition. -/
inductive IsFirst (holds : α → Prop) : List α → α → Prop where
  | here {row : α} {rest : List α} (met : holds row) : IsFirst holds (row :: rest) row
  | later {row found : α} {rest : List α} (unmet : ¬ holds row)
      (first : IsFirst holds rest found) : IsFirst holds (row :: rest) found

theorem find?_eq_some_iff_isFirst {holds : α → Prop} [DecidablePred holds] {table : List α}
    {found : α} :
    table.find? (fun row => decide (holds row)) = some found ↔ IsFirst holds table found := by
  induction table with
  | nil =>
      constructor
      · intro absent
        cases absent
      · intro first
        cases first
  | cons row rest ih =>
      by_cases met : holds row
      · rw [List.find?_cons, decide_eq_true met, Option.some.injEq]
        constructor
        · rintro rfl
          exact .here met
        · intro first
          cases first with
          | here => rfl
          | later unmet => exact absurd met unmet
      · rw [List.find?_cons, decide_eq_false met, ih]
        constructor
        · exact .later met
        · intro first
          cases first with
          | here holdsHere => exact absurd holdsHere met
          | later _ first => exact first

/-- The first row with a key is the only one, if the keys differ. -/
theorem isFirst_iff_of_nodup {key : α → κ} {table : List α} (distinct : (table.map key).Nodup)
    {k : κ} {found : α} :
    IsFirst (fun row => key row = k) table found ↔ found ∈ table ∧ key found = k := by
  constructor
  · intro first
    induction first with
    | here met => exact ⟨List.mem_cons_self, met⟩
    | later _ _ ih =>
        obtain ⟨member, same⟩ := ih (List.nodup_cons.mp distinct).2
        exact ⟨List.mem_cons_of_mem _ member, same⟩
  · rintro ⟨member, rfl⟩
    induction table with
    | nil => cases member
    | cons row rest ih =>
        obtain ⟨fresh, others⟩ := List.nodup_cons.mp distinct
        rcases List.mem_cons.mp member with rfl | member
        · exact .here rfl
        · refine .later (fun same => fresh ?_) (ih others member)
          exact same ▸ List.mem_map_of_mem member

/-- The order of a table does not matter for a look-up by keys that differ. -/
theorem find?_eq_of_perm [DecidableEq κ] {key : α → κ} {table other : List α}
    (same : table.Perm other) (distinct : (table.map key).Nodup) (k : κ) :
    table.find? (fun row => decide (key row = k)) =
      other.find? (fun row => decide (key row = k)) := by
  have distinctOther : (other.map key).Nodup := (same.map key).nodup_iff.mp distinct
  apply Option.ext
  intro found
  rw [find?_eq_some_iff_isFirst, find?_eq_some_iff_isFirst, isFirst_iff_of_nodup distinct,
    isFirst_iff_of_nodup distinctOther, same.mem_iff]

/-! ## The lowest row -/

/-- The earliest of the rows of the lowest order: lower than the rows before it, and no higher than
those after it. -/
inductive IsLowest (order : α → Int) : List α → α → Prop where
  | first {row : α} {rest : List α} (notHigher : ∀ other ∈ rest, order row ≤ order other) :
      IsLowest order (row :: rest) row
  | later {row lowest : α} {rest : List α} (lower : order lowest < order row)
      (among : IsLowest order rest lowest) : IsLowest order (row :: rest) lowest

variable {order : α → Int}

theorem IsLowest.mem {table : List α} {lowest : α} (least : IsLowest order table lowest) :
    lowest ∈ table := by
  induction least with
  | first => exact List.mem_cons_self
  | later _ _ ih => exact List.mem_cons_of_mem _ ih

theorem IsLowest.le {table : List α} {lowest other : α} (least : IsLowest order table lowest)
    (member : other ∈ table) : order lowest ≤ order other := by
  induction least with
  | first notHigher =>
      rcases List.mem_cons.mp member with rfl | after
      · exact Int.le_refl _
      · exact notHigher other after
  | later lower _ ih =>
      rcases List.mem_cons.mp member with rfl | after
      · exact Int.le_of_lt lower
      · exact ih after

theorem firstLowest_eq_none_iff {table : List α} : firstLowest order table = none ↔ table = [] := by
  cases table with
  | nil => exact iff_of_true rfl rfl
  | cons row rest =>
      simp only [firstLowest, reduceCtorEq, iff_false]
      split
      · nofun
      · split <;> nofun

theorem firstLowest_eq_some_iff {table : List α} {lowest : α} :
    firstLowest order table = some lowest ↔ IsLowest order table lowest := by
  induction table generalizing lowest with
  | nil =>
      constructor
      · intro absent
        cases absent
      · intro least
        cases least
  | cons row rest ih =>
      rw [firstLowest]
      cases search : firstLowest order rest with
      | none =>
          have nothing : rest = [] := firstLowest_eq_none_iff.mp search
          subst nothing
          constructor
          · rintro ⟨⟩
            exact .first nofun
          · rintro (_ | ⟨_, among⟩)
            · rfl
            · cases among
      | some least =>
          have among : IsLowest order rest least := ih.mp search
          by_cases lower : order least < order row
          · simp only [if_pos lower, Option.some.injEq]
            constructor
            · rintro rfl
              exact .later lower among
            · rintro (notHigher | ⟨_, amongToo⟩)
              · exact absurd lower (Int.not_lt.mpr (notHigher least among.mem))
              · exact Option.some.inj (search.symm.trans (ih.mpr amongToo))
          · simp only [if_neg lower, Option.some.injEq]
            constructor
            · rintro rfl
              refine .first fun other member => ?_
              exact Int.le_trans (Int.not_lt.mp lower) (among.le member)
            · rintro (_ | ⟨lowerToo, amongToo⟩)
              · rfl
              · have same : least = lowest := Option.some.inj (search.symm.trans (ih.mpr amongToo))
                exact absurd (same ▸ lowerToo) lower

/-- The earliest row of the lowest order is the only row of that order, if the orders differ. -/
theorem isLowest_iff_of_nodup {table : List α} (distinct : (table.map order).Nodup) {lowest : α} :
    IsLowest order table lowest ↔
      lowest ∈ table ∧ ∀ other ∈ table, order lowest ≤ order other := by
  constructor
  · exact fun least => ⟨least.mem, fun other member => least.le member⟩
  · rintro ⟨member, least⟩
    induction table with
    | nil => cases member
    | cons row rest ih =>
        obtain ⟨fresh, others⟩ := List.nodup_cons.mp distinct
        obtain ⟨here, there⟩ := List.forall_mem_cons.mp least
        rcases List.mem_cons.mp member with rfl | after
        · exact .first there
        · have apart : order lowest ≠ order row := fun same =>
            fresh (same ▸ List.mem_map_of_mem after)
          exact .later (Int.lt_iff_le_and_ne.mpr ⟨here, apart⟩) (ih others after there)

/-- The order of a table does not matter for the lowest row, if the orders of the rows differ. -/
theorem firstLowest_eq_of_perm {table other : List α} (same : table.Perm other)
    (distinct : (table.map order).Nodup) : firstLowest order table = firstLowest order other := by
  have distinctOther : (other.map order).Nodup := (same.map order).nodup_iff.mp distinct
  apply Option.ext
  intro lowest
  rw [firstLowest_eq_some_iff, firstLowest_eq_some_iff, isLowest_iff_of_nodup distinct,
    isLowest_iff_of_nodup distinctOther]
  simp only [same.mem_iff]

/-! ## Rows by their order -/

/-- Rows by their order. Those of one order come as they stand in the table. -/
structure IsArranged (order : α → Int) (table arranged : List α) : Prop where
  ascending : arranged.Pairwise fun x y => order x ≤ order y
  kept : ∀ key, arranged.filter (fun row => order row = key) =
    table.filter fun row => order row = key

/-- Whether a row may stand before another one. -/
abbrev mayPrecede (order : α → Int) (row other : α) : Bool :=
  decide (order row ≤ order other)

theorem mayPrecede_trans (order : α → Int) (x y z : α) (first : mayPrecede order x y = true)
    (second : mayPrecede order y z = true) : mayPrecede order x z = true := by
  rw [decide_eq_true_eq] at first second ⊢
  exact Int.le_trans first second

theorem mayPrecede_total (order : α → Int) (x y : α) :
    (mayPrecede order x y || mayPrecede order y x) = true := by
  rw [Bool.or_eq_true, decide_eq_true_eq, decide_eq_true_eq]
  exact Int.le_total _ _

theorem pairwise_mergeSort_order (order : α → Int) (table : List α) :
    (table.mergeSort (mayPrecede order)).Pairwise fun x y => order x ≤ order y := by
  have sorted := List.pairwise_mergeSort (mayPrecede_trans order) (mayPrecede_total order) table
  simpa only [decide_eq_true_eq] using sorted

/-- The rows of one order are in order, so that a stable sorting keeps them as they stand. -/
theorem filter_mergeSort_order (order : α → Int) (table : List α) (key : Int) :
    (table.mergeSort (mayPrecede order)).filter (fun row => order row = key) =
      table.filter fun row => order row = key := by
  have alike : (table.filter fun row => order row = key).Pairwise
      fun x y => mayPrecede order x y = true := by
    refine List.pairwise_of_forall_mem_list fun x inside y insideToo => ?_
    have left : order x = key := by simpa using (List.mem_filter.mp inside).2
    have right : order y = key := by simpa using (List.mem_filter.mp insideToo).2
    exact decide_eq_true (Int.le_of_eq (left.trans right.symm))
  have sublist := List.sublist_mergeSort (mayPrecede_trans order) (mayPrecede_total order) alike
    List.filter_sublist
  have inside := sublist.filter fun row => decide (order row = key)
  simp only [List.filter_filter, Bool.and_self] at inside
  have lengths := ((List.mergeSort_perm table (mayPrecede order)).filter
    fun row => decide (order row = key)).length_eq
  exact (inside.eq_of_length lengths.symm).symm

theorem isArranged_mergeSort (order : α → Int) (table : List α) :
    IsArranged order table (table.mergeSort (mayPrecede order)) :=
  ⟨pairwise_mergeSort_order order table, filter_mergeSort_order order table⟩

theorem mem_of_filter_eq {rows others : List α}
    (same : ∀ key, rows.filter (fun row => order row = key) =
      others.filter fun row => order row = key)
    {row : α} (member : row ∈ rows) : row ∈ others := by
  have among : row ∈ rows.filter fun other => order other = order row :=
    List.mem_filter.mpr ⟨member, decide_eq_true rfl⟩
  rw [same] at among
  exact (List.mem_filter.mp among).1

theorem le_of_mem_ascending {row other : α} {rest : List α}
    (ascending : (row :: rest).Pairwise fun x y => order x ≤ order y)
    (member : other ∈ row :: rest) : order row ≤ order other := by
  rcases List.mem_cons.mp member with rfl | after
  · exact Int.le_refl _
  · exact (List.pairwise_cons.mp ascending).1 other after

/-- Ascending rows are told by the rows of each order. -/
theorem eq_of_filter_eq {rows others : List α}
    (ascending : rows.Pairwise fun x y => order x ≤ order y)
    (ascendingToo : others.Pairwise fun x y => order x ≤ order y)
    (same : ∀ key, rows.filter (fun row => order row = key) =
      others.filter fun row => order row = key) : rows = others := by
  induction rows generalizing others with
  | nil =>
      cases others with
      | nil => rfl
      | cons y ys => cases mem_of_filter_eq (fun key => (same key).symm) List.mem_cons_self
  | cons x xs ih =>
      cases others with
      | nil => cases mem_of_filter_eq same List.mem_cons_self
      | cons y ys =>
          -- Each head is one of the other rows as well, so neither order is below the other.
          have upper : order x ≤ order y := le_of_mem_ascending ascending
            (mem_of_filter_eq (fun key => (same key).symm) List.mem_cons_self)
          have lower : order y ≤ order x := le_of_mem_ascending ascendingToo
            (mem_of_filter_eq same List.mem_cons_self)
          have level : order x = order y := Int.le_antisymm upper lower
          have heads := same (order y)
          rw [List.filter_cons_of_pos (by simpa using level), List.filter_cons_of_pos (by simp)]
            at heads
          obtain ⟨rfl, -⟩ := List.cons.inj heads
          refine congrArg _ (ih ascending.of_cons ascendingToo.of_cons fun key => ?_)
          have tails := same key
          by_cases here : order x = key
          · rw [List.filter_cons_of_pos (by simpa using here),
              List.filter_cons_of_pos (by simpa using here)] at tails
            exact (List.cons.inj tails).2
          · rwa [List.filter_cons_of_neg (by simpa using here),
              List.filter_cons_of_neg (by simpa using here)] at tails

/-- A stable sorting is the only way to arrange rows. -/
theorem isArranged_iff {table arranged : List α} :
    IsArranged order table arranged ↔ arranged = table.mergeSort (mayPrecede order) := by
  have sorted := isArranged_mergeSort order table
  constructor
  · intro one
    refine eq_of_filter_eq one.ascending sorted.ascending fun key => ?_
    rw [one.kept, sorted.kept]
  · rintro rfl
    exact sorted

/-- The order of a table does not matter for its sorted rows, if the orders of the rows differ. -/
theorem mergeSort_eq_of_perm {table other : List α} (same : table.Perm other)
    (distinct : (table.map order).Nodup) :
    table.mergeSort (mayPrecede order) = other.mergeSort (mayPrecede order) := by
  have perm := List.mergeSort_perm table (mayPrecede order)
  have permOther := List.mergeSort_perm other (mayPrecede order)
  refine List.Perm.eq_of_pairwise ?_ (pairwise_mergeSort_order order table)
    (pairwise_mergeSort_order order other) (perm.trans (same.trans permOther.symm))
  intro x y inTable inOther upper lower
  have second : y ∈ table := same.mem_iff.mpr (permOther.mem_iff.mp inOther)
  exact List.inj_on_of_nodup_map distinct (perm.mem_iff.mp inTable) second
    (Int.le_antisymm upper lower)

/-! ## Rows of no concern -/

/-- Two tables that differ only in rows of a kind, which either of them may have at any places. -/
inductive SameBut (foreign : α → Prop) : List α → List α → Prop where
  | nil : SameBut foreign [] []
  | both (row : α) {table other : List α} (rest : SameBut foreign table other) :
      SameBut foreign (row :: table) (row :: other)
  | left {row : α} {table other : List α} (apart : foreign row)
      (rest : SameBut foreign table other) : SameBut foreign (row :: table) other
  | right {row : α} {table other : List α} (apart : foreign row)
      (rest : SameBut foreign table other) : SameBut foreign table (row :: other)

/-- Such tables have the same rows that are not of the kind. -/
theorem SameBut.filter_eq {foreign : α → Prop} {own : α → Bool}
    (apart : ∀ row, foreign row → own row = false) {table other : List α}
    (same : SameBut foreign table other) : table.filter own = other.filter own := by
  induction same with
  | nil => rfl
  | both row _ ih => rw [List.filter_cons, List.filter_cons, ih]
  | left foreignRow _ ih => rw [List.filter_cons, apart _ foreignRow, ← ih]; rfl
  | right foreignRow _ ih => rw [List.filter_cons, apart _ foreignRow, ih]; rfl

/-- Tables that differ only in rows of other posts have the same rows of a post. -/
theorem SameBut.ownRows_eq {post : Option Id} {own : Id} (identifier : post = some own)
    {postId : α → Id} {table other : List α}
    (same : SameBut (fun row => post ≠ some (postId row)) table other) :
    table.filter (fun row => postId row = own) = other.filter fun row => postId row = own := by
  refine same.filter_eq fun row foreign => decide_eq_false fun mine => foreign ?_
  rw [identifier, mine]

def PostRow.identified (id : Id) : PostRow where
  id := some id
  title := ""
  slug := ""
  markdown := none
  mobiledoc := none
  plaintext := none
  image := none
  featureImage := none
  kind := none
  page := .null
  status := none
  metaDescription := none
  customExcerpt := none
  authorId := none
  publishedAt := .null
  createdAt := .null

end Export
end BlogMigration
