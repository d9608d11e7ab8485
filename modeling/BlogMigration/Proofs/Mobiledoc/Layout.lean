import BlogMigration.Mobiledoc.Decode
import Mathlib.Data.List.Forall2

/-!
# The layout of documents

Which JSON values are indexes, markers and sections, and of what. The reader of documents accepts
exactly these values, and of a list of entries it keeps those that have the layout, in order.
-/

namespace BlogMigration
namespace Mobiledoc

/-- What a lenient reader takes from a list of entries: the values of those that it can read, in
the order of the entries. -/
inductive Picks {β : Type} (reads : Json → β → Prop) : List Json → List β → Prop where
  | nil : Picks reads [] []
  | keep {entry : Json} {value : β} {entries : List Json} {values : List β}
      (read : reads entry value) (rest : Picks reads entries values) :
      Picks reads (entry :: entries) (value :: values)
  | skip {entry : Json} {entries : List Json} {values : List β}
      (unread : ∀ value, ¬ reads entry value) (rest : Picks reads entries values) :
      Picks reads (entry :: entries) values

/-- What is read from an item that should be an array: nothing if it is none. -/
inductive FromArray {β : Type} (reads : List Json → List β → Prop) :
    Option Json → List β → Prop where
  | array {entries : List Json} {values : List β} (read : reads entries values) :
      FromArray reads (some (.array entries)) values
  | other {item : Option Json} (noArray : ∀ entries, item ≠ some (.array entries)) :
      FromArray reads item []

/-- An index or a count is an integer of 64 bits without sign. -/
inductive IsNatural : Json → Nat → Prop where
  | intro {n : Nat} (fits : n < 0x10000000000000000) : IsNatural (.integer n) n

/-- A count that is nothing when it is absent or of the wrong shape. -/
inductive IsCount : Option Json → Nat → Prop where
  | given {entry : Json} {n : Nat} (natural : IsNatural entry n) : IsCount (some entry) n
  | other {item : Option Json} (unread : ∀ entry n, item = some entry → ¬ IsNatural entry n) :
      IsCount item 0

/-- A marker is `[0, opened, closed, text]` or `[1, opened, closed, atom]`. -/
inductive Marker.Reads : Json → Marker → Prop where
  | text {items : List Json} {value : String} {opened : List Nat} {closed : Nat}
      (kind : items[0]? = some (.integer 0))
      (opens : FromArray (Picks IsNatural) items[1]? opened)
      (closes : IsCount items[2]? closed)
      (content : items[3]? = some (.string value)) :
      Marker.Reads (.array items) ⟨.text value, opened, closed⟩
  | atom {items : List Json} {entry : Json} {index : Nat} {opened : List Nat} {closed : Nat}
      (kind : items[0]? = some (.integer 1))
      (opens : FromArray (Picks IsNatural) items[1]? opened)
      (closes : IsCount items[2]? closed)
      (content : items[3]? = some entry)
      (natural : IsNatural entry index) :
      Marker.Reads (.array items) ⟨.atom index, opened, closed⟩

/-- A run of markers is what can be read of its entries. -/
abbrev RunReads (item : Option Json) (markers : List Marker) : Prop :=
  FromArray (Picks Marker.Reads) item markers

/-- A list has one run for each of its items, whatever the item is. -/
abbrev ListReads (item : Option Json) (runs : List (List Marker)) : Prop :=
  FromArray (List.Forall₂ fun entry => RunReads (some entry)) item runs

/-- A section is `[1, tag, markers]`, `[2, src]`, `[3, tag, items]` or `[10, card]`. -/
inductive Section.Reads : Json → Section → Prop where
  | markup {items : List Json} {tag : String} {markers : List Marker}
      (kind : items[0]? = some (.integer 1))
      (tagged : items[1]? = some (.string tag))
      (run : RunReads items[2]? markers) :
      Section.Reads (.array items) (.markup (Text.lowercase tag) markers)
  | image {items : List Json} {src : String}
      (kind : items[0]? = some (.integer 2))
      (source : items[1]? = some (.string src)) :
      Section.Reads (.array items) (.image src)
  | list {items : List Json} {tag : String} {runs : List (List Marker)}
      (kind : items[0]? = some (.integer 3))
      (tagged : items[1]? = some (.string tag))
      (each : ListReads items[2]? runs) :
      Section.Reads (.array items) (.list (Text.lowercase tag) runs)
  | card {items : List Json} {entry : Json} {index : Nat}
      (kind : items[0]? = some (.integer 10))
      (content : items[1]? = some entry)
      (natural : IsNatural entry index) :
      Section.Reads (.array items) (.card index)

/-- An entry that is no marker. -/
def Marker.Stray (entry : Json) : Prop :=
  ∀ marker, ¬ Marker.Reads entry marker

/-- An entry that is no section. -/
def Section.Stray (entry : Json) : Prop :=
  ∀ content, ¬ Section.Reads entry content

/-! ## Lenient readers of lists -/

section Lenient

variable {β : Type} {reads : Json → β → Prop} {read? : Json → Option β}

theorem picks_filterMap (agree : ∀ entry value, read? entry = some value ↔ reads entry value)
    (entries : List Json) : Picks reads entries (entries.filterMap read?) := by
  induction entries with
  | nil => exact .nil
  | cons entry rest ih =>
      cases found : read? entry with
      | none =>
          rw [List.filterMap_cons_none found]
          refine .skip ?_ ih
          intro value read
          have present := (agree entry value).mpr read
          rw [found] at present
          cases present
      | some value =>
          rw [List.filterMap_cons_some found]
          exact .keep ((agree entry value).mp found) ih

theorem eq_none_of_unread
    (agree : ∀ entry value, read? entry = some value ↔ reads entry value)
    {entry : Json} (unread : ∀ value, ¬ reads entry value) : read? entry = none := by
  rw [Option.eq_none_iff_forall_ne_some]
  intro value found
  exact unread value ((agree entry value).mp found)

/-- The values picked from entries are those that the reader finds. -/
theorem picks_iff (agree : ∀ entry value, read? entry = some value ↔ reads entry value)
    (entries : List Json) (values : List β) :
    Picks reads entries values ↔ values = entries.filterMap read? := by
  constructor
  · intro picks
    induction picks with
    | nil => rfl
    | @keep entry value entries values read rest ih =>
        rw [List.filterMap_cons_some ((agree entry value).mpr read), ← ih]
    | @skip entry entries values unread rest ih =>
        rw [List.filterMap_cons_none (eq_none_of_unread agree unread), ← ih]
  · rintro rfl
    exact picks_filterMap agree entries

end Lenient

theorem array_or_other (item : Option Json) :
    (∃ entries, item = some (.array entries)) ∨
      (∀ entries, item ≠ some (.array entries)) ∧ item.bind Json.array? = none := by
  cases item with
  | none => exact .inr ⟨by simp, rfl⟩
  | some entry =>
      cases entry with
      | array entries => exact .inl ⟨entries, rfl⟩
      | _ => exact .inr ⟨by simp, rfl⟩

/-- A reader of arrays reads any other item like the empty array. -/
theorem fromArray_iff {β : Type} {reads : List Json → List β → Prop}
    {read : List Json → List β}
    (agree : ∀ entries values, reads entries values ↔ values = read entries)
    (empty : read [] = []) (item : Option Json) (values : List β) :
    FromArray reads item values ↔ values = read ((item.bind Json.array?).getD []) := by
  rcases array_or_other item with ⟨entries, rfl⟩ | ⟨noArray, absent⟩
  · constructor
    · intro given
      cases given with
      | array given => exact (agree entries values).mp given
      | other noArray => exact absurd rfl (noArray entries)
    · intro same
      exact .array ((agree entries values).mpr same)
  · rw [absent, Option.getD_none, empty]
    constructor
    · intro given
      cases given with
      | array given => exact absurd rfl (noArray _)
      | other => rfl
    · rintro rfl
      exact .other noArray

/-! ## The readers agree with the layout -/

theorem natural?_eq_some_iff (entry : Json) (n : Nat) :
    entry.natural? = some n ↔ IsNatural entry n := by
  constructor
  · intro found
    unfold Json.natural? at found
    split at found
    · next m =>
        split at found
        · next fits =>
            cases found
            exact .intro fits
        · cases found
    · cases found
  · intro natural
    cases natural with
    | intro fits => exact if_pos fits

theorem isNatural_iff_of_lt {n : Nat} (fits : n < 0x10000000000000000) (entry : Json) :
    IsNatural entry n ↔ entry = .integer n := by
  constructor
  · intro natural
    cases natural with
    | intro _ => rfl
  · rintro rfl
    exact .intro fits

theorem string?_eq_some_iff (entry : Json) (value : String) :
    entry.string? = some value ↔ entry = .string value := by
  cases entry <;> simp [Json.string?]

theorem stringItem?_eq_some_iff (items : List Json) (index : Nat) (value : String) :
    stringItem? index (.array items) = some value ↔ items[index]? = some (.string value) := by
  simp [stringItem?, Json.item?, Option.bind_eq_some_iff, string?_eq_some_iff]

theorem naturalItem?_eq_some_iff (items : List Json) (index n : Nat) :
    naturalItem? index (.array items) = some n ↔
      ∃ entry, items[index]? = some entry ∧ IsNatural entry n := by
  simp only [naturalItem?, Json.item?, Option.bind_eq_some_iff, natural?_eq_some_iff]

/-- The type of a marker or a section is an integer of its own. -/
theorem kind_eq_some_iff {kind : Nat} (fits : kind < 0x10000000000000000) (items : List Json) :
    naturalItem? 0 (.array items) = some kind ↔ items[0]? = some (.integer kind) := by
  rw [naturalItem?_eq_some_iff]
  simp only [isNatural_iff_of_lt fits, exists_eq_right]

theorem isCount_iff (item : Option Json) (n : Nat) :
    IsCount item n ↔ n = (item.bind Json.natural?).getD 0 := by
  constructor
  · intro count
    cases count with
    | @given entry _ natural =>
        have found := (natural?_eq_some_iff entry n).mpr natural
        rw [Option.bind_some, found, Option.getD_some]
    | other unread =>
        have absent : item.bind Json.natural? = none := by
          rw [Option.eq_none_iff_forall_ne_some]
          intro m found
          obtain ⟨entry, same, natural⟩ := Option.bind_eq_some_iff.mp found
          exact unread entry m same ((natural?_eq_some_iff entry m).mp natural)
        rw [absent, Option.getD_none]
  · rintro rfl
    cases found : item.bind Json.natural? with
    | none =>
        refine .other ?_
        rintro entry m rfl natural
        rw [Option.bind_some, (natural?_eq_some_iff entry m).mpr natural] at found
        cases found
    | some m =>
        obtain ⟨entry, same, natural⟩ := Option.bind_eq_some_iff.mp found
        rw [same]
        exact .given ((natural?_eq_some_iff entry m).mp natural)

/-- Of the opened markups only the indexes count. -/
theorem opened_iff (item : Option Json) (opened : List Nat) :
    FromArray (Picks IsNatural) item opened ↔
      opened = ((item.bind Json.array?).getD []).filterMap Json.natural? :=
  fromArray_iff (picks_iff natural?_eq_some_iff) rfl item opened

/-- A text marker holds a string, an atom marker an index. -/
theorem Content.decode?_eq_some_iff (items : List Json) (content : Content) :
    Content.decode? (.array items) = some content ↔
      (∃ value, items[0]? = some (.integer 0) ∧ items[3]? = some (.string value) ∧
        content = .text value) ∨
      ∃ entry index, items[0]? = some (.integer 1) ∧ items[3]? = some entry ∧
        IsNatural entry index ∧ content = .atom index := by
  constructor
  · intro found
    obtain ⟨kind, first, found⟩ := Option.bind_eq_some_iff.mp found
    split at found
    · next isText =>
        subst isText
        obtain ⟨value, last, rfl⟩ := Option.map_eq_some_iff.mp found
        exact .inl ⟨value, (kind_eq_some_iff (by decide) _).mp first,
          (stringItem?_eq_some_iff _ _ _).mp last, rfl⟩
    · split at found
      · next isAtom =>
          subst isAtom
          obtain ⟨index, last, rfl⟩ := Option.map_eq_some_iff.mp found
          obtain ⟨entry, place, natural⟩ := (naturalItem?_eq_some_iff _ _ _).mp last
          exact .inr ⟨entry, index, (kind_eq_some_iff (by decide) _).mp first,
            place, natural, rfl⟩
      · cases found
  · rintro (⟨value, first, last, rfl⟩ | ⟨entry, index, first, last, natural, rfl⟩)
    · have kind := (kind_eq_some_iff (by decide : textMarker < _) _).mpr first
      have text := (stringItem?_eq_some_iff _ _ _).mpr last
      simp [Content.decode?, kind, text]
    · have kind := (kind_eq_some_iff (by decide : atomMarker < _) _).mpr first
      have atom := (naturalItem?_eq_some_iff _ _ _).mpr ⟨entry, last, natural⟩
      simp [Content.decode?, kind, atom, atomMarker, textMarker]

/-- The reader of markers reads exactly what has the layout of a marker. -/
theorem Marker.decode?_eq_some_iff (entry : Json) (marker : Marker) :
    Marker.decode? entry = some marker ↔ Marker.Reads entry marker := by
  constructor
  · intro found
    obtain ⟨content, shown, found⟩ := Option.bind_eq_some_iff.mp found
    cases found
    cases entry with
    | array items =>
        have opens := (opened_iff items[1]? _).mpr rfl
        have closes := (isCount_iff items[2]? _).mpr rfl
        rcases (Content.decode?_eq_some_iff items content).mp shown with
          ⟨value, kind, place, rfl⟩ | ⟨entry, index, kind, place, natural, rfl⟩
        · exact .text kind opens closes place
        · exact .atom kind opens closes place natural
    | _ => cases shown
  · intro read
    cases read with
    | @text items value opened closed kind opens closes content =>
        have shown := (Content.decode?_eq_some_iff items (.text value)).mpr
          (.inl ⟨value, kind, content, rfl⟩)
        have first := (opened_iff items[1]? opened).mp opens
        have second := (isCount_iff items[2]? closed).mp closes
        rw [Marker.decode?, shown, first, second]
        rfl
    | @atom items entry index opened closed kind opens closes content natural =>
        have shown := (Content.decode?_eq_some_iff items (.atom index)).mpr
          (.inr ⟨entry, index, kind, content, natural, rfl⟩)
        have first := (opened_iff items[1]? opened).mp opens
        have second := (isCount_iff items[2]? closed).mp closes
        rw [Marker.decode?, shown, first, second]
        rfl

/-- The markers of a run are picked from its entries. -/
theorem runReads_iff (item : Option Json) (markers : List Marker) :
    RunReads item markers ↔ markers = decodeMarkers ((item.bind Json.array?).getD []) :=
  fromArray_iff (picks_iff Marker.decode?_eq_some_iff) rfl item markers

/-- The items of a list have one run of markers each. -/
theorem listReads_iff (item : Option Json) (runs : List (List Marker)) :
    ListReads item runs ↔
      runs = ((item.bind Json.array?).getD []).map
        fun entry => decodeMarkers (entry.array?.getD []) := by
  refine fromArray_iff ?_ rfl item runs
  intro entries runs
  rw [eq_comm, ← List.forall₂_eq_eq_eq, List.forall₂_map_left_iff]
  have same (entry : Json) (markers : List Marker) :
      RunReads (some entry) markers ↔ decodeMarkers (entry.array?.getD []) = markers := by
    rw [runReads_iff, Option.bind_some, eq_comm]
  exact ⟨fun given => given.imp fun _ _ => (same _ _).mp,
    fun given => given.imp fun _ _ => (same _ _).mpr⟩

/-- Whatever is read as a section has the layout of one. -/
theorem Section.reads_of_decode? {items : List Json} {content : Section}
    (found : Section.decode? (.array items) = some content) :
    Section.Reads (.array items) content := by
  obtain ⟨kind, first, found⟩ := Option.bind_eq_some_iff.mp found
  split at found
  · next isMarkup =>
      subst isMarkup
      obtain ⟨tag, second, found⟩ := Option.bind_eq_some_iff.mp found
      cases found
      exact .markup ((kind_eq_some_iff (by decide) _).mp first)
        ((stringItem?_eq_some_iff _ _ _).mp second) ((runReads_iff _ _).mpr rfl)
  split at found
  · next isImage =>
      subst isImage
      obtain ⟨src, second, found⟩ := Option.bind_eq_some_iff.mp found
      cases found
      exact .image ((kind_eq_some_iff (by decide) _).mp first)
        ((stringItem?_eq_some_iff _ _ _).mp second)
  split at found
  · next isList =>
      subst isList
      obtain ⟨tag, second, found⟩ := Option.bind_eq_some_iff.mp found
      cases found
      exact .list ((kind_eq_some_iff (by decide) _).mp first)
        ((stringItem?_eq_some_iff _ _ _).mp second) ((listReads_iff _ _).mpr rfl)
  split at found
  · next isCard =>
      subst isCard
      obtain ⟨index, second, found⟩ := Option.bind_eq_some_iff.mp found
      cases found
      obtain ⟨entry, place, natural⟩ := (naturalItem?_eq_some_iff _ _ _).mp second
      exact .card ((kind_eq_some_iff (by decide) _).mp first) place natural
  · cases found

/-- The reader of sections reads exactly what has the layout of a section. -/
theorem Section.decode?_eq_some_iff (entry : Json) (content : Section) :
    Section.decode? entry = some content ↔ Section.Reads entry content := by
  constructor
  · intro found
    cases entry with
    | array items => exact Section.reads_of_decode? found
    | _ => cases found
  · intro read
    cases read with
    | markup kind tagged run =>
        have first := (kind_eq_some_iff (by decide : markupSection < _) _).mpr kind
        have second := (stringItem?_eq_some_iff _ _ _).mpr tagged
        rw [(runReads_iff _ _).mp run]
        simp only [Section.decode?, first, second]
        rfl
    | image kind source =>
        have first := (kind_eq_some_iff (by decide : imageSection < _) _).mpr kind
        have second := (stringItem?_eq_some_iff _ _ _).mpr source
        simp only [Section.decode?, first, second]
        rfl
    | list kind tagged each =>
        have first := (kind_eq_some_iff (by decide : listSection < _) _).mpr kind
        have second := (stringItem?_eq_some_iff _ _ _).mpr tagged
        rw [(listReads_iff _ _).mp each]
        simp only [Section.decode?, first, second]
        rfl
    | card kind content natural =>
        have first := (kind_eq_some_iff (by decide : cardSection < _) _).mpr kind
        have second := (naturalItem?_eq_some_iff _ _ _).mpr ⟨_, content, natural⟩
        simp only [Section.decode?, first, second]
        rfl

/-! ## The top level -/

namespace Outline

/-- The top level of a document given as JSON text. -/
def parse? (source : String) : Option Outline :=
  (Json.Record.parse? fieldNames source).bind ofRecord?

end Outline

theorem mem_of_skipSpace {source : String} {c : Char} {rest : List Char}
    (found : Json.Parser.skipSpace source.toList = c :: rest) : c ∈ source.toList := by
  have first : c ∈ Json.Parser.skipSpace source.toList := by
    rw [found]
    exact List.mem_cons_self
  exact List.dropWhile_subset _ first

/-- A blank text holds no record. -/
theorem record_of_allBlank {source : String} (blank : Text.allBlank source = true)
    (names : List String) : Json.Record.parse? names source = none := by
  have isBlank {c : Char} (member : c ∈ source.toList) : Text.isBlank c = true :=
    List.all_eq_true.mp blank c member
  unfold Json.Record.parse?
  split
  · next found => exact absurd (isBlank (mem_of_skipSpace found)) (by decide)
  · next found => exact absurd (isBlank (mem_of_skipSpace found)) (by decide)
  · rfl

/-- A text with a top level is read as the document of it. -/
theorem parse_of_outline {source : String} {outline : Outline}
    (found : Outline.parse? source = some outline) :
    Document.parse source = outline.toDocument := by
  have notBlank : ¬ Text.allBlank source = true := by
    intro blank
    rw [Outline.parse?, record_of_allBlank blank] at found
    cases found
  rw [Outline.parse?] at found
  rw [Document.parse, if_neg notBlank, found]

end Mobiledoc
end BlogMigration
