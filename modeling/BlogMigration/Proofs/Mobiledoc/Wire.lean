import BlogMigration.Proofs.Json.Members
import BlogMigration.Proofs.Mobiledoc.Layout

/-!
# Writing documents

The JSON value that writes a document in the layout, and what reading it gives back. The reader
gives the same document exactly when the tags are in lower case already, for tags are lower-cased
as they are read, and all indexes and counts fit 64 bits. It does not matter in which order the
members of the top level are written.
-/

namespace BlogMigration
namespace Mobiledoc

/-! ## The writer -/

def naturalWire (n : Nat) : Json := .integer n

/-- A markup is written as `[tag, [name, value, ...]]`. -/
def Markup.wire (markup : Markup) : Json :=
  .array [.string markup.tag,
    .array (markup.attributes.flatMap fun pair => [.string pair.1, .string pair.2])]

/-- An atom is written as `[name, value, payload]`. -/
def Atom.wire (atom : Atom) : Json :=
  .array [.string atom.name, .string atom.value, atom.payload]

/-- A card is written as `[name, payload]`. -/
def Card.wire (card : Card) : Json :=
  .array [.string card.name, card.payload]

/-- A marker is written as `[0, opened, closed, text]` or `[1, opened, closed, atom]`. -/
def Marker.wire (marker : Marker) : Json :=
  let opened := Json.array (marker.opened.map naturalWire)
  let closed := naturalWire marker.closed
  match marker.content with
  | .text value => .array [naturalWire textMarker, opened, closed, .string value]
  | .atom index => .array [naturalWire atomMarker, opened, closed, naturalWire index]

/-- A run of markers is written as the array of its markers. -/
def runWire (markers : List Marker) : Json :=
  .array (markers.map Marker.wire)

/-- A section is written as `[1, tag, markers]`, `[2, src]`, `[3, tag, items]` or `[10, card]`. -/
def Section.wire : Section → Json
  | .markup tag markers => .array [naturalWire markupSection, .string tag, runWire markers]
  | .image src => .array [naturalWire imageSection, .string src]
  | .list tag items => .array [naturalWire listSection, .string tag, .array (items.map runWire)]
  | .card index => .array [naturalWire cardSection, naturalWire index]

namespace Document

/-- The members of the top level. A document without a version has no member for it. -/
def members (document : Document) : Json.Fields :=
  (document.version.map fun version => ("version", Json.string version)).toList ++
  [("markups", .array (document.markups.map Markup.wire)),
    ("atoms", .array (document.atoms.map Atom.wire)),
    ("cards", .array (document.cards.map Card.wire)),
    ("sections", .array (document.sections.map Section.wire))]

def wire (document : Document) : Json :=
  .object document.members

end Document

/-! ## What survives -/

/-- A tag that lower-casing leaves as it is. -/
def LowerCase (tag : String) : Prop :=
  Text.lowercase tag = tag

/-- An index or a count of 64 bits. -/
def Fits (n : Nat) : Prop :=
  n < 0x10000000000000000

structure Marker.Fits (marker : Marker) : Prop where
  opened : ∀ index ∈ marker.opened, Mobiledoc.Fits index
  closed : Mobiledoc.Fits marker.closed
  atom : ∀ index, marker.content = .atom index → Mobiledoc.Fits index

def Section.Fits : Section → Prop
  | .markup _ markers => ∀ marker ∈ markers, marker.Fits
  | .image _ => True
  | .list _ items => ∀ markers ∈ items, ∀ marker ∈ markers, marker.Fits
  | .card index => Mobiledoc.Fits index

/-- The tag of a section, if it has one, is in lower case. -/
def Section.LowerCase : Section → Prop
  | .markup tag _ => Mobiledoc.LowerCase tag
  | .image _ => True
  | .list tag _ => Mobiledoc.LowerCase tag
  | .card _ => True

namespace Document

def Fits (document : Document) : Prop :=
  ∀ content ∈ document.sections, content.Fits

structure LowerCase (document : Document) : Prop where
  markups : ∀ markup ∈ document.markups, Mobiledoc.LowerCase markup.tag
  sections : ∀ content ∈ document.sections, content.LowerCase

end Document

/-! ## Reading single entries back -/

section Lists

variable {α β : Type} {read? : β → Option α} {read : β → α} {write : α → β}

/-- A lenient reader gives a written list back if it gives each of its values back. -/
theorem filterMap_map_eq_self_iff (values : List α) :
    (values.map write).filterMap read? = values ↔
      ∀ value ∈ values, read? (write value) = some value := by
  rw [List.filterMap_map]
  have whole := List.filterMap_eq_map_iff_forall_eq_some (f := read? ∘ write) (g := id) (l := values)
  rwa [List.map_id] at whole

theorem map_map_eq_self_iff (values : List α) :
    (values.map write).map read = values ↔ ∀ value ∈ values, read (write value) = value := by
  rw [List.map_map]
  have whole := List.map_eq_map_iff (f := read ∘ write) (g := id) (l := values)
  rwa [List.map_id] at whole

end Lists

theorem natural?_naturalWire_iff (n : Nat) :
    (naturalWire n).natural? = some n ↔ Fits n := by
  rw [natural?_eq_some_iff]
  constructor
  · intro natural
    cases natural with
    | intro fits => exact fits
  · exact .intro

/-- A count that does not fit is read as nothing. -/
theorem natural?_naturalWire_of_not_fits {n : Nat} (beyond : ¬ Fits n) :
    (naturalWire n).natural? = none :=
  if_neg beyond

theorem getD_natural?_naturalWire_iff (n : Nat) :
    (naturalWire n).natural?.getD 0 = n ↔ Fits n := by
  by_cases fits : Fits n
  · rw [(natural?_naturalWire_iff n).mpr fits]
    exact iff_of_true rfl fits
  · rw [natural?_naturalWire_of_not_fits fits]
    refine iff_of_false ?_ fits
    rintro rfl
    exact fits (by decide : 0 < 0x10000000000000000)

theorem attributePairs_flatMap (attributes : List (String × String)) :
    attributePairs (attributes.flatMap fun pair => [.string pair.1, .string pair.2]) =
      attributes := by
  induction attributes with
  | nil => rfl
  | cons pair rest ih =>
      rw [List.flatMap_cons, List.cons_append, List.cons_append, List.nil_append, attributePairs, ih]

/-- The attributes of a markup always survive. -/
theorem Markup.decode_wire_iff (markup : Markup) :
    Markup.decode markup.wire = markup ↔ LowerCase markup.tag := by
  have decoded : Markup.decode markup.wire = ⟨Text.lowercase markup.tag, markup.attributes⟩ :=
    congrArg (Markup.mk _) (attributePairs_flatMap markup.attributes)
  obtain ⟨tag, attributes⟩ := markup
  rw [decoded, Markup.mk.injEq, LowerCase]
  exact and_iff_left rfl

theorem Atom.decode_wire (atom : Atom) : Atom.decode atom.wire = atom := rfl

theorem Card.decode_wire (card : Card) : Card.decode card.wire = card := rfl

/-- A marker with the content is read back if its opened markups and its count are. -/
theorem Marker.mk_eq_self_iff (content : Content) (opened : List Nat) (closed : Nat) :
    (⟨content, (opened.map naturalWire).filterMap Json.natural?,
        (naturalWire closed).natural?.getD 0⟩ : Marker) = ⟨content, opened, closed⟩ ↔
      (∀ index ∈ opened, Mobiledoc.Fits index) ∧ Mobiledoc.Fits closed := by
  rw [Marker.mk.injEq, filterMap_map_eq_self_iff, getD_natural?_naturalWire_iff]
  simp only [natural?_naturalWire_iff, true_and]

theorem Marker.decode?_wire_iff (marker : Marker) :
    Marker.decode? marker.wire = some marker ↔ marker.Fits := by
  obtain ⟨content, opened, closed⟩ := marker
  cases content with
  | text value =>
      have decoded : Marker.decode? (Marker.wire ⟨.text value, opened, closed⟩) =
          some ⟨.text value, (opened.map naturalWire).filterMap Json.natural?,
            (naturalWire closed).natural?.getD 0⟩ :=
        rfl
      rw [decoded, Option.some.injEq, Marker.mk_eq_self_iff]
      constructor
      · rintro ⟨opens, closes⟩
        exact ⟨opens, closes, fun index same => by cases same⟩
      · intro fits
        exact ⟨fits.opened, fits.closed⟩
  | atom index =>
      have decoded : Marker.decode? (Marker.wire ⟨.atom index, opened, closed⟩) =
          ((naturalWire index).natural?.map Content.atom).bind fun content =>
            some ⟨content, (opened.map naturalWire).filterMap Json.natural?,
              (naturalWire closed).natural?.getD 0⟩ :=
        rfl
      rw [decoded]
      by_cases fits : Mobiledoc.Fits index
      · rw [(natural?_naturalWire_iff index).mpr fits, Option.map_some, Option.bind_some,
          Option.some.injEq, Marker.mk_eq_self_iff]
        constructor
        · rintro ⟨opens, closes⟩
          refine ⟨opens, closes, fun other same => ?_⟩
          cases same
          exact fits
        · intro fits
          exact ⟨fits.opened, fits.closed⟩
      · rw [natural?_naturalWire_of_not_fits fits]
        refine iff_of_false (by simp) fun all => fits (all.atom index rfl)

theorem decodeMarkers_map_wire_iff (markers : List Marker) :
    decodeMarkers (markers.map Marker.wire) = markers ↔ ∀ marker ∈ markers, marker.Fits := by
  rw [decodeMarkers, filterMap_map_eq_self_iff]
  simp only [Marker.decode?_wire_iff]

theorem Section.decode?_wire_iff (content : Section) :
    Section.decode? content.wire = some content ↔ content.LowerCase ∧ content.Fits := by
  cases content with
  | markup tag markers =>
      have decoded : Section.decode? (Section.wire (.markup tag markers)) =
          some (.markup (Text.lowercase tag) (decodeMarkers (markers.map Marker.wire))) :=
        rfl
      rw [decoded, Option.some.injEq, Section.markup.injEq, decodeMarkers_map_wire_iff]
      exact Iff.rfl
  | image src => exact iff_of_true rfl ⟨trivial, trivial⟩
  | list tag items =>
      have decoded : Section.decode? (Section.wire (.list tag items)) =
          some (.list (Text.lowercase tag)
            ((items.map runWire).map fun item => decodeMarkers (item.array?.getD []))) :=
        rfl
      have run (markers : List Marker) :
          decodeMarkers ((runWire markers).array?.getD []) = markers ↔
            ∀ marker ∈ markers, marker.Fits :=
        decodeMarkers_map_wire_iff markers
      rw [decoded, Option.some.injEq, Section.list.injEq, map_map_eq_self_iff]
      simp only [run]
      exact Iff.rfl
  | card index =>
      have decoded : Section.decode? (Section.wire (.card index)) =
          (naturalWire index).natural?.bind fun index => some (.card index) :=
        rfl
      rw [decoded]
      by_cases fits : Mobiledoc.Fits index
      · rw [(natural?_naturalWire_iff index).mpr fits]
        exact iff_of_true rfl ⟨trivial, fits⟩
      · rw [natural?_naturalWire_of_not_fits fits]
        exact iff_of_false (by simp) fun all => fits all.2

/-! ## Reading documents back -/

namespace Document

def outline (document : Document) : Outline where
  version := document.version
  markups := document.markups.map Markup.wire
  atoms := document.atoms.map Atom.wire
  cards := document.cards.map Card.wire
  sections := some (document.sections.map Section.wire)

theorem ofJson?_wire (document : Document) :
    (Json.Record.ofJson? Outline.fieldNames document.wire).bind Outline.ofRecord? =
      some document.outline := by
  obtain ⟨version, markups, atoms, cards, sections⟩ := document
  cases version <;>
    simp [Json.Record.ofJson?, wire, members, Outline.fieldNames, Json.Fields.get?,
      Outline.ofRecord?, Json.Record.nullable?, Json.Record.orElse?, Json.string?, Json.array?,
      outline]

/-- The names of the members are names of fields, and no two of them are equal. -/
theorem members_names (document : Document) :
    (document.members.map Prod.fst).Nodup ∧
      ∀ entry ∈ document.members, entry.1 ∈ Outline.fieldNames := by
  obtain ⟨version, markups, atoms, cards, sections⟩ := document
  cases version <;> simp [members, Outline.fieldNames]

theorem toDocument_outline_iff (document : Document) :
    document.outline.toDocument = .ok document ↔ document.LowerCase ∧ document.Fits := by
  obtain ⟨version, markups, atoms, cards, sections⟩ := document
  have atomsBack : (atoms.map Atom.wire).map Atom.decode = atoms :=
    (map_map_eq_self_iff atoms).mpr fun atom _ => Atom.decode_wire atom
  have cardsBack : (cards.map Card.wire).map Card.decode = cards :=
    (map_map_eq_self_iff cards).mpr fun card _ => Card.decode_wire card
  simp only [Outline.toDocument, outline, atomsBack, cardsBack, Except.ok.injEq, Document.mk.injEq,
    map_map_eq_self_iff, filterMap_map_eq_self_iff, Markup.decode_wire_iff,
    Section.decode?_wire_iff, true_and]
  constructor
  · rintro ⟨inTables, inBody⟩
    exact ⟨⟨inTables, fun content member => (inBody content member).1⟩,
      fun content member => (inBody content member).2⟩
  · rintro ⟨lower, fits⟩
    exact ⟨lower.markups, fun content member => ⟨lower.sections content member, fits content member⟩⟩

/--
The value that writes a document is read as the same document exactly when all tags are in lower
case and all indexes and counts fit 64 bits, whatever else the document holds. So is every text
whose top level has the members of that value, in any order.

Not every value has a text: arrays and objects in a text nest to `Json.depthLimit`, the top level,
a table and its entry being three of them, and its integers have 64 bits. A document with a payload
beyond that is a matter of the first half alone.
-/
theorem ofJson_wire_iff (document : Document) :
    (Document.ofJson document.wire = .ok document ↔ document.LowerCase ∧ document.Fits) ∧
      ∀ (source : String) (members : Json.Fields), Json.members? source = some members →
        members.Perm document.members →
          (Document.parse source = .ok document ↔ document.LowerCase ∧ document.Fits) := by
  have outlined := document.ofJson?_wire
  constructor
  · rw [Document.ofJson, outlined]
    exact document.toDocument_outline_iff
  · intro source members found same
    have record : Json.Record.parse? Outline.fieldNames source =
        Json.Record.ofJson? Outline.fieldNames document.wire :=
      Json.Record.parse?_eq_ofJson? found same document.members_names.1 document.members_names.2
    have parsed : Outline.parse? source = some document.outline := by
      rw [Outline.parse?, record, outlined]
    rw [parse_of_outline parsed]
    exact document.toDocument_outline_iff

/-- A document with references that lead nowhere. -/
def specimen : Document where
  version := none
  markups := [⟨"a", [("É", "")]⟩]
  atoms := []
  cards := []
  sections := [.markup "p" [⟨.atom 0, [9, 0], 18446744073709551615⟩], .card 7]

/-- A text that writes it, with the sections first. -/
def specimenText : String :=
  "\x7b\"sections\":[[1,\"p\",[[1,[9,0],18446744073709551615,0]]],[10,7]]," ++
    "\"markups\":[[\"a\",[\"É\",\"\"]]],\"atoms\":[],\"cards\":[]\x7d"

def specimenMembers : Json.Fields :=
  [("sections", .array (specimen.sections.map Section.wire)),
    ("markups", .array (specimen.markups.map Markup.wire)), ("atoms", .array []),
    ("cards", .array [])]

set_option maxRecDepth 2000 in
theorem ofJson_wire_specimen :
    Document.ofJson specimen.wire = .ok specimen ∧
      Document.parse specimenText = .ok specimen := by
  have lower : specimen.LowerCase := by
    have tags : Mobiledoc.LowerCase "a" ∧ Mobiledoc.LowerCase "p" := by
      unfold Mobiledoc.LowerCase
      decide +kernel
    constructor
    · simp [specimen, tags]
    · simp [specimen, Section.LowerCase, tags]
  have fits : specimen.Fits := by
    have marker : Marker.Fits ⟨.atom 0, [9, 0], 18446744073709551615⟩ := by
      constructor <;> simp [Mobiledoc.Fits]
    simp [Document.Fits, specimen, Section.Fits, marker, Mobiledoc.Fits]
  have written : Json.members? specimenText = some specimenMembers := rfl
  have same : specimenMembers.Perm specimen.members :=
    @List.perm_append_comm _ [_] [_, _, _]
  exact ⟨specimen.ofJson_wire_iff.1.mpr ⟨lower, fits⟩,
    (specimen.ofJson_wire_iff.2 specimenText _ written same).mpr ⟨lower, fits⟩⟩

end Document

end Mobiledoc
end BlogMigration
