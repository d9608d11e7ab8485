import BlogMigration.Render.Error
import BlogMigration.Text.Quoted

/-!
# Registries of renderers

A registry assigns renderers to type names. Its entries are held in increasing order of their
names, so that a name has one renderer, the one registered last.
-/

namespace BlogMigration
namespace Render

def Ordered {ρ : Type} (entries : List (String × ρ)) : Prop :=
  entries.Pairwise fun x y => x.1 < y.1

/-- Puts an entry into its place, replacing the entry of the same name. -/
def insertEntry {ρ : Type} (name : String) (renderer : ρ) :
    List (String × ρ) → List (String × ρ)
  | [] => [(name, renderer)]
  | (key, old) :: rest =>
    if name < key then (name, renderer) :: (key, old) :: rest
    else if name = key then (name, renderer) :: rest
    else (key, old) :: insertEntry name renderer rest

theorem mem_insertEntry
    {ρ : Type}
    {name : String}
    {renderer : ρ}
    {entries : List (String × ρ)}
    {entry : String × ρ}
    (h : entry ∈ insertEntry name renderer entries) :
    entry = (name, renderer) ∨ entry ∈ entries := by
  induction entries with
  | nil => simpa [insertEntry] using h
  | cons first rest ih =>
    obtain ⟨key, old⟩ := first
    simp only [insertEntry] at h
    split at h
    · rcases List.mem_cons.mp h with same | member
      · exact Or.inl same
      · exact Or.inr member
    · split at h
      · rcases List.mem_cons.mp h with same | member
        · exact Or.inl same
        · exact Or.inr (List.mem_cons_of_mem _ member)
      · rcases List.mem_cons.mp h with same | member
        · exact Or.inr (same ▸ List.mem_cons_self)
        · rcases ih member with same | present
          · exact Or.inl same
          · exact Or.inr (List.mem_cons_of_mem _ present)

theorem ordered_insertEntry
    {ρ : Type}
    (name : String)
    (renderer : ρ)
    {entries : List (String × ρ)}
    (h : Ordered entries) :
    Ordered (insertEntry name renderer entries) := by
  induction entries with
  | nil => simp [Ordered, insertEntry]
  | cons first rest ih =>
    obtain ⟨key, old⟩ := first
    have below : ∀ entry ∈ rest, key < entry.1 := (List.pairwise_cons.mp h).1
    have ordered : Ordered rest := (List.pairwise_cons.mp h).2
    simp only [insertEntry]
    split
    · next less =>
      refine List.pairwise_cons.mpr ⟨?_, h⟩
      intro entry member
      rcases List.mem_cons.mp member with rfl | member
      · exact less
      · exact String.lt_trans less (below entry member)
    · split
      · next same =>
        subst same
        exact List.pairwise_cons.mpr ⟨below, ordered⟩
      · next notLess notSame =>
        refine List.pairwise_cons.mpr ⟨?_, ih ordered⟩
        intro entry member
        rcases mem_insertEntry member with rfl | member
        · have less : ¬ name ≤ key := fun le =>
            notSame (String.le_antisymm le (String.not_lt.mp notLess))
          exact String.not_le.mp less
        · exact below entry member

theorem find?_insertEntry
    {ρ : Type}
    (name key : String)
    (renderer : ρ)
    (entries : List (String × ρ)) :
    (insertEntry name renderer entries).find? (fun entry => entry.1 == key) =
      if name = key then some (name, renderer) else entries.find? fun entry => entry.1 == key := by
  induction entries with
  | nil => by_cases h : name = key <;> simp [insertEntry, h]
  | cons first rest ih =>
    obtain ⟨first, old⟩ := first
    simp only [insertEntry]
    split
    · by_cases hit : name = key <;> simp [hit]
    · split
      · next same =>
        subst same
        by_cases hit : name = key <;> simp [hit]
      · next notSame =>
        by_cases hit : first = key
        · have apart : name ≠ key := fun same => notSame (same.trans hit.symm)
          simp [hit, apart]
        · simp [hit, ih]

structure Registry (ρ : Type) where
  entries : List (String × ρ)
  ordered : Ordered entries

abbrev CardRenderer := Json → Except RenderError String

abbrev AtomRenderer := String → Json → Except RenderError String

abbrev CardRegistry := Registry CardRenderer

abbrev AtomRegistry := Registry AtomRenderer

namespace Registry

variable {ρ : Type}

def empty : Registry ρ := ⟨[], List.Pairwise.nil⟩

/-- Registers a renderer, in place of any renderer of the same name. -/
def register (name : String) (renderer : ρ) (registry : Registry ρ) : Registry ρ :=
  ⟨insertEntry name renderer registry.entries, ordered_insertEntry name renderer registry.ordered⟩

def get? (name : String) (registry : Registry ρ) : Option ρ :=
  (registry.entries.find? fun entry => entry.1 == name).map Prod.snd

def has (name : String) (registry : Registry ρ) : Bool :=
  registry.entries.any fun entry => entry.1 == name

def names (registry : Registry ρ) : List String :=
  registry.entries.map Prod.fst

def size (registry : Registry ρ) : Nat :=
  registry.entries.length

def isEmpty (registry : Registry ρ) : Bool :=
  registry.entries.isEmpty

/-- The registry for display, which shows its names only. -/
def describe (registry : Registry ρ) : String :=
  "Registry \x7b names: " ++ Text.quotedList registry.names ++ " \x7d"

def ofList (entries : List (String × ρ)) : Registry ρ :=
  entries.foldl (fun registry (name, renderer) => registry.register name renderer) empty

theorem get?_register
    (name key : String)
    (renderer : ρ)
    (registry : Registry ρ) :
    (registry.register name renderer).get? key =
      if name = key then some renderer else registry.get? key := by
  simp only [get?, register, find?_insertEntry]
  split <;> rfl

@[simp] theorem get?_empty (name : String) : (empty : Registry ρ).get? name = none := rfl

theorem has_eq_isSome_get? (name : String) (registry : Registry ρ) :
    registry.has name = (registry.get? name).isSome := by
  rw [has, get?, Option.isSome_map, ← List.isSome_find?]

end Registry

end Render
end BlogMigration
