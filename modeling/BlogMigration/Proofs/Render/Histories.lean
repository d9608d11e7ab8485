import BlogMigration.Cards.Catalog
import BlogMigration.Proofs.Text.ByteOrder

/-!
# Histories of registries

Registries stand in places. A step registers a renderer in a place, or puts a clone of a registry
into a place. The history of a registry is what was registered in it, and before that what was
registered in the registry it was cloned from. A registry is determined by its own history, in which
the last renderer of a name counts, so that steps in other places do not matter.
-/

namespace BlogMigration
namespace Render

variable {κ ρ : Type}

namespace Registry

/-- A step on registries of one kind. -/
inductive Step (κ ρ : Type) where
  | register (place : κ) (name : String) (renderer : ρ)
  | clone (source target : κ)

def registerAll (entries : List (String × ρ)) (registry : Registry ρ) : Registry ρ :=
  entries.foldl (fun registry entry => registry.register entry.1 entry.2) registry

section

variable [DecidableEq κ]

def Step.apply (registries : κ → Registry ρ) : Step κ ρ → κ → Registry ρ
  | .register changed name renderer, place =>
    if changed = place then (registries place).register name renderer else registries place
  | .clone source target, place =>
    if target = place then registries source else registries place

def run (registries : κ → Registry ρ) (steps : List (Step κ ρ)) : κ → Registry ρ :=
  steps.foldl Step.apply registries

/-- What was registered along the way that led to the registry in a place, the latest last. The
steps are followed back, from the latest one. -/
def wayBack (starts : κ → Registry ρ) : List (Step κ ρ) → κ → List (String × ρ)
  | [], place => (starts place).entries
  | .register changed name renderer :: past, place =>
    if changed = place then wayBack starts past place ++ [(name, renderer)]
    else wayBack starts past place
  | .clone source target :: past, place =>
    if target = place then wayBack starts past source else wayBack starts past place

/-- The history of the registry in a place: what was registered in it, the latest last. What a
registry holds at the start counts as registered before. -/
def history (starts : κ → Registry ρ) (steps : List (Step κ ρ)) (place : κ) : List (String × ρ) :=
  wayBack starts steps.reverse place

/-- What a step registers in a place. -/
def Step.entriesIn (place : κ) : Step κ ρ → List (String × ρ)
  | .register changed name renderer => if changed = place then [(name, renderer)] else []
  | .clone _ _ => []

end

/-- A step leaves the registry of a place to itself, apart from what it registers in it. -/
def Step.Keeps (place : κ) : Step κ ρ → Prop
  | .register _ _ _ => True
  | .clone _ target => target ≠ place

/-- The last renderer that a list of registrations has under a name. -/
inductive IsLatest (name : String) (renderer : ρ) : List (String × ρ) → Prop where
  | here {after : List (String × ρ)} (last : name ∉ after.map Prod.fst) :
      IsLatest name renderer ((name, renderer) :: after)
  | later {entry : String × ρ} {after : List (String × ρ)} (latest : IsLatest name renderer after) :
      IsLatest name renderer (entry :: after)

/-- A registry tells a history: it has the last renderer of each name, and it shows these names in
the order of their bytes. -/
structure Tells (registry : Registry ρ) (log : List (String × ρ)) : Prop where
  latest : ∀ name renderer, registry.get? name = some renderer ↔ IsLatest name renderer log
  absent : ∀ name, registry.get? name = none ↔ name ∉ log.map Prod.fst
  increasing : registry.names.Pairwise fun first second => Text.bytes first < Text.bytes second
  has_iff : ∀ name, registry.has name = true ↔ name ∈ registry.names
  get_iff : ∀ name, (registry.get? name).isSome = true ↔ name ∈ registry.names
  size_eq : registry.size = registry.names.length
  isEmpty_iff : registry.isEmpty = true ↔ registry.names = []

/-! ## Registering in turn -/

theorem ext_entries {left right : Registry ρ} (same : left.entries = right.entries) :
    left = right := by
  cases left
  cases right
  cases same
  rfl

theorem insertEntry_of_last {name : String} {entries : List (String × ρ)}
    (last : ∀ entry ∈ entries, entry.1 < name) (renderer : ρ) :
    insertEntry name renderer entries = entries ++ [(name, renderer)] := by
  induction entries with
  | nil => rfl
  | cons first rest ih =>
      obtain ⟨key, old⟩ := first
      obtain ⟨less, later⟩ := List.forall_mem_cons.mp last
      have notLess : ¬ name < key := String.lt_asymm less
      have apart : name ≠ key := by
        rintro rfl
        exact String.lt_irrefl name less
      rw [insertEntry, if_neg notLess, if_neg apart, ih later, List.cons_append]

theorem entries_registerAll {entries : List (String × ρ)} {registry : Registry ρ}
    (ordered : Ordered (registry.entries ++ entries)) :
    (registerAll entries registry).entries = registry.entries ++ entries := by
  induction entries generalizing registry with
  | nil => exact (List.append_nil _).symm
  | cons first rest ih =>
      -- The first entry comes behind those that are there, and the rest goes on from the longer
      -- registry.
      have last : ∀ entry ∈ registry.entries, entry.1 < first.1 := by
        intro entry member
        exact (List.pairwise_append.mp ordered).2.2 entry member first List.mem_cons_self
      have registered : (registry.register first.1 first.2).entries = registry.entries ++ [first] :=
        insertEntry_of_last last first.2
      have joined : (registry.register first.1 first.2).entries ++ rest =
          registry.entries ++ first :: rest := by
        rw [registered, List.append_assoc, List.singleton_append]
      rw [← joined] at ordered ⊢
      exact ih ordered

/-- A registry is made of its own entries. -/
theorem ofList_entries (registry : Registry ρ) : ofList registry.entries = registry :=
  ext_entries (entries_registerAll registry.ordered)

theorem ofList_eq_registerAll (log : List (String × ρ)) : ofList log = registerAll log empty := rfl

theorem ofList_concat (log : List (String × ρ)) (name : String) (renderer : ρ) :
    ofList (log ++ [(name, renderer)]) = (ofList log).register name renderer := by
  rw [ofList, List.foldl_append]
  rfl

theorem isLatest_cons_iff {name key : String} {renderer other : ρ} {rest : List (String × ρ)} :
    IsLatest name renderer ((key, other) :: rest) ↔
      IsLatest name renderer rest ∨ name ∉ rest.map Prod.fst ∧ key = name ∧ other = renderer := by
  constructor
  · intro latest
    cases latest with
    | here last => exact Or.inr ⟨last, rfl, rfl⟩
    | later latest => exact Or.inl latest
  · rintro (latest | ⟨last, rfl, rfl⟩)
    · exact .later latest
    · exact .here last

theorem registerAll_cons (key : String) (renderer : ρ) (rest : List (String × ρ))
    (registry : Registry ρ) :
    registerAll ((key, renderer) :: rest) registry =
      registerAll rest (registry.register key renderer) := rfl

/-- A registry has the last renderer that was registered under a name, or else the one it had
before. -/
theorem get?_registerAll_eq_some_iff {entries : List (String × ρ)} {registry : Registry ρ}
    {name : String} {renderer : ρ} :
    (registerAll entries registry).get? name = some renderer ↔
      IsLatest name renderer entries ∨
        name ∉ entries.map Prod.fst ∧ registry.get? name = some renderer := by
  induction entries generalizing registry with
  | nil =>
      constructor
      · exact fun found => Or.inr ⟨List.not_mem_nil, found⟩
      · rintro (latest | ⟨-, found⟩)
        · cases latest
        · exact found
  | cons first rest ih =>
      obtain ⟨key, other⟩ := first
      rw [registerAll_cons, ih, get?_register, isLatest_cons_iff, or_assoc, List.map_cons,
        List.mem_cons, not_or]
      by_cases hit : key = name
      · simp [hit]
      · simp [hit, Ne.symm hit]

theorem get?_registerAll_eq_none_iff {entries : List (String × ρ)} {registry : Registry ρ}
    {name : String} :
    (registerAll entries registry).get? name = none ↔
      name ∉ entries.map Prod.fst ∧ registry.get? name = none := by
  induction entries generalizing registry with
  | nil => exact (and_iff_right List.not_mem_nil).symm
  | cons first rest ih =>
      obtain ⟨key, other⟩ := first
      rw [registerAll_cons, ih, get?_register, List.map_cons, List.mem_cons, not_or]
      by_cases hit : key = name
      · simp [hit]
      · simp [hit, Ne.symm hit]

theorem has_iff {registry : Registry ρ} {name : String} :
    registry.has name = true ↔ name ∈ registry.names := by
  rw [has, names, List.any_eq_true, List.mem_map]
  simp only [beq_iff_eq]

/-- A registry tells the registrations that it is made of. -/
theorem tells_ofList (log : List (String × ρ)) : Tells (ofList log) log where
  latest name renderer := by
    rw [ofList_eq_registerAll, get?_registerAll_eq_some_iff, get?_empty, or_iff_left]
    rintro ⟨-, found⟩
    cases found
  absent name := by
    rw [ofList_eq_registerAll, get?_registerAll_eq_none_iff, get?_empty, and_iff_left rfl]
  increasing := by
    rw [names, List.pairwise_map]
    exact (ofList log).ordered.imp Text.bytes_lt_iff.mpr
  has_iff name := has_iff
  get_iff name := by rw [← has_eq_isSome_get?, has_iff]
  size_eq := (List.length_map _).symm
  isEmpty_iff := by rw [isEmpty, names, List.isEmpty_iff, List.map_eq_nil_iff]

/-! ## Runs -/

section

variable [DecidableEq κ]

theorem run_reverse_cons (starts : κ → Registry ρ) (step : Step κ ρ) (past : List (Step κ ρ)) :
    run starts (step :: past).reverse = step.apply (run starts past.reverse) := by
  rw [run, List.reverse_cons, List.foldl_append]
  rfl

/-- Followed back, the way of each registry gives what it is made of. -/
theorem run_reverse_eq (starts : κ → Registry ρ) (past : List (Step κ ρ)) (place : κ) :
    run starts past.reverse place = ofList (wayBack starts past place) := by
  induction past generalizing place with
  | nil => exact (ofList_entries (starts place)).symm
  | cons step past ih =>
      rw [run_reverse_cons]
      -- The latest step tells in which place the way back goes on.
      cases step with
      | register changed name renderer =>
          rw [Step.apply, wayBack]
          split
          · rw [ofList_concat, ih]
          · exact ih place
      | clone source target =>
          rw [Step.apply, wayBack]
          split
          · exact ih source
          · exact ih place

theorem run_eq (starts : κ → Registry ρ) (steps : List (Step κ ρ)) (place : κ) :
    run starts steps place = ofList (history starts steps place) := by
  rw [history, ← run_reverse_eq, List.reverse_reverse]

/-- In a place into which it puts no clone, a step registers its own entries alone. -/
theorem Step.Keeps.apply_eq {place : κ} {step : Step κ ρ} (keeps : step.Keeps place)
    (registries : κ → Registry ρ) :
    step.apply registries place = registerAll (step.entriesIn place) (registries place) := by
  cases step with
  | register changed name renderer =>
      rw [Step.apply, Step.entriesIn]
      split
      · rfl
      · rfl
  | clone source target => exact if_neg keeps

/-- As long as no clone is put into its place, a registry goes on with what is registered there. -/
theorem run_eq_registerAll {place : κ} {steps : List (Step κ ρ)}
    (keeps : ∀ step ∈ steps, step.Keeps place) (registries : κ → Registry ρ) :
    run registries steps place =
      registerAll (steps.flatMap (Step.entriesIn place)) (registries place) := by
  induction steps generalizing registries with
  | nil => rfl
  | cons step rest ih =>
      obtain ⟨here, later⟩ := List.forall_mem_cons.mp keeps
      have first := here.apply_eq registries
      have after := ih later (step.apply registries)
      rw [first] at after
      rw [List.flatMap_cons, registerAll, List.foldl_append]
      exact after

theorem run_append_cons (starts : κ → Registry ρ) (before : List (Step κ ρ)) (step : Step κ ρ)
    (after : List (Step κ ρ)) :
    run starts (before ++ step :: after) = run (step.apply (run starts before)) after :=
  List.foldl_append

/-- Steps on the registries of one kind lead from the starts to the ends: each registry tells its
own history, and a clone and its source go on from the same registry, each with what is registered
in its own place. -/
structure FollowsHistories (starts : κ → Registry ρ) (steps : List (Step κ ρ))
    (ends : κ → Registry ρ) : Prop where
  tells : ∀ place, Tells (ends place) (history starts steps place)
  apart : ∀ before source target after, steps = before ++ .clone source target :: after →
    ∀ place, place = source ∨ place = target → (∀ step ∈ after, step.Keeps place) →
      ends place = registerAll (after.flatMap (Step.entriesIn place)) (run starts before source)

theorem followsHistories_run (starts : κ → Registry ρ) (steps : List (Step κ ρ)) :
    FollowsHistories starts steps (run starts steps) where
  tells place := by
    rw [run_eq]
    exact tells_ofList (history starts steps place)
  apart before source target after parted place either keeps := by
    have cloned : (Step.clone source target).apply (run starts before) place =
        run starts before source := by
      rw [Step.apply]
      split
      · rfl
      · next other =>
        rcases either with rfl | rfl
        · rfl
        · exact absurd rfl other
    rw [parted, run_append_cons, run_eq_registerAll keeps, cloned]

end

end Registry

/-! ## Catalogs -/

open Registry (FollowsHistories registerAll)

/-- A step on the catalogs in places: on their registries of cards, or on those of atoms. -/
inductive CatalogStep (κ : Type) where
  | cards (step : Registry.Step κ CardRenderer)
  | atoms (step : Registry.Step κ AtomRenderer)

def cardsIn (catalogs : κ → Catalog) (place : κ) : CardRegistry :=
  (catalogs place).cards

def atomsIn (catalogs : κ → Catalog) (place : κ) : AtomRegistry :=
  (catalogs place).atoms

namespace CatalogStep

/-- The step on registries of cards, if it is one. -/
def cardStep? : CatalogStep κ → Option (Registry.Step κ CardRenderer)
  | .cards step => some step
  | .atoms _ => none

def atomStep? : CatalogStep κ → Option (Registry.Step κ AtomRenderer)
  | .cards _ => none
  | .atoms step => some step

variable [DecidableEq κ]

def apply (catalogs : κ → Catalog) : CatalogStep κ → κ → Catalog
  | .cards step, place => ⟨step.apply (cardsIn catalogs) place, atomsIn catalogs place⟩
  | .atoms step, place => ⟨cardsIn catalogs place, step.apply (atomsIn catalogs) place⟩

def run (catalogs : κ → Catalog) (steps : List (CatalogStep κ)) : κ → Catalog :=
  steps.foldl apply catalogs

/-- The registries of cards go through the steps on cards alone. -/
theorem cardsIn_run (catalogs : κ → Catalog) (steps : List (CatalogStep κ)) :
    cardsIn (run catalogs steps) = Registry.run (cardsIn catalogs) (steps.filterMap cardStep?) := by
  induction steps generalizing catalogs with
  | nil => rfl
  | cons step rest ih =>
      cases step with
      | cards step => exact ih (apply catalogs (.cards step))
      | atoms step => exact ih (apply catalogs (.atoms step))

/-- The registries of atoms go through the steps on atoms alone. -/
theorem atomsIn_run (catalogs : κ → Catalog) (steps : List (CatalogStep κ)) :
    atomsIn (run catalogs steps) = Registry.run (atomsIn catalogs) (steps.filterMap atomStep?) := by
  induction steps generalizing catalogs with
  | nil => rfl
  | cons step rest ih =>
      cases step with
      | cards step => exact ih (apply catalogs (.cards step))
      | atoms step => exact ih (apply catalogs (.atoms step))

end CatalogStep

/-- Whatever catalogs stand in the places at the start, be they empty or those of the dialects,
after any steps each registry tells its own history alone, clones have gone their own ways, and
steps on cards have not touched atoms nor the reverse. -/
theorem registries_keep_own_histories [DecidableEq κ] (starts : κ → Catalog)
    (steps : List (CatalogStep κ)) :
    FollowsHistories (cardsIn starts) (steps.filterMap CatalogStep.cardStep?)
      (cardsIn (CatalogStep.run starts steps)) ∧
    FollowsHistories (atomsIn starts) (steps.filterMap CatalogStep.atomStep?)
      (atomsIn (CatalogStep.run starts steps)) := by
  rw [CatalogStep.cardsIn_run, CatalogStep.atomsIn_run]
  exact ⟨Registry.followsHistories_run _ _, Registry.followsHistories_run _ _⟩

/-- The catalog of a dialect, and an empty one. -/
def dialectAndEmpty : Bool → Catalog
  | false => Cards.catalog .shortcode Images.identity
  | true => Catalog.empty

/-- The cards of the dialect are cloned into the place of the empty catalog. Then another renderer
is registered in the clone, one in its source, and an atom. -/
def overriding : List (CatalogStep Bool) :=
  [.cards (.clone false true), .cards (.register true "gallery" Cards.markdown),
    .cards (.register false "hr" Cards.html), .atoms (.register true "gallery" Cards.lineBreak)]

/-- The clone and its source come to differ by one renderer each, and the atoms of the source know
nothing of an atom that is registered next to the clone. -/
theorem registries_keep_own_histories_overriding :
    cardsIn (CatalogStep.run dialectAndEmpty overriding) true =
      registerAll [("gallery", Cards.markdown)] (Cards.shortcodeCards Images.identity) ∧
    cardsIn (CatalogStep.run dialectAndEmpty overriding) false =
      registerAll [("hr", Cards.html)] (Cards.shortcodeCards Images.identity) ∧
    (atomsIn (CatalogStep.run dialectAndEmpty overriding) false).get? "gallery" = none := by
  obtain ⟨cards, atoms⟩ := registries_keep_own_histories dialectAndEmpty overriding
  have keeps (place : Bool) : ∀ step ∈ [Registry.Step.register true "gallery" Cards.markdown,
      .register false "hr" Cards.html], step.Keeps place := by
    intro step member
    rcases List.mem_cons.mp member with rfl | member
    · trivial
    · rcases List.mem_singleton.mp member with rfl
      trivial
  refine ⟨?_, ?_, ?_⟩
  · exact cards.apart [] false true _ rfl true (Or.inr rfl) (keeps true)
  · exact cards.apart [] false true _ rfl false (Or.inl rfl) (keeps false)
  · rw [(atoms.tells false).absent]
    decide

end Render
end BlogMigration
