import BlogMigration.Render.Registry
import Mathlib.Data.List.Forall2
import Mathlib.Data.Option.Defs

/-!
# Registries built step by step

A name that a registry has already keeps its place when it is registered anew, so that overriding
renderers does not change the names. Two registries that are built by the same steps, from renderers
that are related name by name, are related under every name.
-/

namespace BlogMigration
namespace Render

variable {ρ σ : Type} {name : String}

theorem map_fst_insertEntry {entries : List (String × ρ)} (ordered : Ordered entries)
    (known : name ∈ entries.map Prod.fst) (renderer : ρ) :
    (insertEntry name renderer entries).map Prod.fst = entries.map Prod.fst := by
  induction entries with
  | nil => cases known
  | cons first rest ih =>
      obtain ⟨key, old⟩ := first
      obtain ⟨below, orderedRest⟩ := List.pairwise_cons.mp ordered
      -- A known name is not before the first one, so that it stands here or in the rest.
      have notLess : ¬ name < key := by
        intro less
        rcases List.mem_cons.mp known with same | later
        · rw [same] at less
          exact String.lt_irrefl key less
        · obtain ⟨entry, member, same⟩ := List.mem_map.mp later
          have more := below entry member
          rw [same] at more
          exact String.lt_irrefl name (String.lt_trans less more)
      rw [insertEntry, if_neg notLess]
      split
      · next same => rw [List.map_cons, List.map_cons, same]
      · next apart =>
        have later := (List.mem_cons.mp known).resolve_left apart
        rw [List.map_cons, List.map_cons, ih orderedRest later]

/-- Registering a known name anew keeps all names. -/
theorem Registry.names_register {registry : Registry ρ} (known : name ∈ registry.names)
    (renderer : ρ) : (registry.register name renderer).names = registry.names :=
  map_fst_insertEntry registry.ordered known renderer

/-! ## Related registries -/

/-- Under every name, both registries have related renderers or none. -/
def Registry.Related (relation : String → ρ → σ → Prop) (left : Registry ρ) (right : Registry σ) :
    Prop :=
  ∀ name, Option.Rel (relation name) (left.get? name) (right.get? name)

variable {relation : String → ρ → σ → Prop} {left : Registry ρ} {right : Registry σ}

theorem Registry.related_empty : Registry.Related relation empty empty := fun _ => .none

theorem Registry.Related.register (related : Registry.Related relation left right) {renderer : ρ}
    {other : σ} (same : relation name renderer other) :
    Registry.Related relation (left.register name renderer) (right.register name other) := by
  intro key
  rw [get?_register, get?_register]
  split
  · next hit =>
    subst hit
    exact .some same
  · exact related key

/-- Registries made of lists of related entries are related. -/
theorem Registry.related_ofList {entries : List (String × ρ)} {others : List (String × σ)}
    (same : List.Forall₂ (fun entry other => entry.1 = other.1 ∧ relation entry.1 entry.2 other.2)
      entries others) : Registry.Related relation (ofList entries) (ofList others) := by
  have registering (left : Registry ρ) (right : Registry σ)
      (related : Registry.Related relation left right) :
      Registry.Related relation
        (entries.foldl (fun registry entry => registry.register entry.1 entry.2) left)
        (others.foldl (fun registry entry => registry.register entry.1 entry.2) right) := by
    induction same generalizing left right with
    | nil => exact related
    | @cons entry other _ _ alike _ ih =>
        obtain ⟨key, renderer⟩ := entry
        obtain ⟨_, counterpart⟩ := other
        obtain ⟨rfl, paired⟩ := alike
        exact ih _ _ (related.register paired)
  exact registering empty empty related_empty

end Render
end BlogMigration
