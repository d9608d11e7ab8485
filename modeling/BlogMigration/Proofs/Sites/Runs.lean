import BlogMigration.Sites.Site

/-!
# Runs of programs

A program is carried out on a state that answers its requests. A run in two parts is the run of the
second one where the first one ended, unless that one failed. So what every request keeps between
the states before and after it, the whole program keeps, whatever its outcome is.
-/

namespace BlogMigration
namespace Sites

def runOn {σ α : Type} (state : σ) (program : ExceptT Failure (StateM σ) α) :
    Except Failure α × σ :=
  program.run.run state

/-- The states before and after a computation are always related. -/
def Keeps {σ α : Type} (related : σ → σ → Prop) (computation : StateM σ α) : Prop :=
  ∀ state, related state (computation.run state).2

/-- A program that fails only because a request was not granted. -/
def FailsByRequest {σ α : Type} (program : ExceptT Failure (StateM σ) α) : Prop :=
  ∀ {state failure after}, runOn state program = (.error failure, after) → failure = .io

variable {σ α β : Type} {state after : σ}

/-! ## Programs in parts -/

theorem runOn_pure (state : σ) (a : α) :
    runOn state (pure a : ExceptT Failure (StateM σ) α) = (.ok a, state) :=
  rfl

theorem runOn_bind_of_ok {program : ExceptT Failure (StateM σ) α}
    {next : α → ExceptT Failure (StateM σ) β} {a : α}
    (done : runOn state program = (.ok a, after)) :
    runOn state (program >>= next) = runOn after (next a) := by
  rw [runOn] at done
  rw [runOn, ExceptT.run_bind, StateT.run_bind, done]
  rfl

theorem runOn_bind_of_error {program : ExceptT Failure (StateM σ) α}
    {next : α → ExceptT Failure (StateM σ) β} {failure : Failure}
    (failed : runOn state program = (.error failure, after)) :
    runOn state (program >>= next) = (.error failure, after) := by
  rw [runOn] at failed
  rw [runOn, ExceptT.run_bind, StateT.run_bind, failed]
  rfl

/-- A program in two parts succeeds if both parts do. -/
theorem runOn_bind_eq_ok_iff {program : ExceptT Failure (StateM σ) α}
    {next : α → ExceptT Failure (StateM σ) β} {b : β} :
    runOn state (program >>= next) = (.ok b, after) ↔
      ∃ a middle, runOn state program = (.ok a, middle) ∧
        runOn middle (next a) = (.ok b, after) := by
  cases first : runOn state program with
  | mk result middle =>
      cases result with
      | ok a =>
          rw [runOn_bind_of_ok first]
          constructor
          · exact fun second => ⟨a, middle, rfl, second⟩
          · rintro ⟨_, _, same, second⟩
            cases same
            exact second
      | error failure =>
          rw [runOn_bind_of_error first]
          constructor
          · intro impossible
            cases impossible
          · rintro ⟨_, _, impossible, -⟩
            cases impossible

/-- A program in two parts fails in the first or in the second one. -/
theorem runOn_bind_eq_error_iff {program : ExceptT Failure (StateM σ) α}
    {next : α → ExceptT Failure (StateM σ) β} {failure : Failure} :
    runOn state (program >>= next) = (.error failure, after) ↔
      runOn state program = (.error failure, after) ∨
        ∃ a middle, runOn state program = (.ok a, middle) ∧
          runOn middle (next a) = (.error failure, after) := by
  cases ran : runOn state program with
  | mk result middle =>
      cases result with
      | ok a =>
          rw [runOn_bind_of_ok ran]
          constructor
          · exact fun second => .inr ⟨a, middle, rfl, second⟩
          · rintro (impossible | ⟨_, _, same, second⟩)
            · cases impossible
            · cases same
              exact second
      | error problem =>
          rw [runOn_bind_of_error ran]
          constructor
          · intro same
            cases same
            exact .inl rfl
          · rintro (same | ⟨_, _, impossible, -⟩)
            · cases same
              rfl
            · cases impossible

theorem runOn_lift (state : σ) (request : StateM σ α) :
    runOn state (liftM request : ExceptT Failure (StateM σ) α) =
      (.ok (request.run state).1, (request.run state).2) :=
  rfl

theorem runOn_liftExcept (state : σ) (result : Except Failure α) :
    runOn state (liftM result : ExceptT Failure (StateM σ) α) = (result, state) := by
  cases result <;> rfl

/-! ## Required requests -/

/-- A request fails the program that needs it unless it is granted. -/
theorem runOn_require (state : σ) (request : StateM σ Bool) :
    runOn state (require request) =
      (if (request.run state).1 then .ok () else .error .io, (request.run state).2) := by
  have asked := runOn_lift state request
  rw [require, runOn_bind_of_ok asked]
  cases (request.run state).1 <;> rfl

theorem runOn_require_eq_ok_iff {request : StateM σ Bool} :
    runOn state (require request) = (.ok (), after) ↔ request.run state = (true, after) := by
  rw [runOn_require]
  obtain ⟨granted, next⟩ := request.run state
  cases granted <;> constructor <;> intro same <;> cases same <;> rfl

theorem failsByRequest_require (request : StateM σ Bool) : FailsByRequest (require request) := by
  intro state failure after failed
  rw [runOn_require] at failed
  obtain ⟨same, -⟩ := Prod.mk.inj failed
  split at same
  · cases same
  · exact (Except.error.inj same).symm

theorem failsByRequest_forM {items : List α} {request : α → StateM σ Bool} :
    FailsByRequest (items.forM fun item => require (request item)) := by
  induction items with
  | nil => exact nofun
  | cons item rest ih =>
      intro state failure after failed
      rcases runOn_bind_eq_error_iff.mp failed with first | ⟨_, _, -, others⟩
      · exact failsByRequest_require _ first
      · exact ih others

/-! ## Kept relations -/

variable {related : σ → σ → Prop}

theorem Keeps.of_runOn {program : ExceptT Failure (StateM σ) α} {result : Except Failure α}
    (keeps : Keeps related program.run) (ran : runOn state program = (result, after)) :
    related state after := by
  have kept := keeps state
  rw [runOn] at ran
  rwa [ran] at kept

theorem Keeps.pure [Std.Refl related] (a : α) : Keeps related (Pure.pure a : StateM σ α) :=
  fun state => Std.Refl.refl state

theorem Keeps.bind [Trans related related related] {first : StateM σ α} {next : α → StateM σ β}
    (before : Keeps related first) (after : ∀ a, Keeps related (next a)) :
    Keeps related (first >>= next) := by
  intro state
  rw [StateT.run_bind]
  exact Trans.trans (before state) (after _ _)

theorem Keeps.lift {request : StateM σ α} (keeps : Keeps related request) :
    Keeps related (liftM request : ExceptT Failure (StateM σ) α).run :=
  keeps

theorem Keeps.bindExcept [Std.Refl related] {result : Except Failure α}
    {next : α → ExceptT Failure (StateM σ) β}
    (after : ∀ a, result = .ok a → Keeps related (next a).run) :
    Keeps related (liftM result >>= next).run := by
  cases result with
  | ok a => exact after a rfl
  | error failure => exact .pure _

variable [Std.Refl related] [Trans related related related]

theorem Keeps.bindProgram {first : ExceptT Failure (StateM σ) α}
    {next : α → ExceptT Failure (StateM σ) β}
    (before : Keeps related first.run) (after : ∀ a, Keeps related (next a).run) :
    Keeps related (first >>= next).run := by
  rw [ExceptT.run_bind]
  refine before.bind fun result => ?_
  cases result with
  | ok a => exact after a
  | error failure => exact .pure _

theorem Keeps.require {request : StateM σ Bool} (keeps : Keeps related request) :
    Keeps related (Sites.require request).run := by
  refine Keeps.bindProgram keeps.lift fun granted => ?_
  cases granted <;> exact .pure _

theorem Keeps.forM {items : List α} {body : α → ExceptT Failure (StateM σ) PUnit}
    (each : ∀ item ∈ items, Keeps related (body item).run) :
    Keeps related (items.forM body).run := by
  induction items with
  | nil => exact .pure _
  | cons item rest ih =>
      refine Keeps.bindProgram (each item List.mem_cons_self) fun _ => ?_
      exact ih fun other member => each other (List.mem_cons_of_mem item member)

end Sites
end BlogMigration
