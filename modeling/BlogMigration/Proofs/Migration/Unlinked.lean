import BlogMigration.Proofs.Files.Unlinked
import BlogMigration.Proofs.Migration.Outcome

/-!
# Migrations on volumes without links

Two storages that answer every request alike carry out every migration alike. So on a volume without
links a migration does what it does on the disk that the volume shows.
-/

namespace BlogMigration

open Files (Disk Entry Kind Storage Volume below)
open Posts (Post)
open Sites (runOn)

namespace Sites

/-- From related states two computations give one result, and lead to related states. -/
def Simulates {σ τ α : Type} (related : σ → τ → Prop) (first : StateM σ α) (second : StateM τ α) :
    Prop :=
  ∀ state other, related state other →
    (first.run state).1 = (second.run other).1 ∧
      related (first.run state).2 (second.run other).2

/-- Related states answer every request alike. -/
structure AnswersAlike {σ τ : Type} [Storage (StateM σ)] [Storage (StateM τ)]
    (related : σ → τ → Prop) : Prop where
  look? : ∀ path, Simulates related (Storage.look? path : StateM σ (Option Kind))
    (Storage.look? path : StateM τ (Option Kind))
  read? : ∀ path, Simulates related (Storage.read? path : StateM σ (Option Entry))
    (Storage.read? path : StateM τ (Option Entry))
  makeFolder : ∀ path, Simulates related (Storage.makeFolder path : StateM σ Bool)
    (Storage.makeFolder path : StateM τ Bool)
  write : ∀ path bytes, Simulates related (Storage.write path bytes : StateM σ Bool)
    (Storage.write path bytes : StateM τ Bool)

variable {σ τ α β : Type} {related : σ → τ → Prop}

/-! ## Computations in parts -/

theorem Simulates.pure (a : α) :
    Simulates related (Pure.pure a : StateM σ α) (Pure.pure a : StateM τ α) :=
  fun _ _ alike => ⟨rfl, alike⟩

theorem Simulates.bind {first : StateM σ α} {second : StateM τ α} {next : α → StateM σ β}
    {further : α → StateM τ β} (before : Simulates related first second)
    (after : ∀ a, Simulates related (next a) (further a)) :
    Simulates related (first >>= next) (second >>= further) := by
  intro state other alike
  have halves := before state other alike
  rw [StateT.run_bind, StateT.run_bind]
  cases ran : first.run state with
  | mk a middle =>
      cases itsRan : second.run other with
      | mk its elsewhere =>
          rw [ran, itsRan] at halves
          obtain ⟨rfl, alike⟩ := halves
          exact after a middle elsewhere alike

theorem Simulates.bindProgram {first : ExceptT Failure (StateM σ) α}
    {second : ExceptT Failure (StateM τ) α} {next : α → ExceptT Failure (StateM σ) β}
    {further : α → ExceptT Failure (StateM τ) β} (before : Simulates related first.run second.run)
    (after : ∀ a, Simulates related (next a).run (further a).run) :
    Simulates related (first >>= next).run (second >>= further).run := by
  rw [ExceptT.run_bind, ExceptT.run_bind]
  refine before.bind fun result => ?_
  cases result with
  | ok a => exact after a
  | error failure => exact .pure _

theorem Simulates.lift {first : StateM σ α} {second : StateM τ α}
    (alike : Simulates related first second) :
    Simulates related (liftM first : ExceptT Failure (StateM σ) α).run
      (liftM second : ExceptT Failure (StateM τ) α).run := by
  intro state other start
  obtain ⟨same, rest⟩ := alike state other start
  exact ⟨congrArg Except.ok same, rest⟩

theorem Simulates.liftExcept (result : Except Failure α) :
    Simulates related (liftM result : ExceptT Failure (StateM σ) α).run
      (liftM result : ExceptT Failure (StateM τ) α).run := by
  cases result with
  | ok a => exact .pure _
  | error failure => exact .pure _

theorem Simulates.require {first : StateM σ Bool} {second : StateM τ Bool}
    (alike : Simulates related first second) :
    Simulates related (Sites.require first).run (Sites.require second).run := by
  refine Simulates.bindProgram alike.lift fun granted => ?_
  cases granted <;> exact .pure _

theorem Simulates.forM {items : List α} {body : α → ExceptT Failure (StateM σ) PUnit}
    {others : α → ExceptT Failure (StateM τ) PUnit}
    (each : ∀ item, Simulates related (body item).run (others item).run) :
    Simulates related (items.forM body).run (items.forM others).run := by
  induction items with
  | nil => exact .pure _
  | cons item rest ih => exact Simulates.bindProgram (each item) fun _ => ih

/-! ## Programs for sites -/

variable [Storage (StateM σ)] [Storage (StateM τ)]

theorem AnswersAlike.create (alike : AnswersAlike related) (root : String) (force : Bool) :
    Simulates related (Sites.create root force : ExceptT Failure (StateM σ) Unit).run
      (Sites.create root force : ExceptT Failure (StateM τ) Unit).run := by
  refine Simulates.bindProgram (alike.look? root).lift fun found => ?_
  refine Simulates.bindProgram (.liftExcept _) fun _ => ?_
  exact .forM fun folder => (alike.makeFolder _).require

theorem AnswersAlike.installTemplates (alike : AnswersAlike related) (root : String)
    (files : List (String × String)) :
    Simulates related (Sites.installTemplates root files : ExceptT Failure (StateM σ) Unit).run
      (Sites.installTemplates root files : ExceptT Failure (StateM τ) Unit).run :=
  .forM fun _ => (alike.write _ _).require

theorem AnswersAlike.writeFile (alike : AnswersAlike related) (root : String)
    (folder : List String) (name text : String) :
    Simulates related (Sites.write root folder name text : ExceptT Failure (StateM σ) Unit).run
      (Sites.write root folder name text : ExceptT Failure (StateM τ) Unit).run :=
  Simulates.bindProgram (alike.makeFolder _).require fun _ => (alike.write _ _).require

end Sites

namespace Migration

open Sites (AnswersAlike Simulates)

variable {σ τ : Type} {related : σ → τ → Prop} [Storage (StateM σ)] [Storage (StateM τ)]

theorem load_alike (alike : AnswersAlike related) (path : String) :
    Simulates related (load path : ExceptT Failure (StateM σ) Export).run
      (load path : ExceptT Failure (StateM τ) Export).run :=
  Simulates.bindProgram (alike.read? path).lift fun _ => .liftExcept _

theorem succeeds_alike (alike : AnswersAlike related) (job : Job) (post : Post) :
    Simulates related (succeeds job post : StateM σ Bool) (succeeds job post : StateM τ Bool) := by
  have written : Simulates related (writePost job post : ExceptT Failure (StateM σ) Unit).run
      (writePost job post : ExceptT Failure (StateM τ) Unit).run :=
    Simulates.bindProgram (.liftExcept _) fun _ => alike.writeFile _ _ _ _
  refine written.bind fun result => ?_
  cases result <;> exact .pure _

theorem writePosts_alike (alike : AnswersAlike related) (job : Job) (posts : List Post) :
    Simulates related (writePosts job posts : StateM σ Nat)
      (writePosts job posts : StateM τ Nat) := by
  induction posts with
  | nil => exact .pure _
  | cons post rest ih =>
      exact (succeeds_alike alike job post).bind fun _ => ih.bind fun _ => .pure _

/-- Storages that answer every request alike carry out every migration alike. -/
theorem runInOrder_alike (alike : AnswersAlike related) (arrange : List Post → List Post)
    (job : Job) (machine : Time.Zone) :
    Simulates related (runInOrder arrange job machine : ExceptT Failure (StateM σ) Nat).run
      (runInOrder arrange job machine : ExceptT Failure (StateM τ) Nat).run := by
  refine Simulates.bindProgram (load_alike alike job.source) fun source => ?_
  refine Simulates.bindProgram (alike.create _ _) fun _ => ?_
  refine Simulates.bindProgram (alike.installTemplates _ _) fun _ => ?_
  refine Simulates.bindProgram (Simulates.lift (writePosts_alike alike job _)) fun failed => ?_
  split <;> exact .pure _

/-! ## Volumes and disks -/

theorem answersAlike_shows : AnswersAlike Volume.Shows where
  look? path _ _ shows := ⟨(shows.look? path).symm, shows⟩
  read? path _ _ shows := ⟨(shows.read? path).symm, shows⟩
  makeFolder path _ _ shows := ⟨(shows.makeFolder path).1.symm, (shows.makeFolder path).2⟩
  write path bytes _ _ shows :=
    ⟨(shows.write path bytes).1.symm, (shows.write path bytes).2⟩

/-- On a volume that shows a disk a migration ends as it does on the disk, and leaves a volume that
shows what it leaves there. -/
theorem runInOrder_shows {volume : Volume} {disk : Disk} (shows : volume.Shows disk)
    (arrange : List Post → List Post) (job : Job) (machine : Time.Zone) :
    (runOn volume (runInOrder arrange job machine)).1 =
        (runOn disk (runInOrder arrange job machine)).1 ∧
      (runOn volume (runInOrder arrange job machine)).2.Shows
        (runOn disk (runInOrder arrange job machine)).2 :=
  runInOrder_alike answersAlike_shows arrange job machine volume disk shows

end Migration
end BlogMigration
