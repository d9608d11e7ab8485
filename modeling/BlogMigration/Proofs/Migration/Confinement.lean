import BlogMigration.Proofs.CommandLine.Target
import BlogMigration.Proofs.Migration.Outcome
import BlogMigration.Proofs.Posts.Containment
import BlogMigration.Proofs.Sites.Confinement

/-!
# Confinement of migrations

A migration that is refused, because of its export or because of what stands at its target, leaves
the volume as it was. One that gets to its posts changes no files but those to which the paths of
its posts and templates lead. These paths start with that of the target, and the files are below it
unless a link or another name of a file, in the target before the migration, leads elsewhere.
-/

namespace BlogMigration

/-- The failures of a migration that is refused for its export or its target. -/
def Failure.isRefusal : Failure → Bool
  | .malformedExport => true
  | .emptyExport => true
  | .notADirectory _ => true
  | .notEmpty _ => true
  | _ => false

namespace Migration

open Files (Entry Kind LeadsDown Volume below joined)
open Files.Volume (ChangesOnly Closed IsBelow)
open Posts (Post)
open Sites (Keeps runOn)

/-- A migration is refused: there is no export that can be read, or the target is a file, or it is a
filled folder that may not be used. -/
inductive Refused (job : Job) (volume : Volume) : Failure → Prop where
  | missingExport (missing : volume.read? job.source = none) : Refused job volume .io
  | invalidExport {entry : Entry} {failure : Failure} (found : volume.read? job.source = some entry)
      (invalid : exportOf (some entry) = .error failure) : Refused job volume failure
  | fileAtTarget {source : Export} (loads : exportOf (volume.read? job.source) = .ok source)
      (found : volume.look? job.target = some .file) :
      Refused job volume (.notADirectory job.target)
  | filledTarget {source : Export} (loads : exportOf (volume.read? job.source) = .ok source)
      (found : volume.look? job.target = some .filledFolder) (gentle : job.force = false) :
      Refused job volume (.notEmpty job.target)

/-- A migration got to its posts, and wrote all or only some of them. -/
inductive Finished : Except Failure Nat → Prop where
  | all (posts : Nat) : Finished (.ok posts)
  | some (failed : Nat) : Finished (.error (.postsFailed failed))

/-- The names, from the target on, of the files that a migration writes: those of its posts, and
those of the templates that its dialect needs. -/
inductive OwnNames (job : Job) (posts : List Post) : List String → Prop where
  | post {post : Post} {names : List String} (listed : post ∈ posts)
      (accepted : post.path = .ok names) : OwnNames job posts names
  | template {name text : String} (dialect : job.dialect = .shortcode)
      (listed : (name, text) ∈ Cards.templates) :
      OwnNames job posts ["layouts", "shortcodes", name]

/-- The paths of the files that a migration writes. -/
def Owns (job : Job) (posts : List Post) (path : String) : Prop :=
  ∃ names, OwnNames job posts names ∧ path = joined job.target ("/".intercalate names)

variable {job : Job} {volume after : Volume} {source : Export} {posts : List Post}
  {arrange : List Post → List Post} {machine : Time.Zone}

/-! ## Refusals -/

theorem accept_eq_error_iff {root : String} {force : Bool} {found : Option Kind}
    {failure : Failure} :
    Sites.accept root force found = .error failure ↔
      (found = some .file ∧ failure = .notADirectory root) ∨
        found = some .filledFolder ∧ force = false ∧ failure = .notEmpty root := by
  rcases found with _ | _ | _ | _ <;> cases force <;> simp [Sites.accept, eq_comm]

/-- A migration is refused for its export or for its target. -/
theorem refused_iff {failure : Failure} :
    Refused job volume failure ↔
      exportOf (volume.read? job.source) = .error failure ∨
        ∃ source, exportOf (volume.read? job.source) = .ok source ∧
          Sites.accept job.target job.force (volume.look? job.target) = .error failure := by
  constructor
  · intro refused
    cases refused with
    | missingExport missing =>
        rw [missing]
        exact .inl rfl
    | invalidExport found invalid =>
        rw [found]
        exact .inl invalid
    | @fileAtTarget source loads found =>
        exact .inr ⟨source, loads, accept_eq_error_iff.mpr (.inl ⟨found, rfl⟩)⟩
    | @filledTarget source loads found gentle =>
        exact .inr ⟨source, loads, accept_eq_error_iff.mpr (.inr ⟨found, gentle, rfl⟩)⟩
  · rintro (invalid | ⟨source, loads, refused⟩)
    · cases found : volume.read? job.source with
      | none =>
          rw [found] at invalid
          cases invalid
          exact .missingExport found
      | some entry =>
          rw [found] at invalid
          exact .invalidExport found invalid
    · rcases accept_eq_error_iff.mp refused with ⟨found, rfl⟩ | ⟨found, gentle, rfl⟩
      · exact .fileAtTarget loads found
      · exact .filledTarget loads found gentle

theorem runOn_load_volume (volume : Volume) (path : String) :
    runOn volume (load path) = (exportOf (volume.read? path), volume) :=
  runOn_load_of_read rfl

/-- Nothing has been done yet when a migration is refused. -/
theorem Refused.runOn_runInOrder {failure : Failure} (refused : Refused job volume failure)
    (arrange : List Post → List Post) (machine : Time.Zone) :
    runOn volume (runInOrder arrange job machine) = (.error failure, volume) := by
  rcases refused_iff.mp refused with invalid | ⟨source, loads, unaccepted⟩
  · refine Sites.runOn_bind_of_error ?_
    rw [runOn_load_volume, invalid]
  · have loaded : runOn volume (load job.source) = (.ok source, volume) := by
      rw [runOn_load_volume, loads]
    rw [runInOrder, Sites.runOn_bind_of_ok loaded]
    exact Sites.runOn_bind_of_error (Sites.runOn_create_of_error unaccepted)

theorem ofJson_eq_error {value : Json} {failure : Failure}
    (invalid : Export.ofJson value = .error failure) :
    failure = .malformedExport ∨ failure = .emptyExport := by
  unfold Export.ofJson at invalid
  simp only [bind, Except.bind] at invalid
  split at invalid
  · split at invalid <;> cases invalid
    exact .inl rfl
  · cases invalid
    exact .inr rfl
  · split at invalid <;> cases invalid
    exact .inl rfl

theorem exportOf_eq_error {found : Option Entry} {failure : Failure}
    (invalid : exportOf found = .error failure) :
    failure = .io ∨ failure = .malformedExport ∨ failure = .emptyExport := by
  rcases found with _ | bytes | _
  · exact .inl (Except.error.inj invalid).symm
  · change Export.parseBytes bytes = .error failure at invalid
    rw [Export.parseBytes] at invalid
    split at invalid
    · next text _ =>
      rw [Export.parse] at invalid
      split at invalid
      · exact .inr (ofJson_eq_error invalid)
      · exact .inr (.inl (Except.error.inj invalid).symm)
    · exact .inr (.inl (Except.error.inj invalid).symm)
  · exact .inr (.inl (Except.error.inj invalid).symm)

/-- A migration fails because it is refused, because a request for its site is not granted, or
because of its posts. -/
theorem cases_of_runInOrder {failure : Failure}
    (failed : runOn volume (runInOrder arrange job machine) = (.error failure, after)) :
    Refused job volume failure ∨ failure = .io ∨ ∃ count, failure = .postsFailed count := by
  rcases Sites.runOn_bind_eq_error_iff.mp failed with unread | ⟨source, _, loaded, failed⟩
  · rw [runOn_load_volume] at unread
    exact .inl (refused_iff.mpr (.inl (Prod.mk.inj unread).1))
  rw [runOn_load_volume] at loaded
  obtain ⟨loads, rfl⟩ := Prod.mk.inj loaded
  rcases Sites.runOn_bind_eq_error_iff.mp failed with unmade | ⟨_, _, -, failed⟩
  · rcases Sites.accept_eq_error_of_create unmade with unaccepted | denied
    · exact .inl (refused_iff.mpr (.inr ⟨source, loads, unaccepted⟩))
    · exact .inr (.inl denied)
  rcases Sites.runOn_bind_eq_error_iff.mp failed with uninstalled | ⟨_, _, -, failed⟩
  · exact .inr (.inl (Sites.failsByRequest_installTemplates _ _ uninstalled))
  rcases Sites.runOn_bind_eq_error_iff.mp failed with lifted | ⟨count, _, -, failed⟩
  · rw [Sites.runOn_lift] at lifted
    cases lifted
  · split at failed
    · cases failed
    · cases failed
      exact .inr (.inr ⟨count, rfl⟩)

/-! ## Own paths -/

theorem reads_template {name text : String} (listed : (name, text) ∈ Cards.templates) :
    (∀ part ∈ ["layouts", "shortcodes", name],
      part ≠ "" ∧ part ≠ "." ∧ part ≠ ".." ∧ '/' ∉ part.toList) ∧
    "/".intercalate ["layouts", "shortcodes", name] = Sites.templateFolder ++ "/" ++ name ∧
    Files.isAbsolute ("/".intercalate ["layouts", "shortcodes", name]) = false ∧
    Files.pathNames ("/".intercalate ["layouts", "shortcodes", name]) =
      ["layouts", "shortcodes", name] := by
  simp only [Cards.templates, List.mem_cons, Prod.mk.injEq, List.not_mem_nil, or_false] at listed
  rcases listed with ⟨rfl, -⟩ | ⟨rfl, -⟩ | ⟨rfl, -⟩ <;> decide

theorem OwnNames.leadsDown {names : List String} (own : OwnNames job posts names) :
    LeadsDown names := by
  cases own with
  | post listed accepted => exact Post.path_leadsDown accepted
  | template dialect listed =>
      obtain ⟨plain, -, relative, reads⟩ := reads_template listed
      exact .of_reads plain relative reads

/-- Own paths lead on from the target. -/
theorem Owns.isBelow (filled : job.target ≠ "") {path : String} (owns : Owns job posts path) :
    IsBelow job.target path := by
  obtain ⟨names, own, rfl⟩ := owns
  have down := own.leadsDown
  refine ⟨"/".intercalate names, Files.joined_of_filled down.relative filled, ?_⟩
  rw [down.reads]
  exact fun name member =>
    ⟨(down.plain name member).1, (down.plain name member).2.1, (down.plain name member).2.2.1⟩

theorem owns_filePath (filled : job.target ≠ "") {post : Post} (listed : post ∈ posts)
    {name : String} (named : post.fileName = .ok name) :
    Owns job posts (filePath job post name) :=
  ⟨post.folder ++ [name], .post listed (Post.path_eq_ok_iff.mpr ⟨name, named, rfl⟩),
    Post.below_below_eq_joined filled post name⟩

theorem owns_template (filled : job.target ≠ "") (dialect : job.dialect = .shortcode)
    {name text : String} (listed : (name, text) ∈ Cards.templates) :
    Owns job posts (below (below job.target Sites.templateFolder) name) := by
  obtain ⟨-, text, relative, -⟩ := reads_template listed
  refine ⟨_, .template dialect listed, ?_⟩
  rw [Files.joined_of_filled relative filled, text]
  have ending : Sites.templateFolder.toList.getLast? = some 's' := by
    decide
  exact Files.below_below ending (by decide) job.target name

/-! ## Runs -/

theorem keeps_writePost (filled : job.target ≠ "") {post : Post} (listed : post ∈ posts) :
    Keeps (ChangesOnly (Owns job posts))
      (writePost job post : ExceptT Failure (StateM Volume) Unit).run := by
  refine Keeps.bindExcept fun name named => ?_
  exact Sites.keeps_writeFile _ (owns_filePath filled listed named)

theorem keeps_succeeds (filled : job.target ≠ "") {post : Post} (listed : post ∈ posts) :
    Keeps (ChangesOnly (Owns job posts)) (succeeds job post : StateM Volume Bool) := by
  refine (keeps_writePost filled listed).bind fun result => ?_
  cases result <;> exact .pure _

/-- Writing posts one after the other changes no files but theirs. -/
theorem keeps_writePosts (filled : job.target ≠ "") {order : List Post}
    (listed : ∀ post ∈ order, post ∈ posts) :
    Keeps (ChangesOnly (Owns job posts)) (writePosts job order : StateM Volume Nat) := by
  induction order with
  | nil => exact .pure _
  | cons post rest ih =>
      have others := ih fun other member => listed other (List.mem_cons_of_mem post member)
      refine (keeps_succeeds filled (listed post List.mem_cons_self)).bind fun written => ?_
      exact others.bind fun failed => .pure _

theorem keeps_installTemplates (filled : job.target ≠ "") :
    Keeps (ChangesOnly (Owns job posts))
      (Sites.installTemplates job.target job.templates :
        ExceptT Failure (StateM Volume) Unit).run := by
  refine Sites.keeps_installTemplates fun file member => ?_
  unfold Job.templates at member
  split at member
  · cases member
  · next dialect => exact owns_template filled dialect member

/-- A migration that gets to its posts has read its export and made its site, and has changed no
files but its own. -/
theorem changesOnly_of_finished (filled : job.target ≠ "")
    (orders : ∀ posts, (arrange posts).Perm posts) {result : Except Failure Nat}
    (ran : runOn volume (runInOrder arrange job machine) = (result, after))
    (finished : Finished result) :
    ∃ source home, exportOf (volume.read? job.source) = .ok source ∧
      after.resolve? job.target = some home ∧ after.isFolder home = true ∧
      ChangesOnly (Owns job (Post.ofExport source (job.reader machine))) volume after := by
  cases loads : exportOf (volume.read? job.source) with
  | error failure =>
      have refused := refused_iff.mpr (.inl loads)
      rw [refused.runOn_runInOrder arrange machine] at ran
      obtain ⟨rfl, -⟩ := Prod.mk.inj ran
      rcases exportOf_eq_error loads with rfl | rfl | rfl <;> cases finished
  | ok source =>
      have loaded : runOn volume (load job.source) = (.ok source, volume) := by
        rw [runOn_load_volume, loads]
      rw [runInOrder, Sites.runOn_bind_of_ok loaded] at ran
      cases created : runOn volume (Sites.create job.target job.force) with
      | mk made bare =>
          cases made with
          | error failure =>
              rw [Sites.runOn_bind_of_error created] at ran
              obtain ⟨rfl, -⟩ := Prod.mk.inj ran
              rcases Sites.accept_eq_error_of_create created with unaccepted | rfl
              · rcases accept_eq_error_iff.mp unaccepted with ⟨-, rfl⟩ | ⟨-, -, rfl⟩ <;>
                  cases finished
              · cases finished
          | ok _ =>
              rw [Sites.runOn_bind_of_ok created] at ran
              obtain ⟨home, resolved, folder⟩ := Sites.exists_home_of_create filled created
              have order := orders (Post.ofExport source (job.reader machine))
              have making :
                  ChangesOnly (Owns job (Post.ofExport source (job.reader machine))) volume bare :=
                (Sites.keeps_create _ _).of_runOn created
              have writing :
                  ChangesOnly (Owns job (Post.ofExport source (job.reader machine)))
                    bare after := by
                refine Keeps.of_runOn (Keeps.bindProgram (keeps_installTemplates filled)
                  fun _ => ?_) ran
                refine Keeps.bindProgram
                  (Keeps.lift (keeps_writePosts filled fun post => order.mem_iff.mp))
                  fun failed => ?_
                split <;> exact .pure _
              exact ⟨source, home, rfl, writing.grows.resolve? resolved,
                writing.grows.isFolder folder, making.trans writing⟩

/-- A refused migration leaves the volume as it was, and a migration that fails as refused ones do
was refused. One that finishes, whether or not all of its posts were written, has made its target a
folder and changed no file but those that its own paths lead to, each of which leads on from the
target. So nothing outside of the target has changed, unless a link that was in the target leads
there, or a file that was in the target stands there too. -/
theorem runInOrder_confined {arguments : List String}
    (asked : CommandLine.read arguments = .ok job)
    (orders : ∀ posts, (arrange posts).Perm posts) (machine : Time.Zone) (volume : Volume) :
    (∀ failure, Refused job volume failure →
      runOn volume (runInOrder arrange job machine) = (.error failure, volume)) ∧
    (∀ failure after, runOn volume (runInOrder arrange job machine) = (.error failure, after) →
      failure.isRefusal = true → Refused job volume failure ∧ after = volume) ∧
    ∀ result after, runOn volume (runInOrder arrange job machine) = (result, after) →
      Finished result →
      ∃ source home, exportOf (volume.read? job.source) = .ok source ∧
        after.resolve? job.target = some home ∧ after.isFolder home = true ∧
        ChangesOnly (Owns job (Post.ofExport source (job.reader machine))) volume after ∧
        (∀ place, after.file? place = volume.file? place ∨ ∃ number,
          after.get? place = some (.file number) ∧
            after.Reaches (Owns job (Post.ofExport source (job.reader machine))) number) ∧
        (∀ path, Owns job (Post.ofExport source (job.reader machine)) path →
          IsBelow job.target path) ∧
        (volume.Closed home → ∀ place, ¬ home <+: place →
          after.file? place = volume.file? place) := by
  have filled := CommandLine.target_ne_empty asked
  refine ⟨fun failure refused => refused.runOn_runInOrder arrange machine, ?_, ?_⟩
  · intro failure after failed refusal
    have refused : Refused job volume failure := by
      rcases cases_of_runInOrder failed with refused | rfl | ⟨count, rfl⟩
      · exact refused
      · cases refusal
      · cases refusal
    rw [refused.runOn_runInOrder arrange machine] at failed
    exact ⟨refused, (Prod.mk.inj failed).2.symm⟩
  · intro result after ran finished
    obtain ⟨source, home, loads, resolved, folder, changes⟩ :=
      changesOnly_of_finished filled orders ran finished
    have inside : ∀ path, Owns job (Post.ofExport source (job.reader machine)) path →
        IsBelow job.target path := fun path owns => owns.isBelow filled
    exact ⟨source, home, loads, resolved, folder, changes, changes.file?_eq_or, inside,
      fun closed place => changes.file?_eq_of_closed filled inside resolved closed⟩

/-- A job that uses a filled folder, by force or not. -/
def filledJob (force : Bool) : Job :=
  { pairJob with force := force, dialect := .shortcode }

/-- A volume with an export of two posts, and with two folders. In the first of them the place of
the content is taken, perhaps by a link to the second one. -/
def filledVolume (slug : String) (linked : Bool) : Volume where
  nodes := [(["e"], .file 0), (["s"], .folder),
    (["s", "content"], if linked then .link "../kept" else .folder),
    (["kept"], .folder), (["kept", "notes"], .file 1)]
  files := [(pairText slug "a").toUTF8, "kept".toUTF8]
  workingFolder := []
  numbered place number member := by
    cases linked <;> simp at member ⊢ <;> omega

theorem closed_filledVolume (slug : String) : (filledVolume slug false).Closed ["s"] where
  link _ found := by
    have member := Volume.mem_nodes_of_get? found nofun
    simp [filledVolume] at member
  file inside found _ := by
    have member := Volume.mem_nodes_of_get? found nofun
    simp only [filledVolume, List.mem_cons, Prod.mk.injEq, List.not_mem_nil] at member
    rcases member with ⟨rfl, -⟩ | ⟨-, impossible⟩ | ⟨-, impossible⟩ | ⟨-, impossible⟩ | ⟨rfl, -⟩ |
      impossible
    · exact absurd inside (by decide)
    · cases impossible
    · cases impossible
    · cases impossible
    · exact absurd inside (by decide)
    · cases impossible

/-- Without force the filled folder is refused. By force it gets the post that has a slug, and what
is outside stays. -/
theorem runInOrder_confined_filled :
    runOn (filledVolume "" false) (runInOrder List.reverse (filledJob false)) =
      (.error (.notEmpty "s"), filledVolume "" false) ∧
    ∃ after, runOn (filledVolume "" false) (runInOrder List.reverse (filledJob true)) =
        (.error (.postsFailed 1), after) ∧
      after.file? ["kept", "notes"] = some "kept".toUTF8 := by
  have gentle : CommandLine.read ["e", "--hugo", "s", "--location=utc", "--dialect=shortcode"] =
      .ok (filledJob false) := by
    decide +kernel
  have forced : CommandLine.read
      ["e", "--hugo", "s", "-f", "--location=utc", "--dialect=shortcode"] =
        .ok (filledJob true) := by
    decide +kernel
  have loads : (exportOf ((filledVolume "" false).read? "e")).isOk = true := by
    decide +kernel
  constructor
  · obtain ⟨refuses, -⟩ := runInOrder_confined gentle List.reverse_perm .utc
      (filledVolume "" false)
    exact refuses _ (.filledTarget (eq_ok_of_isOk loads ⟨⟨none, none⟩, .empty⟩)
      (by decide +kernel) rfl)
  · obtain ⟨-, -, keeps⟩ := runInOrder_confined forced List.reverse_perm .utc
      (filledVolume "" false)
    have failed : (runOn (filledVolume "" false) (runInOrder List.reverse (filledJob true))).1 =
        .error (.postsFailed 1) := by
      decide +kernel
    have ran := eq_of_fst failed
    obtain ⟨source, home, -, resolved, -, -, -, -, shut⟩ := keeps _ _ ran (.some 1)
    have there : (runOn (filledVolume "" false)
        (runInOrder List.reverse (filledJob true))).2.resolve? (filledJob true).target =
          some ["s"] := by
      decide +kernel
    cases resolved.symm.trans there
    exact ⟨_, ran, shut (closed_filledVolume "") _ (by decide)⟩

/-- A job whose target is a file, though its path cannot be followed before a folder is made. -/
def strayJob : Job :=
  { pairJob with target := "new/../kept/notes" }

/-- By force a migration follows a link in its target, so that it makes a file outside. A target
that turns out to be a file has it fail when a folder has been made on the way. -/
theorem runInOrder_not_confined :
    (∃ after, runOn (filledVolume "b" true) (runInOrder id (filledJob true)) = (.ok 2, after) ∧
      after.resolve? (filledJob true).target = some ["s"] ∧
      (filledVolume "b" true).file? ["kept", "post", "a.md"] = none ∧
      (after.file? ["kept", "post", "a.md"]).isSome = true) ∧
    ∃ after, runOn (filledVolume "b" false) (runInOrder id strayJob) = (.error .io, after) ∧
      after.look? strayJob.target = some .file ∧
      (filledVolume "b" false).get? ["new"] = none ∧ after.get? ["new"] = some .folder := by
  constructor
  · exact ⟨_, eq_of_fst (by decide +kernel), by decide +kernel, by decide +kernel,
      by decide +kernel⟩
  · exact ⟨_, eq_of_fst (by decide +kernel), by decide +kernel, by decide +kernel,
      by decide +kernel⟩

end Migration
end BlogMigration
