import BlogMigration.CommandLine.Reading

/-!
# Targets of command lines

The folder of a site has a name. An empty one is refused where the value is recorded, and nothing
else that is read from a command line sets the target, so that no job has an empty target.
-/

namespace BlogMigration
namespace CommandLine

/-- The target is not given by the empty path. -/
def Given.Targets (given : Given) : Prop :=
  given.target ≠ some ""

variable {given next : Given} {progress after : Progress}

theorem bind_eq_ok_iff {α β : Type} {first : Except Stop α} {rest : α → Except Stop β} {b : β} :
    (first >>= rest) = .ok b ↔ ∃ a, first = .ok a ∧ rest a = .ok b := by
  cases first with
  | ok a => exact ⟨fun done => ⟨a, rfl, done⟩, by rintro ⟨_, ⟨⟩, done⟩; exact done⟩
  | error stop => exact ⟨nofun, by rintro ⟨_, ⟨⟩, -⟩⟩

/-! ## Steps -/

theorem ne_empty_of_pathValue {value path : String} (read : Given.pathValue value = .ok path) :
    path ≠ "" := by
  rw [Given.pathValue] at read
  split at read
  · cases read
  · next filled =>
    cases read
    simpa using filled

theorem targets_record {key : Key} {value : String} (targets : given.Targets)
    (recorded : given.record key value = .ok next) : next.Targets := by
  cases key with
  | target =>
      obtain ⟨path, read, made⟩ := bind_eq_ok_iff.mp recorded
      cases made
      exact fun same => ne_empty_of_pathValue read (Option.some.inj same)
  | source | location | format | dialect =>
      obtain ⟨_, -, made⟩ := bind_eq_ok_iff.mp recorded
      cases made
      exact targets
  | timeForm | address =>
      cases recorded
      exact targets

theorem targets_put {key : Key} {value : Option String} (targets : given.Targets)
    (made : given.put key value = .ok next) : next.Targets := by
  cases value with
  | none => cases made
  | some value =>
      rw [Given.put] at made
      split at made
      · cases made
      · exact targets_record targets made

theorem targets_putForce (targets : given.Targets) (made : given.putForce = .ok next) :
    next.Targets := by
  rw [Given.putForce] at made
  split at made
  · cases made
  · cases made
    exact targets

theorem targets_settle (targets : progress.given.Targets) (settled : progress.settle = .ok given) :
    given.Targets := by
  rw [Progress.settle] at settled
  split at settled
  · cases settled
    exact targets
  · exact targets_put targets settled

theorem targets_readPath {path : String} (targets : progress.given.Targets)
    (read : progress.readPath path = .ok after) : after.given.Targets := by
  rw [Progress.readPath] at read
  split at read
  · cases read
  · obtain ⟨given, settled, made⟩ := bind_eq_ok_iff.mp read
    cases made
    exact targets_settle targets settled

theorem targets_readFlag {action : Action} (targets : progress.given.Targets)
    (read : progress.readFlag action = .ok after) : after.given.Targets := by
  obtain ⟨given, settled, rest⟩ := bind_eq_ok_iff.mp read
  have kept := targets_settle targets settled
  cases action with
  | value key =>
      cases rest
      exact kept
  | force =>
      obtain ⟨forced, made, last⟩ := bind_eq_ok_iff.mp rest
      cases last
      exact targets_putForce kept made
  | help | version => cases rest

theorem targets_readAttached {action : Action} {value : String}
    (targets : progress.given.Targets)
    (read : progress.readAttached action value = .ok after) : after.given.Targets := by
  cases action with
  | value key =>
      obtain ⟨given, settled, rest⟩ := bind_eq_ok_iff.mp read
      obtain ⟨last, made, done⟩ := bind_eq_ok_iff.mp rest
      cases done
      exact targets_put (targets_settle targets settled) made
  | force | help | version => cases read

theorem targets_readLong {text : List Char} (targets : progress.given.Targets)
    (read : progress.readLong text = .ok after) : after.given.Targets := by
  unfold Progress.readLong at read
  split at read
  split at read
  · cases read
  · exact targets_readFlag targets read
  · exact targets_readAttached targets read

theorem targets_readShort {letters : List Char} (targets : progress.given.Targets)
    (read : progress.readShort letters = .ok after) : after.given.Targets := by
  induction letters generalizing progress with
  | nil =>
      cases read
      exact targets
  | cons letter rest ih =>
      rw [Progress.readShort] at read
      split at read
      · cases read
      · obtain ⟨middle, first, others⟩ := bind_eq_ok_iff.mp read
        exact ih (targets_readFlag targets first) others

theorem targets_readWord {word : String} (targets : progress.given.Targets)
    (read : progress.readWord word = .ok after) : after.given.Targets := by
  rw [Progress.readWord] at read
  split at read
  · cases read
    exact targets
  · exact targets_readPath targets read

theorem targets_read {argument : String} (targets : progress.given.Targets)
    (read : progress.read argument = .ok after) : after.given.Targets := by
  rw [Progress.read] at read
  split at read
  · exact targets_readPath targets read
  split at read
  · cases read
    exact targets
  · exact targets_readLong targets read
  · exact targets_readShort targets read
  · exact targets_readWord targets read

/-! ## Runs -/

theorem targets_foldlM {arguments : List String} (targets : progress.given.Targets)
    (read : arguments.foldlM Progress.read progress = .ok after) : after.given.Targets := by
  induction arguments generalizing progress with
  | nil =>
      cases read
      exact targets
  | cons argument rest ih =>
      rw [List.foldlM_cons] at read
      obtain ⟨middle, first, others⟩ := bind_eq_ok_iff.mp read
      exact ih (targets_read targets first) others

/-- No command line asks for a site at the empty path. -/
theorem target_ne_empty {arguments : List String} {job : Job}
    (asked : read arguments = .ok job) : job.target ≠ "" := by
  obtain ⟨progress, passed, rest⟩ := bind_eq_ok_iff.mp asked
  obtain ⟨given, settled, made⟩ := bind_eq_ok_iff.mp rest
  have start : Progress.start.given.Targets := by
    rw [Given.Targets]
    decide
  have targets := targets_settle (targets_foldlM start passed) settled
  rw [Given.job] at made
  split at made
  · cases made
  · cases made
    cases found : given.target with
    | none => exact (by decide : Given.defaultTarget ≠ "")
    | some target =>
        rintro rfl
        exact targets found

end CommandLine
end BlogMigration
