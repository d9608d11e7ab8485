import BlogMigration.Proofs.Files.Volumes

/-!
# Ways through volumes

A way in two parts leads on from where its first part leads. A folder that was made is where its
path leads, and whatever is below a path lies on a way through the place of that path. Below a
folder without links plain names lead down, one after the other, so that what is written there
stays there.
-/

namespace BlogMigration
namespace Files

namespace Volume

/-- What stands at or below a place has nothing to do with what stands elsewhere: it is no link, and
no file with a name elsewhere. -/
structure Closed (volume : Volume) (home : Place) : Prop where
  link : ∀ {place path}, home <+: place → volume.get? place ≠ some (.link path)
  file : ∀ {place other number}, home <+: place → volume.get? place = some (.file number) →
    volume.get? other = some (.file number) → home <+: other

/-- A path leads on from that of a root by plain names. -/
def IsBelow (root path : String) : Prop :=
  ∃ relative, path = below root relative ∧
    ∀ name ∈ pathNames relative, name ≠ "" ∧ name ≠ "." ∧ name ≠ ".."

variable {volume old new : Volume} {own : String → Prop} {links : Nat} {start place last : Place}
  {front back names : List String}

/-! ## Ways in parts -/

theorem Way.split (way : volume.Way links start names last) (parts : names = front ++ back) :
    ∃ middle left, volume.Way links start front middle ∧ volume.Way left middle back last := by
  induction way generalizing front with
  | here =>
      obtain ⟨rfl, rfl⟩ := List.append_eq_nil_iff.mp parts.symm
      exact ⟨_, 0, .here, .here⟩
  | @down links start last name rest node folder proper found plain way ih =>
      rcases List.cons_eq_append_iff.mp parts with ⟨rfl, rfl⟩ | ⟨others, rfl, tail⟩
      · exact ⟨_, _, .here, .down folder proper found plain way⟩
      · obtain ⟨middle, left, first, second⟩ := ih tail
        exact ⟨middle, left, .down folder proper found plain first, second⟩
  | @link links start last name path rest folder proper found properPath way ih =>
      rcases List.cons_eq_append_iff.mp parts with ⟨rfl, rfl⟩ | ⟨others, rfl, tail⟩
      · exact ⟨_, _, .here, .link folder proper found properPath way⟩
      · obtain ⟨middle, left, first, second⟩ := @ih (pathNames path ++ others)
          (by rw [tail, List.append_assoc])
        exact ⟨middle, left, .link folder proper found properPath first, second⟩
  | @free links start name folder proper missing =>
      rcases List.cons_eq_append_iff.mp parts with ⟨rfl, rfl⟩ | ⟨others, rfl, tail⟩
      · exact ⟨_, links, .here, .free folder proper missing⟩
      · obtain ⟨rfl, rfl⟩ := List.append_eq_nil_iff.mp tail.symm
        exact ⟨_, 0, .free folder proper missing, .here⟩

/-- A way goes on by one name, at which there is no link. -/
theorem Way.concat {name : String} (way : volume.Way links start front place)
    (folder : volume.isFolder place = true) (proper : isName name = true)
    (plain : ∀ path, volume.get? (place.follow name) ≠ some (.link path)) :
    volume.Way links start (front ++ [name]) (place.follow name) := by
  induction way with
  | @here links start =>
      cases found : volume.get? (start.follow name) with
      | none => exact .free folder proper found
      | some node =>
          exact .down folder proper found (fun path same => plain path (by rw [found, same])) .here
  | down through able found other way ih =>
      exact .down through able found other (ih folder plain)
  | link through able found properPath way ih =>
      have further := ih folder plain
      rw [List.append_assoc] at further
      exact .link through able found properPath further
  | free through able missing =>
      rw [isFolder_iff, missing] at folder
      cases folder

/-- A slash at the end of a path leads nowhere from a folder. -/
theorem Way.concat_empty (way : volume.Way links start front place)
    (folder : volume.isFolder place = true) : volume.Way links start (front ++ [""]) place := by
  have stays : place.follow "" = place := rfl
  have further : volume.Way links start (front ++ [""]) (place.follow "") := by
    refine way.concat folder (by decide) fun path => ?_
    rw [stays, isFolder_iff.mp folder]
    nofun
  rwa [stays] at further

/-- Through a place at and below which there is no link, plain names lead down. -/
theorem Way.eq_append {home : Place}
    (closed : ∀ {place path}, home <+: place → volume.get? place ≠ some (.link path))
    (proper : ∀ name ∈ names, name ≠ "" ∧ name ≠ "." ∧ name ≠ "..")
    (way : volume.Way links place names last) (inside : home <+: place) : last = place ++ names := by
  induction way with
  | here => exact (List.append_nil _).symm
  | @down links place last name rest node folder able found plain way ih =>
      obtain ⟨first, others⟩ := List.forall_mem_cons.mp proper
      have step : place.follow name = place ++ [name] := Place.follow_eq_append first
      rw [ih others (by rw [step]; exact inside.trans (List.prefix_append _ _)), step,
        List.append_assoc]
      rfl
  | @link links place last name path rest folder able found properPath way ih =>
      have step : place.follow name = place ++ [name] :=
        Place.follow_eq_append (proper name List.mem_cons_self)
      rw [step] at found
      exact absurd found (closed (inside.trans (List.prefix_append _ _)))
  | @free links place name folder able missing =>
      exact Place.follow_eq_append (proper name List.mem_cons_self)

theorem Way.isFolder (way : volume.Way links place names last) (more : names ≠ []) :
    volume.isFolder place = true := by
  cases way with
  | here => exact absurd rfl more
  | down folder => exact folder
  | link folder => exact folder
  | free folder => exact folder

/-! ## Made folders -/

theorem vacant?_eq_some_iff {path name : String} :
    volume.vacant? path front name = some last ↔
      ∃ place, volume.reachNames? path front = some place ∧ volume.isFolder place = true ∧
        isName name = true ∧ volume.get? (place.follow name) = none ∧ last = place.follow name := by
  simp only [vacant?, Option.bind_eq_bind, Option.bind_eq_some_iff]
  constructor
  · rintro ⟨place, reached, granted⟩
    split at granted
    · next able =>
      simp only [Bool.and_eq_true, Option.isNone_iff_eq_none] at able
      exact ⟨place, reached, able.1.1, able.1.2, able.2, (Option.some.inj granted).symm⟩
    · cases granted
  · rintro ⟨place, reached, folder, proper, missing, rfl⟩
    exact ⟨place, reached, by simp [folder, proper, missing]⟩

/-- A folder that was made is where its names lead. -/
theorem reachNames?_addFolder {path name : String}
    (vacant : volume.vacant? path front name = some place) :
    (volume.addFolder place).reachNames? path (front ++ [name]) = some place ∧
      (volume.addFolder place).isFolder place = true := by
  obtain ⟨folder, reached, there, proper, missing, rfl⟩ := vacant?_eq_some_iff.mp vacant
  have way := reach?_eq_some_iff.mp reached
  have further := way.concat there proper (by simp [missing])
  exact ⟨(grows_addFolder volume _).reachNames? further.reach?,
    isFolder_iff.mpr (get?_addFolder_eq_some_iff.mpr (.inr ⟨missing, rfl, rfl⟩))⟩

theorem exists_of_makeFolders {path : String}
    (start : names = [] → (old.reachNames? path front).any old.isFolder = true)
    (made : old.makeFolders path front names = (true, new)) :
    (new.reachNames? path (front ++ names)).any new.isFolder = true := by
  induction names generalizing old front with
  | nil =>
      cases made
      rw [List.append_nil]
      exact start rfl
  | cons name rest ih =>
      have shape : front ++ name :: rest = front ++ [name] ++ rest := by simp
      rw [shape]
      rw [makeFolders] at made
      split at made
      · next there => exact ih (fun _ => there) made
      · split at made
        · next place vacant =>
          have there := reachNames?_addFolder vacant
          exact ih (fun _ => by simp [there]) made
        · cases made

theorem exists_of_makeFolder {path : String} (made : old.makeFolder path = (true, new)) :
    ∃ place, new.resolve? path = some place := by
  rw [makeFolder] at made
  split at made
  · next proper =>
    have there := exists_of_makeFolders (fun none => absurd none (pathNames_ne_nil path)) made
    rw [List.nil_append, Option.any_eq_true] at there
    obtain ⟨place, reached, -⟩ := there
    exact ⟨place, by rw [resolve?, if_pos proper, reached]⟩
  · cases made

/-! ## Homes -/

/-- The way to something below a root is one through the place of the root, which is a folder. -/
theorem exists_home {root relative : String} (filled : root ≠ "")
    (resolved : volume.resolve? (below root relative) = some last) :
    ∃ home left, volume.resolve? root = some home ∧ volume.isFolder home = true ∧
      volume.Way left home (pathNames relative) last := by
  obtain ⟨front, names, parts⟩ := exists_front filled
  obtain ⟨start, shape⟩ := parts volume.workingFolder relative
  rw [resolve?] at resolved
  split at resolved
  · next proper =>
    rw [reachNames?, start, shape] at resolved
    obtain ⟨home, left, first, second⟩ := (reach?_eq_some_iff.mp resolved).split rfl
    have folder : volume.isFolder home = true := second.isFolder (pathNames_ne_nil relative)
    refine ⟨home, left, ?_, folder, second⟩
    rw [resolve?, if_pos (isPath_of_below filled proper), reachNames?]
    rcases names with names | names
    · rw [names]
      exact first.reach?
    · rw [names]
      exact (first.concat_empty folder).reach?
  · cases resolved

/-- What a program changes by paths below a root that is shut off stays below it. -/
theorem ChangesOnly.file?_eq_of_closed {root : String} {home : Place} (filled : root ≠ "")
    (changes : ChangesOnly own old new) (inside : ∀ path, own path → IsBelow root path)
    (resolved : new.resolve? root = some home) (closed : old.Closed home)
    (outside : ¬ home <+: place) : new.file? place = old.file? place := by
  rcases changes.file?_eq_or place with same | ⟨number, found, path, other, mine, leads, there⟩
  · exact same
  · obtain ⟨relative, rfl, proper⟩ := inside path mine
    obtain ⟨start, left, itself, -, way⟩ := exists_home filled leads
    cases resolved.symm.trans itself
    have links : ∀ {place path}, home <+: place → new.get? place ≠ some (.link path) :=
      fun below linked => closed.link below (changes.grows.link linked)
    have down := way.eq_append links proper (List.prefix_refl home)
    have below : home <+: other := down ▸ List.prefix_append home _
    rcases changes.grows.single there found with rfl | ⟨oldThere, oldFound⟩
    · exact absurd below outside
    · exact absurd (closed.file below oldThere oldFound) outside

end Volume
end Files
end BlogMigration
