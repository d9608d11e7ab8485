import BlogMigration.Proofs.Migration.Writing
import Mathlib.Data.List.Forall2
import Mathlib.Data.List.Nodup

/-!
# Outcomes of migrations

A migration whose export loads and whose site can be made reports how many posts it could not write,
in whatever order it writes them, and the file of each of the others is there unless another post
has the same path. So all posts are kept exactly when no two of them agree in their kind and their
trimmed slug; the report does not tell.
-/

namespace BlogMigration
namespace Migration

open Files (Disk Entry Place)
open Posts (Post)
open Sites (runOn)

/-- The export of a job loads from a disk and the site can be made, which leads to another disk. -/
structure Prepares (job : Job) (disk : Disk) (source : Export) (site : Disk) : Prop where
  loads : exportOf (disk.read? job.source) = .ok source
  makes : ∃ bare, runOn disk (Sites.create job.target job.force) = (.ok (), bare) ∧
    runOn bare (Sites.installTemplates job.target job.templates) = (.ok (), site)

/-- A new site grants every request for the file of a post. -/
def Grants (job : Job) (site : Disk) (post : Post) : Prop :=
  (runOn site (writePost job post)).1 ≠ .error .io

/-- The file of a post stands at a place, and its path leads there. -/
def Holds (job : Job) (disk : Disk) (post : Post) (place : Place) : Prop :=
  ∃ name, post.fileName = .ok name ∧ disk.resolve? (filePath job post name) = some place ∧
    disk.get? place = some (.file (job.content post).toUTF8)

/-- What a migration reports that could not write some of its posts. -/
def report (posts failed : Nat) : Except Failure Nat :=
  if failed = 0 then .ok posts else .error (.postsFailed failed)

variable {job : Job} {disk site after : Disk} {source : Export} {post : Post} {place : Place}
  {arrange : List Post → List Post} {machine : Time.Zone}

/-! ## Runs -/

theorem runOn_load_of_read {σ : Type} [Files.Storage (StateM σ)] {state : σ} {path : String}
    {found : Option Entry}
    (reads : (Files.Storage.read? path : StateM σ (Option Entry)).run state = (found, state)) :
    runOn state (load path) = (exportOf found, state) := by
  have asked := Sites.runOn_lift state (Files.Storage.read? path : StateM σ (Option Entry))
  rw [reads] at asked
  rw [load, Sites.runOn_bind_of_ok asked, Sites.runOn_liftExcept]

theorem runOn_load (disk : Disk) (path : String) :
    runOn disk (load path) = (exportOf (disk.read? path), disk) :=
  runOn_load_of_read rfl

theorem Prepares.ready (prepares : Prepares job disk source site) : Ready job site := by
  obtain ⟨bare, created, installed⟩ := prepares.makes
  have made : Sites.Leads bare job.target "content/post" :=
    Sites.leads_of_create created "content/post" (by decide)
  have deep : Sites.Leads site job.target ("content" ++ "/" ++ "post") :=
    made.extend (Sites.sameFolders_installTemplates installed).extends
  intro post
  unfold Post.folderPath Post.folder
  split
  · exact deep.of_append
  · exact deep

/-- With the site made, the posts are written and counted. -/
theorem Prepares.runOn_runInOrder (prepares : Prepares job disk source site)
    (arrange : List Post → List Post) (machine : Time.Zone) :
    runOn disk (runInOrder arrange job machine) =
      (report (Post.ofExport source (job.reader machine)).length
          ((arrange (Post.ofExport source (job.reader machine))).countP fun post =>
            (target? job site post).isNone),
        (arrange (Post.ofExport source (job.reader machine))).foldl (store job site) site) := by
  obtain ⟨bare, created, installed⟩ := prepares.makes
  have loaded : runOn disk (load job.source) = (.ok source, disk) := by
    rw [runOn_load, prepares.loads]
  have written := Sites.runOn_lift site
    (writePosts job (arrange (Post.ofExport source (job.reader machine))) : StateM Disk Nat)
  rw [writePosts_run prepares.ready (.refl site)] at written
  rw [runInOrder, Sites.runOn_bind_of_ok loaded, Sites.runOn_bind_of_ok created,
    Sites.runOn_bind_of_ok installed, Sites.runOn_bind_of_ok written, report]
  split <;> rfl

theorem exists_prepares {n : Nat}
    (ran : runOn disk (runInOrder arrange job machine) = (.ok n, after)) :
    ∃ source site, Prepares job disk source site := by
  obtain ⟨source, _, loaded, rest⟩ := Sites.runOn_bind_eq_ok_iff.mp ran
  obtain ⟨_, bare, created, rest⟩ := Sites.runOn_bind_eq_ok_iff.mp rest
  obtain ⟨_, site, installed, -⟩ := Sites.runOn_bind_eq_ok_iff.mp rest
  rw [runOn_load] at loaded
  obtain ⟨loads, rfl⟩ := Prod.mk.inj loaded
  exact ⟨source, site, loads, bare, created, installed⟩

/-! ## Files -/

/-- A post that has a place shared by no other post keeps its file. -/
theorem holds_of_alone {posts : List Post} (member : post ∈ posts)
    (found : target? job site post = some place)
    (alone : ∀ other ∈ posts, target? job site other = some place → other = post) :
    Holds job (posts.foldl (store job site) site) post place := by
  have stored : (posts.foldl (store job site) site).get? place =
      some (.file (job.content post).toUTF8) :=
    get?_foldl_store found alone (.inl member)
  have same := sameFolders_foldl_store job (.refl site) posts
  obtain ⟨name, named, writable, placed⟩ := target?_eq_some_iff.mp found
  rw [← same.workingFolder] at placed
  have resolved := Disk.resolve?_of_writable (same.writable writable)
  rw [← placed, stored] at resolved
  exact ⟨name, named, resolved rfl, stored⟩

/-- With all requests granted, the posts without a place are those without a path. -/
theorem isNone_target?_of_grants (ready : Ready job site)
    (grants : Grants job site post) : (target? job site post).isNone = !post.path.isOk := by
  rw [Grants, runOn_writePost ready] at grants
  cases named : post.fileName with
  | error failure =>
      rw [target?, Post.path, named]
      rfl
  | ok name =>
      have placed : (target? job site post).isSome = true := by
        rw [answer, named] at grants
        by_contra missing
        exact grants (if_neg missing)
      rw [Option.isNone_eq_false_iff.mpr placed, Post.path, named]
      rfl

/-- A job of which only the files matter. -/
def pairJob : Job where
  source := "e"
  target := "s"
  force := false
  location := .utc
  timeForm := none
  format := .toml
  dialect := .html
  address := none

/-- An export of two posts of which only the slugs are given. -/
def pairText (first second : String) : String :=
  "\x7b\"data\":\x7b\"posts\":[\x7b\"slug\":\"" ++ first ++ "\"\x7d,\x7b\"slug\":\"" ++ second ++
    "\"\x7d]\x7d\x7d"

def pairDisk (first second : String) : Disk where
  entries := [(["e"], .file (pairText first second).toUTF8)]
  workingFolder := []

def pairExport (first second : String) : Export :=
  (exportOf ((pairDisk first second).read? pairJob.source)).toOption.getD ⟨⟨none, none⟩, .empty⟩

def slugPost (slug : String) : Post where
  id := none
  title := ""
  slug := slug
  body := .plain ""
  date := none
  isDraft := false
  isPage := false
  description := none
  image := none
  author := none
  tags := []
  summary := none

theorem eq_ok_of_isOk {α : Type} {result : Except Failure α} (succeeds : result.isOk = true)
    (default : α) : result = .ok (result.toOption.getD default) := by
  cases result with
  | error failure => cases succeeds
  | ok a => rfl

theorem exportOf_pairDisk (first second : String)
    (readable : (exportOf ((pairDisk first second).read? pairJob.source)).isOk = true) :
    exportOf ((pairDisk first second).read? pairJob.source) = .ok (pairExport first second) := by
  unfold pairExport
  exact eq_ok_of_isOk readable _

/-- The disk after the site was made on the one with the export. -/
def pairSite (first second : String) : Disk :=
  (runOn (pairDisk first second) (Sites.create pairJob.target pairJob.force)).2

theorem eq_of_fst {α β : Type} {pair : α × β} {a : α} (first : pair.1 = a) : pair = (a, pair.2) :=
  Prod.ext first rfl

theorem prepares_pairSite (first second : String)
    (readable : (exportOf ((pairDisk first second).read? pairJob.source)).isOk = true)
    (created : (runOn (pairDisk first second) (Sites.create pairJob.target pairJob.force)).1 =
      .ok ()) :
    Prepares pairJob (pairDisk first second) (pairExport first second) (pairSite first second) where
  loads := exportOf_pairDisk first second readable
  makes := by
    refine ⟨pairSite first second, ?_, Sites.runOn_pure _ ()⟩
    unfold pairSite
    exact eq_of_fst created

/-- Posts that agree in their kind and their trimmed slug have their files at one place. -/
theorem Holds.place_eq {other : Post} {elsewhere : Place} (mine : Holds job disk post place)
    (its : Holds job disk other elsewhere) (same : post.pathKey = other.pathKey) :
    place = elsewhere := by
  obtain ⟨name, named, there, -⟩ := its
  obtain ⟨mineName, mineNamed, mineThere, -⟩ := mine
  have equal := Post.fileName_eq_of_pathKey same named
  rw [mineNamed] at equal
  cases equal
  rw [filePath_eq_of_pathKey same, there] at mineThere
  exact (Option.some.inj mineThere).symm

theorem exists_holds_of_mem {posts : List Post} {places : List Place}
    (held : List.Forall₂ (Holds job disk) posts places) (member : post ∈ posts) :
    ∃ place ∈ places, Holds job disk post place := by
  induction held with
  | nil => cases member
  | @cons first place posts places holds rest ih =>
      rcases List.mem_cons.mp member with rfl | later
      · exact ⟨place, List.mem_cons_self, holds⟩
      · obtain ⟨elsewhere, listed, itsHolds⟩ := ih later
        exact ⟨elsewhere, List.mem_cons_of_mem place listed, itsHolds⟩

/-- Only posts that differ in their kind or their trimmed slug have files of their own. -/
theorem nodup_pathKey_of_holds {posts : List Post} {places : List Place} (distinct : places.Nodup)
    (held : List.Forall₂ (Holds job disk) posts places) : (posts.map Post.pathKey).Nodup := by
  induction held with
  | nil => exact List.nodup_nil
  | @cons post place posts places first rest ih =>
      obtain ⟨apart, distinctRest⟩ := List.nodup_cons.mp distinct
      refine List.nodup_cons.mpr ⟨fun member => ?_, ih distinctRest⟩
      obtain ⟨other, listed, same⟩ := List.mem_map.mp member
      obtain ⟨elsewhere, listedPlace, holds⟩ := exists_holds_of_mem rest listed
      exact apart (first.place_eq holds same.symm ▸ listedPlace)

/-- Of posts that differ in their kind or their trimmed slug, no two have one place. -/
theorem eq_of_target?_of_nodup {posts : List Post} {other : Post}
    (distinct : (posts.map Post.pathKey).Nodup) (member : post ∈ posts) (listed : other ∈ posts)
    (mine : target? job site post = some place) (its : target? job site other = some place) :
    other = post := by
  obtain ⟨name, named, -⟩ := target?_eq_some_iff.mp mine
  have accepted := Post.path_eq_ok_iff.mpr ⟨name, named, rfl⟩
  have same : other.path = .ok (post.folder ++ [name]) := by
    rw [path_eq_of_target? mine its, accepted]
  exact List.inj_on_of_nodup_map distinct listed member ((Post.path_eq_iff accepted).mp same)

/-- Posts that all have a place, and differ in their kind or their trimmed slug, have files of their
own once they are written. -/
theorem exists_places_of_nodup_pathKey {posts order : List Post} (perm : order.Perm posts)
    (distinct : (posts.map Post.pathKey).Nodup)
    (placed : ∀ post ∈ posts, (target? job site post).isSome = true) :
    ∃ places, places.Nodup ∧
      List.Forall₂ (Holds job (order.foldl (store job site) site)) posts places := by
  have place (post : Post) (member : post ∈ posts) :
      target? job site post = some ((target? job site post).getD []) := by
    obtain ⟨place, found⟩ := Option.isSome_iff_exists.mp (placed post member)
    rw [found]
    rfl
  refine ⟨posts.map fun post => (target? job site post).getD [], ?_, ?_⟩
  · refine List.Nodup.map_on (fun post member other listed same => ?_) (distinct.of_map _)
    have its := place other listed
    rw [← same] at its
    exact eq_of_target?_of_nodup distinct listed member its (place post member)
  · rw [List.forall₂_map_right_iff, List.forall₂_same]
    intro post member
    have mine := place post member
    refine holds_of_alone (perm.mem_iff.mpr member) mine fun other listed its => ?_
    exact eq_of_target?_of_nodup distinct member (perm.mem_iff.mp listed) mine its

theorem report_eq_ok_iff {posts failed n : Nat} :
    report posts failed = .ok n ↔ failed = 0 ∧ n = posts := by
  unfold report
  split
  · next none => simp [none, eq_comm]
  · next some => simp [some]

/-- A migration that reports success has read as many posts as it reports. Each of them has a file
of its own with its own content exactly when no two of them agree in their kind and their trimmed
slug. -/
theorem runInOrder_keeps_iff {n : Nat} (orders : ∀ posts, (arrange posts).Perm posts)
    (ran : runOn disk (runInOrder arrange job machine) = (.ok n, after)) :
    ∃ source, exportOf (disk.read? job.source) = .ok source ∧
      n = (Post.ofExport source (job.reader machine)).length ∧
      ((∃ places, places.Nodup ∧
          List.Forall₂ (Holds job after) (Post.ofExport source (job.reader machine)) places) ↔
        ((Post.ofExport source (job.reader machine)).map Post.pathKey).Nodup) := by
  obtain ⟨source, site, prepares⟩ := exists_prepares ran
  rw [prepares.runOn_runInOrder arrange machine] at ran
  obtain ⟨reported, rfl⟩ := Prod.mk.inj ran
  obtain ⟨none, count⟩ := report_eq_ok_iff.mp reported
  have order := orders (Post.ofExport source (job.reader machine))
  refine ⟨source, prepares.loads, count, ?_, fun distinct => ?_⟩
  · rintro ⟨places, different, held⟩
    exact nodup_pathKey_of_holds different held
  · refine exists_places_of_nodup_pathKey order distinct fun post member => ?_
    have placed := List.countP_eq_zero.mp none post (order.mem_iff.mpr member)
    simpa [Option.isSome_iff_ne_none] using placed

/-- Two posts of different slugs are both kept. -/
theorem runInOrder_keeps_different_slugs :
    ∃ after, runOn (pairDisk "a" "b") (runInOrder List.reverse pairJob) = (.ok 2, after) ∧
      ∃ places, places.Nodup ∧
        List.Forall₂ (Holds pairJob after) [slugPost "a", slugPost "b"] places := by
  have loads := exportOf_pairDisk "a" "b" (by decide +kernel)
  have posts : Post.ofExport (pairExport "a" "b") pairJob.reader = [slugPost "a", slugPost "b"] := by
    decide +kernel
  have succeeded : (runOn (pairDisk "a" "b") (runInOrder List.reverse pairJob)).1 = .ok 2 := by
    decide +kernel
  have ran := eq_of_fst succeeded
  obtain ⟨source, loaded, -, kept⟩ := runInOrder_keeps_iff List.reverse_perm ran
  rw [loads] at loaded
  obtain rfl := Except.ok.inj loaded
  rw [posts] at kept
  exact ⟨_, ran, kept.mpr (by decide +kernel)⟩

/-- Two posts of one slug are reported as written, but do not have a file each. -/
theorem runInOrder_loses_same_slug :
    ∃ source after, exportOf ((pairDisk "a" "a").read? pairJob.source) = .ok source ∧
      Post.ofExport source pairJob.reader = [slugPost "a", slugPost "a"] ∧
      runOn (pairDisk "a" "a") (runInOrder id pairJob) = (.ok 2, after) ∧
      ¬ ∃ places, places.Nodup ∧
        List.Forall₂ (Holds pairJob after) [slugPost "a", slugPost "a"] places := by
  have loads := exportOf_pairDisk "a" "a" (by decide +kernel)
  have posts : Post.ofExport (pairExport "a" "a") pairJob.reader = [slugPost "a", slugPost "a"] := by
    decide +kernel
  have succeeded : (runOn (pairDisk "a" "a") (runInOrder id pairJob)).1 = .ok 2 := by
    decide +kernel
  refine ⟨_, _, loads, posts, eq_of_fst succeeded, ?_⟩
  rintro ⟨places, distinct, held⟩
  have different := nodup_pathKey_of_holds distinct held
  exact absurd different (by decide +kernel)

end Migration
end BlogMigration
