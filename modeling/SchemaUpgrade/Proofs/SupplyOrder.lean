import Mathlib.Data.List.Nodup
import Mathlib.Data.List.Perm.Basic
import SchemaUpgrade.Proofs.Drafting
/-!
# The order in which migrations are supplied does not matter

Migrations can be supplied one by one, as lists, as files and as directories, in any order, and a
directory lists its entries in any order, which differs from machine to machine.  If the keys are
distinct, nothing of this reaches a plan or a run (`Draft.supply_order_is_indifferent`).

Two things are needed.  Migrations with distinct keys can be sorted in one way only
(`sortByKey_eq_of_perm`), so two drafts with the same supplies become runners that differ at most in
whom they tell something, which is known to be indifferent.  And neither a plan nor a run ever lists
a directory: whatever the listings are, they go the same way (`Course.sameDeeds`).

## Main definitions

* `Setting.supply`: the migrations that a setting supplies, wherever they tell their steps.
* `Draft.Resupplied`: the same supplies and choices, in another order.
* `Finished.SameDeeds`: the same outcome, the same calls, and the same state.
-/

namespace SchemaUpgrade

open Engine

variable {ε α : Type}

/-! ## Sorting distinct keys -/

/-- Migrations with distinct keys can be sorted in one way only. -/
theorem sortByKey_eq_of_perm {migrations others : List Migration} (h : others.Perm migrations)
    (hdistinct : (migrations.map Migration.key).Nodup) :
    sortByKey others = sortByKey migrations := by
  refine List.Perm.eq_of_pairwise ?_ (pairwise_sortByKey others) (pairwise_sortByKey migrations)
    ((sortByKey_perm others).trans (h.trans (sortByKey_perm migrations).symm))
  intro a b ha hb hab hba
  have ha' : a ∈ migrations := h.mem_iff.1 ((sortByKey_perm others).mem_iff.1 ha)
  have hb' : b ∈ migrations := (sortByKey_perm migrations).mem_iff.1 hb
  simp only [Migration.keyLe, decide_eq_true_eq] at hab hba
  exact List.inj_on_of_nodup_map hdistinct ha' hb' (String.le_antisymm hab hba)

/-! ## Supplies -/

/-- The migrations that a setting supplies, without the routes on which they tell their steps. -/
def Setting.supply (files : Files) (setting : Setting) : List Migration :=
  (setting.added files .ofProcess).map Migration.unlogged

theorem Setting.map_unlogged_added (files : Files) (route : Log.Route) (setting : Setting) :
    (setting.added files route).map Migration.unlogged = setting.supply files := by
  cases setting with
  | directory path => simp [supply, added, Migration.inDirectory, Migration.unlogged]
  | _ => rfl

/-- The route in force when a setting is added has no part in what it supplies. -/
theorem Log.Route.map_unlogged_collect (files : Files) (route : Log.Route)
    (settings : List Setting) :
    (route.collect (Setting.added files) settings).map Migration.unlogged
      = settings.flatMap (Setting.supply files) := by
  induction settings generalizing route with
  | nil => rfl
  | cons setting rest ih =>
    rw [collect_cons, List.map_append, ih, Setting.map_unlogged_added, List.flatMap_cons]

/-- Two file systems that differ in nothing but the order in which directories list their
entries. -/
def Files.Shuffled (files files' : Files) : Prop :=
  ∀ path, match files.entries path, files'.entries path with
    | .ok entries, .ok others => others.Perm entries
    | .error cause, .error other => other = cause
    | _, _ => False

theorem Files.Shuffled.foundNames {files files' : Files} (h : files.Shuffled files')
    (setting : Setting) : (setting.foundNames files').Perm (setting.foundNames files) := by
  cases setting with
  | directory path =>
    have hpath := h path
    rw [Setting.foundNames, Setting.foundNames]
    cases hours : files.entries path <;> cases htheirs : files'.entries path <;>
      simp only [hours, htheirs] at hpath
    · exact .refl _
    · exact (hpath.filter _).map _
  | _ => exact .refl _

theorem Files.Shuffled.supply {files files' : Files} (h : files.Shuffled files')
    (setting : Setting) : (setting.supply files').Perm (setting.supply files) := by
  cases setting with
  | directory path => exact ((h.foundNames (.directory path)).map _).map _
  | _ => exact .refl _

/-! ## Other listings -/

/-- What the directories of a file system list. -/
abbrev Listings := String → Except ReadError (List DirectoryEntry)

/-- The site with other listings of its directories. -/
def Site.relisted (site : Site) (listings : Listings) : Site :=
  { site with files := { site.files with entries := listings } }

/-- The same outcome, the same calls with the same answers, and the same state but for the listings
of the directories. -/
structure Finished.SameDeeds (done other : Finished Site ε α) (listings : Listings) : Prop where
  outcome : other.outcome = done.outcome
  exchanges : other.journal.exchanges = done.journal.exchanges
  state : other.state = done.state.relisted listings

/-- Notices at this site, on any routes. -/
def Contrast.anywhere (site : Site) : Contrast where
  files := site.files
  ours := site.logging
  theirs := site.logging
  routes _ _ _ := True

/-- Work that takes the same course, on whatever routes it tells something, does the same deeds,
also if the directories list something else. -/
theorem Course.sameDeeds {site : Site} {tells : ε → String → Prop} {schedule : Option (Schedule ε)}
    {work other : Work Site ε α}
    (h : Course (Contrast.anywhere site).terms tells schedule work other) (listings : Listings) :
    (work site).SameDeeds (other (site.relisted listings)) listings := by
  have hends := h.twins (site.relisted listings).toSurroundings rfl rfl rfl rfl
  refine ⟨hends.outcome, hends.journal.exchanges, hends.state.trans ?_⟩
  rw [Site.relisted, Site.relisted, (h.keeps rfl).1]

/-! ## The theorem -/

namespace Draft

/-- Sorting the migrations of a draft before it is built makes no difference. -/
theorem build_sorted (draft : Draft) :
    { draft with migrations := sortByKey draft.migrations }.build = draft.build := by
  obtain ⟨dialect, migrations, tableName, route, cancel, error⟩ := draft
  have hsorted : sortByKey (sortByKey migrations) = sortByKey migrations :=
    List.mergeSort_of_pairwise (pairwise_sortByKey migrations)
  rw [build, build]
  cases error with
  | some error => rfl
  | none =>
    cases dialect with
    | none => rfl
    | some dialect =>
      by_cases hempty : migrations = []
      · subst hempty
        simp [sortByKey]
      · simp only [dif_neg hempty, dif_neg (sortByKey_ne_nil hempty), hsorted]

/-- The same migrations and the same choices in another order, where directories may list their
entries in another order too.  Sinks may be injected anywhere. -/
structure Resupplied (files files' : Files) (first second : List Setting) : Prop where
  dialect : lastChosen Setting.dialect? second = lastChosen Setting.dialect? first
  tableName : lastChosen Setting.tableName? second = lastChosen Setting.tableName? first
  cancel : lastChosen Setting.cancel? second = lastChosen Setting.cancel? first
  supplies : (second.flatMap (Setting.supply files')).Perm (first.flatMap (Setting.supply files))

/-- Settings in another order supply the same, also where directories list their entries in another
order.  What they choose has to be seen to, because a later choice replaces an earlier one. -/
theorem Resupplied.of_perm {files files' : Files} {first second : List Setting}
    (hfiles : files.Shuffled files') (hperm : second.Perm first)
    (hdialect : lastChosen Setting.dialect? second = lastChosen Setting.dialect? first)
    (hname : lastChosen Setting.tableName? second = lastChosen Setting.tableName? first)
    (hcancel : lastChosen Setting.cancel? second = lastChosen Setting.cancel? first) :
    Resupplied files files' first second :=
  ⟨hdialect, hname, hcancel, hperm.flatMap fun setting _ => hfiles.supply setting⟩

theorem Resupplied.alike {files files' : Files} {first second : List Setting}
    (h : Resupplied files files' first second)
    (hdistinct : ((first.flatMap (Setting.supply files)).map Migration.key).Nodup) :
    let draft := ({} : Draft).after files first
    let other := ({} : Draft).after files' second
    { draft with migrations := sortByKey draft.migrations }.Alike
      { other with migrations := sortByKey other.migrations } := by
  intro draft other
  have hours : draft.migrations.map Migration.unlogged
      = first.flatMap (Setting.supply files) := Log.Route.map_unlogged_collect files _ first
  have htheirs : other.migrations.map Migration.unlogged
      = second.flatMap (Setting.supply files') := Log.Route.map_unlogged_collect files' _ second
  refine ⟨?_, ?_, ?_, ?_, rfl⟩
  · simp [draft, other, after, h.dialect]
  · show (sortByKey other.migrations).map _ = (sortByKey draft.migrations).map _
    rw [map_unlogged_sortByKey, map_unlogged_sortByKey, hours, htheirs]
    exact sortByKey_eq_of_perm h.supplies hdistinct
  · simp [draft, other, after, h.tableName]
  · simp [draft, other, after, h.cancel]

/-- Two drafts with the same supplies in another order cannot be built for the same reason, or
become runners that do the same in every plan and in every run. -/
theorem supply_order_is_indifferent {around around' : Surroundings} {first second : List Setting}
    (hfirst : ∀ setting ∈ first, setting.failure? around.files = none)
    (hsecond : ∀ setting ∈ second, setting.failure? around'.files = none)
    (h : Resupplied around.files around'.files first second)
    (hdistinct : ((first.flatMap (Setting.supply around.files)).map Migration.key).Nodup) :
    let draft := (({} : Draft).addAll around first).1
    let other := (({} : Draft).addAll around' second).1
    (∃ error, draft.build = .error error ∧ other.build = .error error) ∨
    (∃ runner runner', draft.build = .ok runner ∧ other.build = .ok runner' ∧
      runner'.keys = runner.keys ∧ ∀ (site : Site) (listings : Listings),
        (runner.plan site).SameDeeds (runner'.plan (site.relisted listings)) listings ∧
        (runner.run site).SameDeeds (runner'.run (site.relisted listings)) listings) := by
  intro draft other
  have hdraft : draft = ({} : Draft).after around.files first :=
    congrArg Prod.fst (addAll_of_succeeds around rfl hfirst)
  have hother : other = ({} : Draft).after around'.files second :=
    congrArg Prod.fst (addAll_of_succeeds around' rfl hsecond)
  rcases (h.alike hdistinct).build with
    ⟨error, hbuild, hbuild'⟩ | ⟨runner, runner', hbuild, hbuild', halike⟩
  · rw [build_sorted, ← hdraft] at hbuild
    rw [build_sorted, ← hother] at hbuild'
    exact .inl ⟨error, hbuild, hbuild'⟩
  · rw [build_sorted, ← hdraft] at hbuild
    rw [build_sorted, ← hother] at hbuild'
    refine .inr ⟨runner, runner', hbuild, hbuild', halike.keys, fun site listings => ?_⟩
    have hbetween : (Contrast.anywhere site).Between runner runner' := fun _ _ _ _ _ => trivial
    have hcovers := hbetween.covers halike
    exact ⟨(Runner.course_plan halike hcovers.tells_ofRun).sameDeeds listings,
      (Runner.course_run hcovers).sameDeeds listings⟩

/-- Files of which every directory has the same entries. -/
def shelf (entries : List DirectoryEntry) : Surroundings where
  files := { isPresent := fun _ => true, read := fun _ => .ok [], entries := fun _ => .ok entries }

/-- Two migrations and the scripts of a directory, once one after another, and once as a list ahead
of the directory, which lists its entries the other way round, with a sink that hears the steps of
its scripts. -/
theorem supply_order_is_indifferent_shelf :
    let entries : List DirectoryEntry := [⟨"03.sql", true⟩, ⟨"old", false⟩, ⟨"01.sql", true⟩]
    let table : Migration := .script "02" "CREATE TABLE a (id INT)" .ofProcess
    let row : Migration := .program "04" [.batch "INSERT INTO a VALUES (1)"]
    let first : List Setting :=
      [.dialect Vendor.duckDb.dialect, .directory "up", .migration table, .migration row]
    let second : List Setting :=
      [.logger { name := "audit" }, .migrations [row, table], .directory "up",
        .dialect Vendor.duckDb.dialect]
    let ours := shelf entries
    let theirs := shelf entries.reverse
    (∀ setting ∈ first, setting.failure? ours.files = none) ∧
      (∀ setting ∈ second, setting.failure? theirs.files = none) ∧
      Resupplied ours.files theirs.files first second ∧
      ((first.flatMap (Setting.supply ours.files)).map Migration.key).Nodup ∧
      ∃ runner runner', (({} : Draft).addAll ours first).1.build = .ok runner ∧
        (({} : Draft).addAll theirs second).1.build = .ok runner' ∧
        runner'.keys = runner.keys ∧ ∀ (site : Site) (listings : Listings),
          (runner.plan site).SameDeeds (runner'.plan (site.relisted listings)) listings ∧
          (runner.run site).SameDeeds (runner'.run (site.relisted listings)) listings := by
  intro entries table row first second ours theirs
  have hfirst : ∀ setting ∈ first, setting.failure? ours.files = none := by
    simp [first, ours, shelf, Setting.failure?]
  have hsecond : ∀ setting ∈ second, setting.failure? theirs.files = none := by
    simp [second, theirs, shelf, Setting.failure?]
  have hsame : Resupplied ours.files theirs.files first second := by
    refine ⟨rfl, rfl, rfl, ?_⟩
    exact List.reverse_perm (first.flatMap (Setting.supply ours.files))
  have hdistinct : ((first.flatMap (Setting.supply ours.files)).map Migration.key).Nodup := by
    decide
  refine ⟨hfirst, hsecond, hsame, hdistinct, ?_⟩
  rcases supply_order_is_indifferent hfirst hsecond hsame hdistinct with ⟨error, hfailed, -⟩ | h
  · rcases build_cases (({} : Draft).addAll ours first).1 rfl TableName.check_default with
      ⟨hnone, -⟩ | ⟨-, hempty, -⟩ | ⟨runner, -, -, hbuild, -⟩
    · exact absurd hnone (by decide)
    · exact absurd (congrArg List.length hempty) (by decide)
    · exact absurd (hfailed.symm.trans hbuild) (by simp)
  · exact h

end Draft

end SchemaUpgrade
