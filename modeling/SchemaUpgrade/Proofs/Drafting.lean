import SchemaUpgrade.Proofs.Bench
import SchemaUpgrade.Proofs.Execution
/-!
# What settings make of a draft

Settings act on a draft one after another, up to the first that fails (`Draft.addAll_folds`).  What
they make of it is said without going through them: the last choice of each kind counts, and the
migrations are those that each setting adds (`Draft.after`).

Two things decide what a setting adds: the files, and the route that is in force at its turn, which
the settings before it decide (`Log.Route.collect`).  So a sink that is injected later never hears
the steps of a script that was added before.  Whether a setting fails is decided by the files alone
(`Setting.failure?`), and that is why the first failure can be told in advance.

## Main definitions

* `Setting.failure?`, `Setting.added`, `Setting.told`: what one setting does.
* `lastChosen`, `Log.Route.collect`: what settings choose and add one after another.
* `Draft.after`: the draft after settings of which none fails.
* `Migration.TellsStepsOn`: a migration tells its steps on a route and nowhere else.
* `Draft.Stopped`, `Draft.Completed`: what becomes of a new draft.
-/

namespace SchemaUpgrade

/-! ## Single settings -/

/-- The names of the regular files among the entries of a directory. -/
def regularNames (entries : List DirectoryEntry) : List String :=
  (entries.filter DirectoryEntry.isRegular).map DirectoryEntry.name

namespace Setting

/-- The dialect that a setting chooses, if it does. -/
def dialect? : Setting → Option Dialect
  | .dialect templates => some templates
  | _ => none

/-- The name of the bookkeeping table that a setting chooses, if it does. -/
def tableName? : Setting → Option String
  | .tableName name => some name
  | _ => none

/-- The cancel flag that a setting chooses, if it does. -/
def cancel? : Setting → Option CancelFlag
  | .cancel flag => some flag
  | _ => none

/-- The error with which a setting fails: of a directory that cannot be read, or of a name that may
not be written into SQL. -/
def failure? (files : Files) : Setting → Option UpgradeError
  | .directory path =>
    match files.entries path with
    | .error cause => some (.readDir path cause)
    | .ok _ => none
  | .tableName name =>
    match TableName.check name with
    | .error error => some error
    | .ok () => none
  | _ => none

/-- The names of the regular files in the directory that a setting adds. -/
def foundNames (files : Files) : Setting → List String
  | .directory path =>
    match files.entries path with
    | .ok entries => regularNames entries
    | .error _ => []
  | _ => []

/-- The migrations that a setting adds on a route. -/
def added (files : Files) (route : Log.Route) : Setting → List Migration
  | .migration one => [one]
  | .migrations several => several
  | .file path => [.ofFile path route]
  | .directory path =>
    (foundNames files (.directory path)).map fun name => .inDirectory path name route
  | _ => []

/-- The events that a setting causes on a route: the files that are found in a directory are
told. -/
def told (around : Surroundings) (route : Log.Route) (setting : Setting) : List Log.Event :=
  (setting.foundNames around.files).filterMap fun name =>
    around.logging.deliver route (.scriptFound name)

/-- Whether a setting adds scripts from the disk. -/
def isLoading : Setting → Bool
  | .file _ | .directory _ => true
  | _ => false

end Setting

theorem scriptsAmong_eq (logging : Log.Settings) (route : Log.Route) (directory : String)
    (entries : List DirectoryEntry) :
    scriptsAmong logging route directory entries =
      ((regularNames entries).map fun name => .inDirectory directory name route,
        (regularNames entries).filterMap fun name =>
          logging.deliver route (.scriptFound name)) := by
  induction entries with
  | nil => rfl
  | cons entry rest ih =>
    rw [scriptsAmong, ih]
    by_cases hregular : entry.isRegular
    · cases hdeliver : logging.deliver route (.scriptFound entry.name) <;>
        simp [regularNames, hregular, hdeliver]
    · simp [regularNames, hregular]

/-! ## Settings one after another -/

/-- What was chosen last. -/
def lastChosen {α : Type} (choice : Setting → Option α) (settings : List Setting) : Option α :=
  (settings.filterMap choice).getLast?

theorem lastChosen_cons {α : Type} (choice : Setting → Option α) (setting : Setting)
    (rest : List Setting) :
    lastChosen choice (setting :: rest) = (lastChosen choice rest).or (choice setting) := by
  rw [lastChosen, lastChosen, List.filterMap_cons]
  cases choice setting with
  | none => simp
  | some chosen => cases h : (rest.filterMap choice).getLast? <;> simp [List.getLast?_cons, h]

@[simp] theorem lastChosen_singleton {α : Type} (choice : Setting → Option α) (setting : Setting) :
    lastChosen choice [setting] = choice setting := by
  rw [lastChosen_cons]
  rfl

theorem mem_of_lastChosen {α : Type} {choice : Setting → Option α} {settings : List Setting}
    {chosen : α} (h : lastChosen choice settings = some chosen) :
    ∃ setting ∈ settings, choice setting = some chosen :=
  List.mem_filterMap.1 (List.mem_of_getLast? h)

theorem lastChosen_eq_none_iff {α : Type} {choice : Setting → Option α}
    {settings : List Setting} :
    lastChosen choice settings = none ↔ ∀ setting ∈ settings, choice setting = none := by
  rw [lastChosen, List.getLast?_eq_none_iff, List.filterMap_eq_nil_iff]

namespace Log.Route

variable (route : Route)

theorem after_nil : route.after [] = route := rfl

theorem after_cons (setting : Setting) (rest : List Setting) :
    route.after (setting :: rest) = (route.after [setting]).after rest := by
  have hlast := lastChosen_cons Setting.sink? setting rest
  simp only [lastChosen] at hlast
  rw [after, after, after, hlast, List.filterMap_cons]
  cases setting.sink? with
  | none => simp
  | some sink => cases (rest.filterMap Setting.sink?).getLast? <;> rfl

/-- What each setting gives on the route that is in force when it is added, starting from a
route. -/
def collect {α : Type} (give : Route → Setting → List α) (settings : List Setting) : List α :=
  (settings.mapIdx fun i setting => give (route.after (settings.take i)) setting).flatten

variable {α : Type} (give : Route → Setting → List α)

@[simp] theorem collect_nil : route.collect give [] = [] := rfl

theorem collect_cons (setting : Setting) (rest : List Setting) :
    route.collect give (setting :: rest)
      = give route setting ++ (route.after [setting]).collect give rest := by
  have hafter : ∀ i, route.after (setting :: rest.take i)
      = (route.after [setting]).after (rest.take i) := fun i => route.after_cons setting _
  simp only [collect, List.mapIdx_cons, List.flatten_cons, List.take_zero, after_nil,
    List.take_succ_cons, hafter]

@[simp] theorem collect_singleton (setting : Setting) :
    route.collect give [setting] = give route setting := by
  simp [collect, after_nil]

theorem collect_append (first second : List Setting) :
    route.collect give (first ++ second)
      = route.collect give first ++ (route.after first).collect give second := by
  induction first generalizing route with
  | nil => rfl
  | cons setting rest ih =>
    rw [List.cons_append, collect_cons, ih, collect_cons, List.append_assoc, ← after_cons]

end Log.Route

namespace Draft

/-- What settings of which none fails make of a draft: the last choice of each kind counts, and the
migrations pile up. -/
def after (draft : Draft) (files : Files) (settings : List Setting) : Draft where
  dialect := (lastChosen Setting.dialect? settings).or draft.dialect
  migrations := draft.migrations ++ draft.route.collect (Setting.added files) settings
  tableName := (lastChosen Setting.tableName? settings).getD draft.tableName
  route := draft.route.after settings
  cancel := (lastChosen Setting.cancel? settings).or draft.cancel
  error := draft.error

variable (draft : Draft) (around : Surroundings)

theorem after_cons (files : Files) (setting : Setting) (rest : List Setting) :
    draft.after files (setting :: rest) = (draft.after files [setting]).after files rest := by
  have hname : (lastChosen Setting.tableName? (setting :: rest)).getD draft.tableName
      = (lastChosen Setting.tableName? rest).getD
        ((lastChosen Setting.tableName? [setting]).getD draft.tableName) := by
    rw [lastChosen_cons, lastChosen_singleton]
    cases lastChosen Setting.tableName? rest <;> rfl
  rw [after, hname, Log.Route.collect_cons, Log.Route.after_cons _ setting rest,
    lastChosen_cons Setting.dialect? setting rest, lastChosen_cons Setting.cancel? setting rest,
    Option.or_assoc, Option.or_assoc, ← List.append_assoc]
  simp only [after, lastChosen_singleton, Log.Route.collect_singleton]

/-- What a setting that does not fail makes of a draft. -/
theorem apply_of_succeeds {setting : Setting} (h : setting.failure? around.files = none) :
    draft.apply around setting
      = (draft.after around.files [setting], setting.told around draft.route) := by
  cases setting with
  | directory path =>
    rw [apply, scriptsIn]
    cases hentries : around.files.entries path with
    | error cause => simp [Setting.failure?, hentries] at h
    | ok entries =>
      simp only [scriptsAmong_eq]
      simp [after, Setting.added, Setting.told, Setting.foundNames, hentries, Setting.dialect?,
        Setting.tableName?, Setting.cancel?, Log.Route.after, Setting.sink?]
  | tableName name =>
    rw [apply]
    cases hcheck : TableName.check name with
    | error error => simp [Setting.failure?, hcheck] at h
    | ok _ =>
      simp [after, Setting.added, Setting.told, Setting.foundNames, Setting.dialect?,
        Setting.tableName?, Setting.cancel?, Log.Route.after, Setting.sink?]
  | _ =>
    simp [apply, after, Setting.added, Setting.told, Setting.foundNames, Setting.dialect?,
      Setting.tableName?, Setting.cancel?, Log.Route.after, Setting.sink?]

/-- A setting that fails leaves its error and nothing else. -/
theorem apply_of_fails {setting : Setting} {error : UpgradeError}
    (h : setting.failure? around.files = some error) :
    draft.apply around setting = ({ draft with error := some error }, []) := by
  cases setting with
  | directory path =>
    rw [apply, scriptsIn]
    cases hentries : around.files.entries path with
    | error cause => simp_all [Setting.failure?]
    | ok entries => simp [Setting.failure?, hentries] at h
  | tableName name =>
    rw [apply]
    cases hcheck : TableName.check name with
    | error error => simp_all [Setting.failure?]
    | ok _ => simp [Setting.failure?, hcheck] at h
  | _ => simp [Setting.failure?] at h

/-- Settings of which none fails, one after another. -/
theorem addAll_of_succeeds {draft : Draft} (hnone : draft.error = none) {settings : List Setting}
    (h : ∀ setting ∈ settings, setting.failure? around.files = none) :
    draft.addAll around settings = (draft.after around.files settings,
      draft.route.collect (Setting.told around) settings) := by
  induction settings generalizing draft with
  | nil => simp [addAll, after, lastChosen, Log.Route.after_nil]
  | cons setting rest ih =>
    rw [List.forall_mem_cons] at h
    have hadd : draft.add around setting = draft.apply around setting := by rw [add, hnone]
    rw [addAll, hadd, apply_of_succeeds draft around h.1]
    have hrest : (draft.after around.files [setting]).addAll around rest = _ := ih hnone h.2
    rw [after_cons _ _ setting rest, Log.Route.collect_cons]
    simp only [hrest]
    rfl

theorem addAll_append (first second : List Setting) :
    draft.addAll around (first ++ second)
      = (((draft.addAll around first).1.addAll around second).1,
        (draft.addAll around first).2
          ++ ((draft.addAll around first).1.addAll around second).2) := by
  induction first generalizing draft with
  | nil => rfl
  | cons setting rest ih => simp [addAll, ih]

/-- The first setting that fails leaves its error, and those behind it leave nothing. -/
theorem addAll_of_fails {draft : Draft} (hnone : draft.error = none) {before rest : List Setting}
    {failing : Setting} {error : UpgradeError}
    (hbefore : ∀ setting ∈ before, setting.failure? around.files = none)
    (hfailing : failing.failure? around.files = some error) :
    draft.addAll around (before ++ failing :: rest)
      = ({ draft.after around.files before with error := some error },
        draft.route.collect (Setting.told around) before) := by
  have hadd : (draft.after around.files before).add around failing
      = ({ draft.after around.files before with error := some error }, []) := by
    have hstill : (draft.after around.files before).error = none := hnone
    rw [add, hstill]
    exact apply_of_fails _ around hfailing
  have hrest : ({ draft.after around.files before with error := some error } : Draft).addAll around
      rest = _ := addAll_of_error around rfl rest
  rw [addAll_append, addAll_of_succeeds around hnone hbefore, addAll]
  simp [hadd, hrest]

/-! ## Building -/

theorem build_of_error {error : UpgradeError} (h : draft.error = some error) :
    draft.build = .error error := by
  simp [build, h]

/-- What is built of a draft without an error whose table name was checked: it may lack a dialect,
or a migration, and otherwise it becomes a runner with the migrations by ascending key. -/
theorem build_cases (hnone : draft.error = none)
    (hname : TableName.check draft.tableName = .ok ()) :
    (draft.dialect = none ∧ draft.build = .error .noDialect) ∨
    (draft.dialect ≠ none ∧ draft.migrations = [] ∧ draft.build = .error .noMigrations) ∨
    (∃ runner, draft.dialect = some runner.dialect ∧ draft.migrations ≠ [] ∧
      draft.build = .ok runner ∧ runner.migrations = sortByKey draft.migrations ∧
      runner.tableName = draft.tableName ∧ runner.route = draft.route ∧
      runner.cancel = draft.cancel) := by
  cases hdialect : draft.dialect with
  | none => exact .inl ⟨rfl, by simp [build, hnone, hdialect]⟩
  | some dialect =>
    by_cases hempty : draft.migrations = []
    · exact .inr (.inl ⟨by simp, hempty, by simp [build, hnone, hdialect, hempty]⟩)
    · refine .inr (.inr ⟨⟨dialect, sortByKey draft.migrations, draft.tableName, draft.route,
        draft.cancel, pairwise_sortByKey _, sortByKey_ne_nil hempty, hname⟩, rfl, hempty, ?_, rfl,
        rfl, rfl, rfl⟩)
      rw [build, hnone, hdialect]
      simp only [dif_neg hempty]
      split
      · rename_i error hcheck
        exact absurd (hcheck.symm.trans hname) (by simp)
      · rfl

end Draft

/-- Migrations with equal keys stay in the order in which they were added. -/
theorem filter_sortByKey (key : String) (migrations : List Migration) :
    (sortByKey migrations).filter (fun migration => migration.key = key)
      = migrations.filter fun migration => migration.key = key := by
  let same : List Migration := migrations.filter fun migration => migration.key = key
  have hsorted : same.Pairwise fun a b => a.keyLe b = true := by
    refine List.pairwise_of_forall_mem_list fun a ha b hb => ?_
    simp only [same, List.mem_filter, decide_eq_true_eq] at ha hb
    simp [Migration.keyLe, ha.2, hb.2]
  have hsublist : same.Sublist (sortByKey migrations) :=
    List.sublist_mergeSort Migration.keyLe_trans Migration.keyLe_total hsorted List.filter_sublist
  have hfiltered := hsublist.filter fun migration => decide (migration.key = key)
  have hsame : same.filter (fun migration => migration.key = key) = same := by
    simp [same, List.filter_filter]
  rw [hsame] at hfiltered
  exact (hfiltered.eq_of_length ((sortByKey_perm migrations).filter _).symm.length_eq).symm

/-! ## Steps of scripts -/

/-- Each step of the migration is told on the route, and nothing else is told. -/
def Migration.TellsStepsOn (migration : Migration) (route : Log.Route) : Prop :=
  ∀ site, (migration.apply site).journal.events
    = (List.range (migration.apply site).journal.calls.length).filterMap fun i =>
        site.logging.deliver route (.step migration.key i)

theorem Script.tells_execute (stream : Text.ByteStream) (key : String) (route : Log.Route)
    (site : Site) :
    (execute stream key route site).journal.events
      = (List.range (execute stream key route site).journal.calls.length).filterMap fun i =>
          site.logging.deliver route (.step key i) := by
  obtain ⟨batches, hitems⟩ := exists_items stream
  have hcases := executeItems_cases key route stream.read.broken batches 0 site
  rw [← hitems] at hcases
  obtain ⟨n, hn, hjournal⟩ : ∃ n ≤ batches.length, (execute stream key route site).journal
      = stepJournal key route 0 batches site n := by
    rcases hcases with ⟨i, message, hrefused, hdone⟩ | ⟨-, hdone⟩
    · exact ⟨i + 1, hrefused.lt_length, congrArg Finished.journal hdone⟩
    · exact ⟨batches.length, Nat.le_refl _, congrArg Finished.journal hdone⟩
  rw [hjournal, events_stepJournal_eq key route 0 batches site hn, calls_stepJournal,
    List.length_map, List.length_take, Nat.min_eq_left hn, List.range_eq_range']

/-- The script in a file tells its steps on the route that it was given. -/
theorem Migration.tellsStepsOn_file (key path : String) (route : Log.Route) :
    (Migration.file key path route).TellsStepsOn route := by
  intro site
  rw [apply, executeFile, Work.bind_of_silent (Work.state_apply site)]
  cases site.files.read path with
  | error cause => rfl
  | ok bytes => exact Script.tells_execute _ key route site

theorem Setting.tellsStepsOn_of_added {files : Files} {route : Log.Route} {setting : Setting}
    (hloading : setting.isLoading = true) {migration : Migration}
    (hmem : migration ∈ setting.added files route) : migration.TellsStepsOn route := by
  cases setting with
  | file path =>
    obtain rfl := List.mem_singleton.1 hmem
    exact Migration.tellsStepsOn_file _ _ _
  | directory path =>
    obtain ⟨name, -, rfl⟩ := List.mem_map.1 hmem
    exact Migration.tellsStepsOn_file _ _ _
  | _ => exact absurd hloading (by simp [isLoading])

/-! ## What is read of the files -/

/-- Whether two file systems hold the same in the directories that settings name. -/
def Files.AgreeOn (files files' : Files) (settings : List Setting) : Prop :=
  ∀ path, .directory path ∈ settings → files'.entries path = files.entries path

section AgreeOn

variable {files files' : Files} {settings : List Setting} {setting : Setting}

theorem Files.AgreeOn.failure? (h : files.AgreeOn files' settings) (hmem : setting ∈ settings) :
    setting.failure? files' = setting.failure? files := by
  cases setting with
  | directory path => rw [Setting.failure?, Setting.failure?, h path hmem]
  | _ => rfl

theorem Files.AgreeOn.foundNames (h : files.AgreeOn files' settings) (hmem : setting ∈ settings) :
    setting.foundNames files' = setting.foundNames files := by
  cases setting with
  | directory path => rw [Setting.foundNames, Setting.foundNames, h path hmem]
  | _ => rfl

theorem Files.AgreeOn.added (h : files.AgreeOn files' settings) (hmem : setting ∈ settings)
    (route : Log.Route) : setting.added files' route = setting.added files route := by
  cases setting with
  | directory path => rw [Setting.added, Setting.added, h.foundNames hmem]
  | _ => rfl

theorem Log.Route.collect_congr {α : Type} {give give' : Route → Setting → List α}
    (route : Route) (h : ∀ setting ∈ settings, ∀ route, give' route setting = give route setting) :
    route.collect give' settings = route.collect give settings := by
  induction settings generalizing route with
  | nil => rfl
  | cons setting rest ih =>
    rw [List.forall_mem_cons] at h
    rw [collect_cons, collect_cons, h.1, ih _ h.2]

end AgreeOn

/-! ## The theorem -/

namespace Draft

/-- What became of a new draft when `failing` was the first setting to fail, behind `before` and
ahead of `rest`. -/
structure Stopped (around : Surroundings) (before : List Setting) (failing : Setting)
    (rest : List Setting) (error : UpgradeError) (done : Draft × List Log.Event) : Prop where
  build : done.1.build = .error error
  /-- But for the error, the draft is as the settings before it left it. -/
  draft : done.1 = { ({} : Draft).after around.files before with error := some error }
  events : done.2 = Log.Route.ofProcess.collect (Setting.told around) before
  /-- Settings behind it change nothing and tell nothing, whatever surrounds them. -/
  deaf : ∀ (around' : Surroundings) (later : List Setting),
    done.1.addAll around' later = (done.1, [])
  /-- A directory that is only named behind it is not read. -/
  unread : ∀ files, around.files.AgreeOn files (before ++ [failing]) →
    ({} : Draft).addAll { around with files := files } (before ++ failing :: rest) = done

/-- A runner that settings of which none fails are built into. -/
structure Assembled (files : Files) (settings : List Setting) (runner : Runner) : Prop where
  dialect : lastChosen Setting.dialect? settings = some runner.dialect
  tableName : runner.tableName = (lastChosen Setting.tableName? settings).getD TableName.default
  route : runner.route = Log.Route.ofProcess.after settings
  cancel : runner.cancel = lastChosen Setting.cancel? settings
  perm : runner.migrations.Perm (Log.Route.ofProcess.collect (Setting.added files) settings)
  ascending : runner.migrations.Pairwise fun a b => a.key ≤ b.key
  /-- Migrations with equal keys are in the order in which they were added. -/
  stable : ∀ key, runner.migrations.filter (fun migration => migration.key = key)
    = (Log.Route.ofProcess.collect (Setting.added files) settings).filter
        fun migration => migration.key = key
  /-- A script from the disk tells its steps on the route that was in force when it was added. -/
  scripts : ∀ before setting rest, settings = before ++ setting :: rest →
    setting.isLoading = true →
      ∀ migration ∈ setting.added files (Log.Route.ofProcess.after before),
        migration ∈ runner.migrations ∧
          migration.TellsStepsOn (Log.Route.ofProcess.after before)

/-- What became of a new draft when none of the settings failed. -/
structure Completed (around : Surroundings) (settings : List Setting)
    (done : Draft × List Log.Event) : Prop where
  events : done.2 = Log.Route.ofProcess.collect (Setting.told around) settings
  noDialect_iff : done.1.build = .error .noDialect ↔
    ∀ setting ∈ settings, setting.dialect? = none
  noMigrations_iff : done.1.build = .error .noMigrations ↔
    (∃ setting ∈ settings, setting.dialect? ≠ none) ∧
      Log.Route.ofProcess.collect (Setting.added around.files) settings = []
  ok_iff : (∃ runner, done.1.build = .ok runner) ↔
    (∃ setting ∈ settings, setting.dialect? ≠ none) ∧
      Log.Route.ofProcess.collect (Setting.added around.files) settings ≠ []
  /-- The name of the bookkeeping table was checked when it was chosen. -/
  named : TableName.check done.1.tableName = .ok ()
  built : ∀ runner, done.1.build = .ok runner → Assembled around.files settings runner

/-- Settings act one after another until the first that fails. -/
structure Folds (around : Surroundings) (settings : List Setting)
    (done : Draft × List Log.Event) : Prop where
  stopped : ∀ before failing rest error, settings = before ++ failing :: rest →
    (∀ setting ∈ before, setting.failure? around.files = none) →
    failing.failure? around.files = some error →
      Stopped around before failing rest error done
  completed : (∀ setting ∈ settings, setting.failure? around.files = none) →
    Completed around settings done

/-- A name that was chosen without failure may be written into SQL. -/
theorem check_tableName_after {files : Files} {settings : List Setting}
    (h : ∀ setting ∈ settings, setting.failure? files = none) :
    TableName.check (({} : Draft).after files settings).tableName = .ok () := by
  cases hchosen : lastChosen Setting.tableName? settings with
  | none =>
    simp only [Draft.after, hchosen]
    exact TableName.check_default
  | some name =>
    obtain ⟨setting, hmem, hname⟩ := mem_of_lastChosen hchosen
    simp only [Draft.after, hchosen]
    have hsucceeds := h setting hmem
    cases setting with
    | tableName other =>
      obtain rfl := Option.some.inj hname
      rw [Setting.failure?] at hsucceeds
      cases hcheck : TableName.check other with
      | error error => simp [hcheck] at hsucceeds
      | ok _ => exact hcheck
    | _ => exact absurd hname (by simp [Setting.tableName?])

theorem assembled_of_build {files : Files} {settings : List Setting} {runner : Runner}
    (h : ∀ setting ∈ settings, setting.failure? files = none)
    (hbuild : (({} : Draft).after files settings).build = .ok runner) :
    Assembled files settings runner := by
  rcases Draft.build_cases (({} : Draft).after files settings) rfl (check_tableName_after h) with
    ⟨-, hfailed⟩ | ⟨-, -, hfailed⟩ |
    ⟨built, hdialect, -, hbuilt, hmigrations, hname, hroute, hcancel⟩
  · exact absurd (hfailed.symm.trans hbuild) (by simp)
  · exact absurd (hfailed.symm.trans hbuild) (by simp)
  · obtain rfl : built = runner := Except.ok.inj (hbuilt.symm.trans hbuild)
    have hadded : (({} : Draft).after files settings).migrations
        = Log.Route.ofProcess.collect (Setting.added files) settings := List.nil_append _
    rw [hadded] at hmigrations
    exact {
      dialect := by simpa [Draft.after] using hdialect
      tableName := hname
      route := hroute
      cancel := by simpa [Draft.after] using hcancel
      perm := hmigrations ▸ sortByKey_perm _
      ascending := by
        have hsorted := built.sorted
        simpa [Migration.keyLe] using hsorted
      stable := fun key => by rw [hmigrations, filter_sortByKey]
      scripts := by
        rintro before setting rest rfl hloading migration hmem
        refine ⟨?_, setting.tellsStepsOn_of_added hloading hmem⟩
        rw [hmigrations, (sortByKey_perm _).mem_iff, Log.Route.collect_append,
          Log.Route.collect_cons]
        simp [hmem] }

theorem completed_of_succeeds {around : Surroundings} {settings : List Setting}
    (h : ∀ setting ∈ settings, setting.failure? around.files = none) :
    Completed around settings (({} : Draft).after around.files settings,
      Log.Route.ofProcess.collect (Setting.told around) settings) := by
  let draft : Draft := ({} : Draft).after around.files settings
  have hname : TableName.check draft.tableName = .ok () := check_tableName_after h
  have hnever : draft.dialect = none ↔ ∀ setting ∈ settings, setting.dialect? = none := by
    simp [draft, Draft.after, lastChosen_eq_none_iff]
  have hever : (∃ setting ∈ settings, setting.dialect? ≠ none) ↔ draft.dialect ≠ none := by
    rw [ne_eq, hnever]
    simp
  have hadded : Log.Route.ofProcess.collect (Setting.added around.files) settings
      = draft.migrations := (List.nil_append _).symm
  refine ⟨rfl, ?_, ?_, ?_, hname, fun runner => assembled_of_build h⟩
  · show draft.build = _ ↔ _
    rw [← hnever]
    rcases draft.build_cases rfl hname with
      ⟨hnone, hbuild⟩ | ⟨hsome, -, hbuild⟩ | ⟨runner, hsome, -, hbuild, -⟩
    · simp [hbuild, hnone]
    · simp [hbuild, hsome]
    · simp [hbuild, hsome]
  · show draft.build = _ ↔ _
    rw [hever, hadded]
    rcases draft.build_cases rfl hname with
      ⟨hnone, hbuild⟩ | ⟨hsome, hempty, hbuild⟩ | ⟨runner, hsome, hfull, hbuild, -⟩
    · simp [hbuild, hnone]
    · simp [hbuild, hsome, hempty]
    · simp [hbuild, hfull]
  · show (∃ runner, draft.build = .ok runner) ↔ _
    rw [hever, hadded]
    rcases draft.build_cases rfl hname with
      ⟨hnone, hbuild⟩ | ⟨hsome, hempty, hbuild⟩ | ⟨runner, hsome, hfull, hbuild, -⟩
    · simp [hbuild, hnone]
    · simp [hbuild, hempty]
    · simp [hbuild, hsome, hfull]

/-- What the settings up to the first failure do depends on the directories that they name. -/
theorem addAll_of_agreeOn {around : Surroundings} {files : Files} {before rest : List Setting}
    {failing : Setting} {error : UpgradeError}
    (hbefore : ∀ setting ∈ before, setting.failure? around.files = none)
    (hfailing : failing.failure? around.files = some error)
    (hagree : around.files.AgreeOn files (before ++ [failing])) :
    ({} : Draft).addAll { around with files := files } (before ++ failing :: rest)
      = ({} : Draft).addAll around (before ++ failing :: rest) := by
  have hmem : ∀ setting ∈ before, setting ∈ before ++ [failing] := fun setting hsetting =>
    List.mem_append_left _ hsetting
  have hbefore' : ∀ setting ∈ before, setting.failure? files = none := fun setting hsetting =>
    (hagree.failure? (hmem setting hsetting)).trans (hbefore setting hsetting)
  have hfailing' : failing.failure? files = some error :=
    (hagree.failure? (by simp)).trans hfailing
  have hadded : Log.Route.ofProcess.collect (Setting.added files) before
      = Log.Route.ofProcess.collect (Setting.added around.files) before :=
    Log.Route.collect_congr _ fun setting hsetting => hagree.added (hmem setting hsetting)
  have htold : Log.Route.ofProcess.collect (Setting.told { around with files := files }) before
      = Log.Route.ofProcess.collect (Setting.told around) before :=
    Log.Route.collect_congr _ fun setting hsetting route => by
      rw [Setting.told, Setting.told, hagree.foundNames (hmem setting hsetting)]
  rw [addAll_of_fails around rfl hbefore hfailing, addAll_of_fails _ rfl hbefore' hfailing']
  simp only [after, hadded, htold]

/-- A draft is what its settings made of it one after another, with the first error kept. -/
theorem addAll_folds (around : Surroundings) (settings : List Setting) :
    Folds around settings (({} : Draft).addAll around settings) where
  stopped := by
    rintro before failing rest error rfl hbefore hfailing
    have hdone : ({} : Draft).addAll around (before ++ failing :: rest) = _ :=
      addAll_of_fails around rfl hbefore hfailing
    exact {
      build := by
        rw [hdone]
        exact build_of_error _ rfl
      draft := by rw [hdone]
      events := by rw [hdone]
      deaf := fun around' later => by
        rw [hdone]
        exact addAll_of_error around' rfl later
      unread := fun files hagree => addAll_of_agreeOn hbefore hfailing hagree }
  completed h := by
    rw [addAll_of_succeeds around rfl h]
    exact completed_of_succeeds h

/-- A sink hears the scripts that were added after it was injected. -/
example :
    Log.Route.ofProcess.collect (Setting.added Files.none)
        [.file "a", .logger { name := "audit" }, .file "b"]
      = [.ofFile "a" .ofProcess, .ofFile "b" (.toSink { name := "audit" })] := rfl

end Draft

end SchemaUpgrade
