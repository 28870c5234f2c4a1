import SchemaUpgrade.Migration
import SchemaUpgrade.TableName
/-!
# Drafts of an upgrade

An upgrade is set up step by step: each `Setting` is added to a `Draft`.  The first setting that
fails is remembered, and nothing added after it has any effect.  What a setting needs from outside,
the files and the log, it takes at the time it is added: scripts added from the disk log their steps
on the route that is in force at that moment.

A finished draft becomes a `Runner`, whose migrations are sorted by key; migrations with equal keys
keep the order in which they were added.

## Main definitions

* `Setting`, `Draft`, `Draft.add`, `Draft.addAll`.
* `scriptsIn`: the migrations for the regular files of a directory.
* `Runner`, `Draft.build`.
-/

namespace SchemaUpgrade

/-! ## Scripts of a directory -/

/-- The migrations for the regular files among the entries of a directory, and the events that
tell that they were found. -/
def scriptsAmong (logging : Log.Settings) (route : Log.Route) (directory : String) :
    List DirectoryEntry → List Migration × List Log.Event
  | [] => ([], [])
  | entry :: rest =>
    let (migrations, events) := scriptsAmong logging route directory rest
    if entry.isRegular then
      (.inDirectory directory entry.name route :: migrations,
        (logging.deliver route (.scriptFound entry.name)).toList ++ events)
    else (migrations, events)

/-- The migrations for the regular files directly in a directory.  As a listing never breaks off
half-way, either all of them are told to be found or none is. -/
def scriptsIn (around : Surroundings) (route : Log.Route) (directory : String) :
    Except UpgradeError (List Migration) × List Log.Event :=
  match around.files.entries directory with
  | .error cause => (.error (.readDir directory cause), [])
  | .ok entries =>
    let (migrations, events) := scriptsAmong around.logging route directory entries
    (.ok migrations, events)

/-! ## Drafts -/

/-- A choice made while an upgrade is set up. -/
inductive Setting where
  /-- The dialect of the bookkeeping table. -/
  | dialect (dialect : Dialect)
  /-- One more migration. -/
  | migration (migration : Migration)
  /-- Several more migrations. -/
  | migrations (migrations : List Migration)
  /-- The script at a path, keyed by the path. -/
  | file (path : String)
  /-- Every regular file of a directory, keyed by its name. -/
  | directory (path : String)
  /-- The name of the bookkeeping table. -/
  | tableName (name : String)
  /-- The sink of the run's events. -/
  | logger (sink : Log.Sink)
  /-- The flag that cancels the run. -/
  | cancel (flag : CancelFlag)
  deriving Inhabited

/-- An upgrade that is being set up. -/
structure Draft where
  dialect : Option Dialect := none
  /-- The migrations in the order in which they were added. -/
  migrations : List Migration := []
  tableName : String := TableName.default
  route : Log.Route := .ofProcess
  /-- The flag that cancels the run; without one, nothing does. -/
  cancel : Option CancelFlag := none
  /-- The first error of a setting. -/
  error : Option UpgradeError := none
  deriving Inhabited

namespace Draft

/-- What a setting makes of a draft that has no error yet. -/
def apply (around : Surroundings) (draft : Draft) : Setting → Draft × List Log.Event
  | .dialect dialect => ({ draft with dialect := some dialect }, [])
  | .migration migration => ({ draft with migrations := draft.migrations ++ [migration] }, [])
  | .migrations migrations => ({ draft with migrations := draft.migrations ++ migrations }, [])
  | .file path =>
    ({ draft with migrations := draft.migrations ++ [.ofFile path draft.route] }, [])
  | .directory path =>
    match scriptsIn around draft.route path with
    | (.ok migrations, events) =>
      ({ draft with migrations := draft.migrations ++ migrations }, events)
    | (.error error, events) => ({ draft with error := some error }, events)
  | .tableName name =>
    match TableName.check name with
    | .ok () => ({ draft with tableName := name }, [])
    | .error error => ({ draft with error := some error }, [])
  | .logger sink => ({ draft with route := .toSink sink }, [])
  | .cancel flag => ({ draft with cancel := some flag }, [])

/-- Adds a setting, and answers the events it caused.  A draft with an error stays as it is. -/
def add (around : Surroundings) (draft : Draft) (setting : Setting) : Draft × List Log.Event :=
  match draft.error with
  | some _ => (draft, [])
  | none => draft.apply around setting

/-- Adds settings in order. -/
def addAll (around : Surroundings) (draft : Draft) : List Setting → Draft × List Log.Event
  | [] => (draft, [])
  | setting :: rest =>
    let (draft, events) := draft.add around setting
    let (draft, more) := draft.addAll around rest
    (draft, events ++ more)

end Draft

/-! ## Runners -/

/-- The order of migrations by key. -/
def Migration.keyLe (a b : Migration) : Bool :=
  decide (a.key ≤ b.key)

theorem Migration.keyLe_trans (a b c : Migration) (hab : a.keyLe b = true)
    (hbc : b.keyLe c = true) : a.keyLe c = true := by
  simp only [keyLe, decide_eq_true_eq] at *
  exact String.le_trans hab hbc

theorem Migration.keyLe_total (a b : Migration) : (a.keyLe b || b.keyLe a) = true := by
  simpa [keyLe] using String.le_total a.key b.key

/-- The migrations by ascending key; equal keys keep their order. -/
def sortByKey (migrations : List Migration) : List Migration :=
  migrations.mergeSort Migration.keyLe

theorem pairwise_sortByKey (migrations : List Migration) :
    (sortByKey migrations).Pairwise fun a b => a.keyLe b = true :=
  List.pairwise_mergeSort Migration.keyLe_trans Migration.keyLe_total migrations

theorem sortByKey_perm (migrations : List Migration) :
    (sortByKey migrations).Perm migrations :=
  List.mergeSort_perm migrations Migration.keyLe

theorem sortByKey_ne_nil {migrations : List Migration} (h : migrations ≠ []) :
    sortByKey migrations ≠ [] := fun hnil =>
  h (hnil ▸ sortByKey_perm migrations).symm.eq_nil

/-- An upgrade that is ready to run, any number of times and on any connection. -/
structure Runner where
  dialect : Dialect
  migrations : List Migration
  tableName : String
  route : Log.Route := .ofProcess
  cancel : Option CancelFlag := none
  /-- The migrations are sorted by key. -/
  sorted : migrations.Pairwise fun a b => a.keyLe b = true
  /-- There is something to run. -/
  nonempty : migrations ≠ []
  /-- The name of the bookkeeping table may be written into SQL. -/
  named : TableName.check tableName = .ok ()

/-- The keys of the migrations, in the order in which they are applied. -/
def Runner.keys (runner : Runner) : List String :=
  runner.migrations.map Migration.key

/-- Makes a runner of a draft, or says why it is not ready. -/
def Draft.build (draft : Draft) : Except UpgradeError Runner :=
  match draft.error with
  | some error => .error error
  | none =>
    match draft.dialect with
    | none => .error .noDialect
    | some dialect =>
      if hnonempty : draft.migrations = [] then .error .noMigrations
      else match hnamed : TableName.check draft.tableName with
        | .error error => .error error
        | .ok () => .ok {
            dialect := dialect
            migrations := sortByKey draft.migrations
            tableName := draft.tableName
            route := draft.route
            cancel := draft.cancel
            sorted := pairwise_sortByKey _
            nonempty := sortByKey_ne_nil hnonempty
            named := hnamed }

end SchemaUpgrade
