import Mathlib.Data.List.Forall2
import Mathlib.Logic.Function.Basic
import SchemaUpgrade.Dialect.Vendor
import SchemaUpgrade.Proofs.Indifference
/-!
# Logging never influences what is done

Upgrades are set up, built, planned and run over one connection: these are the operations on a
*bench*.  Two sequences of operations that differ only in the sinks that are injected, done under
different log settings of the process, give the same answers, make the same calls with the same
outcomes, and leave the same database, step by step (`Bench.logging_is_indifferent`).

What differs is who hears of it.  Both sequences tell the same notices in the same order, and a
notice reaches one sink at most: the one that its route leads to, if that enables its level and
target, and the logger of the process on any other route, if that enables them and the level is not
above the ceiling of the process.

The sequences need not be equally long, since an injection on one side has no counterpart on the
other.  They are matched first (`Operation.Matched`), and the induction is on how they match.

## Main definitions

* `Operation`, `Bench`, `Operation.perform`, `Bench.performAll`: operations and what comes of them.
* `Operation.unlogged`: operations without what they say about logging.
* `Step.Alike`: the same answers, calls and database, and the same notices.
* `Bench.Speaks`: which notices an operation tells, and on which routes.
* `Log.Route.after`: where notices go, after some sinks were injected.
-/

namespace SchemaUpgrade

open Engine

/-! ## Operations -/

/-- Something that is done with upgrades over a connection.  Drafts and runners have names. -/
inductive Operation where
  /-- Starts a draft anew. -/
  | start (name : String)
  /-- Adds a setting to a draft. -/
  | set (name : String) (setting : Setting)
  /-- Builds the runner of a draft. -/
  | build (name : String)
  /-- Plans what a runner would do. -/
  | plan (name : String)
  /-- Runs a runner. -/
  | run (name : String)

/-- A connection with the drafts and the runners that are used over it. -/
structure Bench where
  site : Site
  drafts : String → Draft := fun _ => {}
  runners : String → Option Runner := fun _ => none

/-- What an operation answers. -/
inductive Answer where
  /-- A draft is there for more settings. -/
  | ready
  /-- A runner was built, with these keys and this bookkeeping table. -/
  | built (keys : List String) (tableName : String)
  /-- No runner was built. -/
  | refused (error : UpgradeError)
  | planned (outcome : Except UpgradeError Plan)
  | ran (outcome : Except (Halt UpgradeError) Report)
  /-- There is no runner of this name. -/
  | unknown

/-- What came of an operation. -/
structure Record where
  answer : Answer
  journal : Journal
  /-- The database after it. -/
  database : Database

/-- Lets a runner work over the connection. -/
def Bench.use {ε α : Type} (bench : Bench) (name : String) (work : Runner → Work Site ε α)
    (answer : Except ε α → Answer) : Record × Bench :=
  match bench.runners name with
  | none => (⟨.unknown, [], bench.site.database⟩, bench)
  | some runner =>
    let done := work runner bench.site
    (⟨answer done.outcome, done.journal, done.state.database⟩, { bench with site := done.state })

namespace Operation

/-- Does an operation. -/
def perform (bench : Bench) : Operation → Record × Bench
  | .start name =>
    (⟨.ready, [], bench.site.database⟩,
      { bench with drafts := Function.update bench.drafts name {} })
  | .set name setting =>
    let (draft, events) := (bench.drafts name).add bench.site.toSurroundings setting
    (⟨.ready, events.map .logged, bench.site.database⟩,
      { bench with drafts := Function.update bench.drafts name draft })
  | .build name =>
    match (bench.drafts name).build with
    | .error error => (⟨.refused error, [], bench.site.database⟩, bench)
    | .ok runner =>
      (⟨.built runner.keys runner.tableName, [], bench.site.database⟩,
        { bench with runners := Function.update bench.runners name (some runner) })
  | .plan name => bench.use name Runner.plan .planned
  | .run name => bench.use name Runner.run .ran

/-- Whether an operation does nothing but inject a sink. -/
def isInjection : Operation → Bool
  | .set _ (.logger _) => true
  | _ => false

end Operation

/-- An operation with the bench on which it is done. -/
structure Step where
  bench : Bench
  operation : Operation

/-- What came of a step. -/
def Step.record (step : Step) : Record := (step.operation.perform step.bench).1

/-- Does operations in order.  The injections of sinks are not counted as steps. -/
def Bench.performAll (bench : Bench) : List Operation → List Step × Bench
  | [] => ([], bench)
  | operation :: rest =>
    let (steps, last) := (operation.perform bench).2.performAll rest
    (if operation.isInjection then steps else ⟨bench, operation⟩ :: steps, last)

/-! ## Operations without what they say about logging -/

/-- A setting without the routes of its migrations. -/
def Setting.unlogged : Setting → Setting
  | .migration added => .migration added.unlogged
  | .migrations added => .migrations (added.map Migration.unlogged)
  | setting => setting

/-- An operation without what it says about logging: injections are left out, and migrations have no
routes. -/
def Operation.unlogged? : Operation → Option Operation
  | .set _ (.logger _) => none
  | .set name setting => some (.set name setting.unlogged)
  | operation => some operation

/-- Operations without what they say about logging. -/
def Operation.unlogged (operations : List Operation) : List Operation :=
  operations.filterMap Operation.unlogged?

theorem Setting.unlogged_cases {setting other : Setting} (h : setting.unlogged = other.unlogged) :
    setting = other ∨
    (∃ migration migration', setting = .migration migration ∧ other = .migration migration' ∧
      migration.unlogged = migration'.unlogged) ∨
    (∃ migrations migrations', setting = .migrations migrations ∧ other = .migrations migrations' ∧
      migrations.map Migration.unlogged = migrations'.map Migration.unlogged) := by
  cases setting <;> cases other <;> simp_all [unlogged]

/-! ## Drafts -/

/-- Two drafts that differ only in their routes and those of their migrations. -/
structure Draft.Alike (draft other : Draft) : Prop where
  dialect : other.dialect = draft.dialect
  migrations : other.migrations.map Migration.unlogged = draft.migrations.map Migration.unlogged
  tableName : other.tableName = draft.tableName
  cancel : other.cancel = draft.cancel
  error : other.error = draft.error

theorem Draft.Alike.refl (draft : Draft) : draft.Alike draft := ⟨rfl, rfl, rfl, rfl, rfl⟩

section Drafts

variable {contrast : Contrast} {draft other : Draft}

/-- The scripts of a directory are found in the same order, and told on the routes in force. -/
theorem scriptsAmong_alike {route route' : Log.Route}
    (hroutes : ∀ notice, contrast.routes route route' notice) (directory : String)
    (entries : List DirectoryEntry) :
    (scriptsAmong contrast.theirs route' directory entries).1.map Migration.unlogged
        = (scriptsAmong contrast.ours route directory entries).1.map Migration.unlogged ∧
      contrast.Journals ((scriptsAmong contrast.ours route directory entries).2.map .logged)
        ((scriptsAmong contrast.theirs route' directory entries).2.map .logged) := by
  induction entries with
  | nil => exact ⟨rfl, .nil⟩
  | cons entry rest ih =>
    rcases hours : scriptsAmong contrast.ours route directory rest with ⟨migrations, events⟩
    rcases htheirs : scriptsAmong contrast.theirs route' directory rest with ⟨migrations', events'⟩
    rw [hours, htheirs] at ih
    obtain ⟨hmigrations, hjournal⟩ := ih
    rw [scriptsAmong, scriptsAmong, hours, htheirs]
    cases hregular : entry.isRegular with
    | false => exact ⟨hmigrations, hjournal⟩
    | true =>
      simp only [if_true, List.map_cons, List.map_append, hmigrations]
      exact ⟨rfl, .told (hroutes _) hjournal⟩

theorem scriptsIn_alike {route route' : Log.Route}
    (hroutes : ∀ notice, contrast.routes route route' notice) (directory : String) :
    ((∃ error, scriptsIn ⟨contrast.files, contrast.ours⟩ route directory = (.error error, []) ∧
        scriptsIn ⟨contrast.files, contrast.theirs⟩ route' directory = (.error error, [])) ∨
    (∃ migrations migrations' events events',
      scriptsIn ⟨contrast.files, contrast.ours⟩ route directory = (.ok migrations, events) ∧
      scriptsIn ⟨contrast.files, contrast.theirs⟩ route' directory = (.ok migrations', events') ∧
      migrations'.map Migration.unlogged = migrations.map Migration.unlogged ∧
      contrast.Journals (events.map .logged) (events'.map .logged))) := by
  rw [scriptsIn, scriptsIn]
  cases hentries : contrast.files.entries directory with
  | error cause => exact .inl ⟨_, rfl, rfl⟩
  | ok entries =>
    obtain ⟨hmigrations, hjournal⟩ := scriptsAmong_alike hroutes directory entries
    exact .inr ⟨_, _, _, _, rfl, rfl, hmigrations, hjournal⟩

/-- Settings that differ only in routes leave drafts alike that were so before. -/
theorem Draft.Alike.apply {setting setting' : Setting} (h : draft.Alike other)
    (hsame : setting.unlogged = setting'.unlogged)
    (hroutes : ∀ notice, contrast.routes draft.route other.route notice) :
    (draft.apply ⟨contrast.files, contrast.ours⟩ setting).1.Alike
        (other.apply ⟨contrast.files, contrast.theirs⟩ setting').1 ∧
      contrast.Journals
        ((draft.apply ⟨contrast.files, contrast.ours⟩ setting).2.map .logged)
        ((other.apply ⟨contrast.files, contrast.theirs⟩ setting').2.map .logged) := by
  have hmore : ∀ {added added' : List Migration},
      added'.map Migration.unlogged = added.map Migration.unlogged →
      Draft.Alike { draft with migrations := draft.migrations ++ added }
        { other with migrations := other.migrations ++ added' } := by
    intro added added' hadded
    refine ⟨h.dialect, ?_, h.tableName, h.cancel, h.error⟩
    rw [List.map_append, List.map_append, h.migrations, hadded]
  rcases Setting.unlogged_cases hsame with
    rfl | ⟨migration, migration', rfl, rfl, hmigration⟩ | ⟨added, added', rfl, rfl, hadded⟩
  · cases setting with
    | dialect dialect => exact ⟨⟨rfl, h.migrations, h.tableName, h.cancel, h.error⟩, .nil⟩
    | migration migration => exact ⟨hmore rfl, .nil⟩
    | migrations migrations => exact ⟨hmore rfl, .nil⟩
    | file path => exact ⟨hmore rfl, .nil⟩
    | directory path =>
      rcases scriptsIn_alike hroutes path with
        ⟨error, hours, htheirs⟩ |
        ⟨migrations, migrations', events, events', hours, htheirs, hmigrations, hjournal⟩
      · simp only [Draft.apply, hours, htheirs]
        exact ⟨⟨h.dialect, h.migrations, h.tableName, h.cancel, rfl⟩, .nil⟩
      · simp only [Draft.apply, hours, htheirs]
        exact ⟨hmore hmigrations, hjournal⟩
    | tableName name =>
      rw [Draft.apply, Draft.apply]
      cases TableName.check name with
      | ok _ => exact ⟨⟨h.dialect, h.migrations, rfl, h.cancel, h.error⟩, .nil⟩
      | error error => exact ⟨⟨h.dialect, h.migrations, h.tableName, h.cancel, rfl⟩, .nil⟩
    | logger sink => exact ⟨⟨h.dialect, h.migrations, h.tableName, h.cancel, h.error⟩, .nil⟩
    | cancel flag => exact ⟨⟨h.dialect, h.migrations, h.tableName, rfl, h.error⟩, .nil⟩
  · refine ⟨hmore ?_, .nil⟩
    rw [List.map_singleton, List.map_singleton, hmigration]
  · exact ⟨hmore hadded.symm, .nil⟩

theorem Draft.Alike.add {setting setting' : Setting} (h : draft.Alike other)
    (hsame : setting.unlogged = setting'.unlogged)
    (hroutes : ∀ notice, contrast.routes draft.route other.route notice) :
    (draft.add ⟨contrast.files, contrast.ours⟩ setting).1.Alike
        (other.add ⟨contrast.files, contrast.theirs⟩ setting').1 ∧
      contrast.Journals
        ((draft.add ⟨contrast.files, contrast.ours⟩ setting).2.map .logged)
        ((other.add ⟨contrast.files, contrast.theirs⟩ setting').2.map .logged) := by
  rw [Draft.add, Draft.add, h.error]
  cases draft.error with
  | some error => exact ⟨h, .nil⟩
  | none => exact h.apply hsame hroutes

/-- An injection is noticed by nobody, and leaves the draft as it was but for its route. -/
theorem Draft.add_injection (draft : Draft) (around : Surroundings) (sink : Log.Sink) :
    draft.Alike (draft.add around (.logger sink)).1 ∧ (draft.add around (.logger sink)).2 = [] := by
  rw [Draft.add]
  cases draft.error with
  | some error => exact ⟨.refl draft, rfl⟩
  | none => exact ⟨⟨rfl, rfl, rfl, rfl, rfl⟩, rfl⟩

theorem Draft.Alike.symm (h : draft.Alike other) : other.Alike draft :=
  ⟨h.dialect.symm, h.migrations.symm, h.tableName.symm, h.cancel.symm, h.error.symm⟩

theorem Draft.Alike.trans {third : Draft} (h : draft.Alike other) (h' : other.Alike third) :
    draft.Alike third :=
  ⟨h'.dialect.trans h.dialect, h'.migrations.trans h.migrations, h'.tableName.trans h.tableName,
    h'.cancel.trans h.cancel, h'.error.trans h.error⟩

/-- Sorting looks at the keys alone. -/
theorem map_unlogged_sortByKey (migrations : List Migration) :
    (sortByKey migrations).map Migration.unlogged
      = sortByKey (migrations.map Migration.unlogged) := by
  refine List.map_mergeSort ?_
  intro a _ b _
  rw [Migration.keyLe, Migration.keyLe, a.key_unlogged, b.key_unlogged]

/-- Drafts that differ only in their routes are refused for the same reason, or make runners that
differ only in theirs. -/
theorem Draft.Alike.build (h : draft.Alike other) :
    (∃ error, draft.build = .error error ∧ other.build = .error error) ∨
    (∃ runner runner', draft.build = .ok runner ∧ other.build = .ok runner' ∧
      runner.Alike runner') := by
  obtain ⟨dialect, migrations, tableName, route, cancel, error⟩ := draft
  obtain ⟨dialect', migrations', tableName', route', cancel', error'⟩ := other
  obtain ⟨hdialect, hmigrations, htable, hcancel, herror⟩ := h
  dsimp only at hdialect hmigrations htable hcancel herror
  subst hdialect htable hcancel herror
  have hnone : migrations' = [] ↔ migrations = [] := by
    rw [← List.map_eq_nil_iff, hmigrations, List.map_eq_nil_iff]
  have hsorted : (sortByKey migrations').map Migration.unlogged
      = (sortByKey migrations).map Migration.unlogged := by
    rw [map_unlogged_sortByKey, map_unlogged_sortByKey, hmigrations]
  rw [Draft.build, Draft.build]
  cases error' with
  | some error => exact .inl ⟨error, rfl, rfl⟩
  | none =>
    cases dialect' with
    | none => exact .inl ⟨_, rfl, rfl⟩
    | some dialect =>
      by_cases hempty : migrations = []
      · simp only [hempty, hnone.2 hempty]
        exact .inl ⟨_, rfl, rfl⟩
      · have hempty' : migrations' ≠ [] := fun h => hempty (hnone.1 h)
        simp only [dif_neg hempty, dif_neg hempty']
        split
        · exact .inl ⟨_, rfl, rfl⟩
        · exact .inr ⟨_, _, rfl, rfl, rfl, hsorted, rfl, rfl⟩

end Drafts

/-! ## Benches that differ only in what is logged -/

/-- Two benches that differ only in the log settings of the process, in the routes of the drafts and
the runners, and in those of their migrations. -/
structure Bench.Alike (ours theirs : Log.Settings) (bench other : Bench) : Prop where
  logging : bench.site.logging = ours
  site : other.site = { bench.site with logging := theirs }
  drafts : ∀ name, (bench.drafts name).Alike (other.drafts name)
  runners : ∀ name, (bench.runners name = none ∧ other.runners name = none) ∨
    ∃ runner runner', bench.runners name = some runner ∧ other.runners name = some runner' ∧
      runner.Alike runner'

/-- Who tells what in an operation, and on which route. -/
def Bench.Speaks (bench : Bench) (operation : Operation) (route : Log.Route)
    (notice : Log.Notice) : Prop :=
  match operation with
  | .start _ | .build _ => False
  | .set name _ => route = (bench.drafts name).route
  | .plan name | .run name =>
    ∃ runner, bench.runners name = some runner ∧ runner.Speaks bench.site.files route notice

/-- Two log set-ups, and the routes on which two operations speak. -/
def Bench.contrast (ours theirs : Log.Settings) (bench other : Bench)
    (operation operation' : Operation) : Contrast where
  files := bench.site.files
  ours := ours
  theirs := theirs
  routes route route' notice :=
    bench.Speaks operation route notice ∧ other.Speaks operation' route' notice

/-- What comes of the same operation: the same answer, database and work, and benches that are still
alike. -/
structure Contrast.SameWay (contrast : Contrast) (done other : Record × Bench) : Prop where
  answer : other.1.answer = done.1.answer
  database : other.1.database = done.1.database
  journal : contrast.Journals done.1.journal other.1.journal
  alike : done.2.Alike contrast.ours contrast.theirs other.2

section Benches

variable {ours theirs : Log.Settings} {bench other : Bench} {name : String}

theorem Bench.Alike.database (h : bench.Alike ours theirs other) :
    other.site.database = bench.site.database := by
  rw [h.site]

/-- Benches stay alike if drafts that are alike are put under one name. -/
theorem Bench.Alike.update_drafts (h : bench.Alike ours theirs other) {draft draft' : Draft}
    (hdraft : draft.Alike draft') :
    Bench.Alike ours theirs { bench with drafts := Function.update bench.drafts name draft }
      { other with drafts := Function.update other.drafts name draft' } := by
  refine ⟨h.logging, h.site, ?_, h.runners⟩
  intro name'
  by_cases hname : name' = name
  · subst hname
    simpa only [Function.update_self] using hdraft
  · simpa only [Function.update_of_ne hname] using h.drafts name'

theorem Bench.Alike.update_runners (h : bench.Alike ours theirs other) {runner runner' : Runner}
    (hrunner : runner.Alike runner') :
    Bench.Alike ours theirs
      { bench with runners := Function.update bench.runners name (some runner) }
      { other with runners := Function.update other.runners name (some runner') } := by
  refine ⟨h.logging, h.site, h.drafts, ?_⟩
  intro name'
  by_cases hname : name' = name
  · subst hname
    simp only [Function.update_self]
    exact .inr ⟨runner, runner', rfl, rfl, hrunner⟩
  · simpa only [Function.update_of_ne hname] using h.runners name'

/-- In an operation that uses a runner, its notices may take the routes on which it speaks. -/
theorem Bench.Alike.between {operation : Operation} (h : bench.Alike ours theirs other)
    (huses : ∀ (bench : Bench) (route : Log.Route) (notice : Log.Notice),
      bench.Speaks operation route notice ↔ ∃ runner, bench.runners name = some runner ∧
        runner.Speaks bench.site.files route notice)
    {runner runner' : Runner} (hours : bench.runners name = some runner)
    (htheirs : other.runners name = some runner') :
    (bench.contrast ours theirs other operation operation).Between runner runner' := by
  intro route route' notice hspeaks hspeaks'
  refine ⟨(huses _ _ _).2 ⟨runner, hours, hspeaks⟩, (huses _ _ _).2 ⟨runner', htheirs, ?_⟩⟩
  rw [h.site]
  exact hspeaks'

namespace Contrast

variable {contrast : Contrast}

theorem sameWay_start (h : bench.Alike contrast.ours contrast.theirs other) :
    contrast.SameWay ((Operation.start name).perform bench)
      ((Operation.start name).perform other) :=
  ⟨rfl, h.database, .nil, h.update_drafts (.refl _)⟩

theorem sameWay_set {setting setting' : Setting}
    (h : bench.Alike contrast.ours contrast.theirs other)
    (hfiles : contrast.files = bench.site.files)
    (hroutes : ∀ notice,
      contrast.routes (bench.drafts name).route (other.drafts name).route notice)
    (hsame : setting.unlogged = setting'.unlogged) :
    contrast.SameWay ((Operation.set name setting).perform bench)
      ((Operation.set name setting').perform other) := by
  have hours : bench.site.toSurroundings = ⟨contrast.files, contrast.ours⟩ := by
    rw [hfiles, ← h.logging]
  have htheirs : other.site.toSurroundings = ⟨contrast.files, contrast.theirs⟩ := by
    rw [hfiles, h.site]
  obtain ⟨hdraft, hjournal⟩ := (h.drafts name).add hsame hroutes
  refine ⟨rfl, h.database, ?_, ?_⟩
  · rw [Operation.perform, Operation.perform, hours, htheirs]
    exact hjournal
  · rw [Operation.perform, Operation.perform, hours, htheirs]
    exact h.update_drafts hdraft

theorem sameWay_build (h : bench.Alike contrast.ours contrast.theirs other) :
    contrast.SameWay ((Operation.build name).perform bench)
      ((Operation.build name).perform other) := by
  rw [Operation.perform, Operation.perform]
  rcases (h.drafts name).build with
    ⟨error, hours, htheirs⟩ | ⟨runner, runner', hours, htheirs, hrunner⟩
  · rw [hours, htheirs]
    exact ⟨rfl, h.database, .nil, h⟩
  · rw [hours, htheirs]
    refine ⟨?_, h.database, .nil, h.update_runners hrunner⟩
    dsimp only
    rw [hrunner.keys, hrunner.tableName]

/-- Runners that are alike are used in the same way if their work takes the same course. -/
theorem sameWay_use {ε α : Type} {work : Runner → Work Site ε α} {answer : Except ε α → Answer}
    (tells : ε → String → Prop) (h : bench.Alike contrast.ours contrast.theirs other)
    (hfiles : contrast.files = bench.site.files)
    (hcourse : ∀ runner runner', bench.runners name = some runner →
      other.runners name = some runner' → runner.Alike runner' →
        Course contrast.terms tells none (work runner) (work runner')) :
    contrast.SameWay (bench.use name work answer) (other.use name work answer) := by
  have hread : contrast.terms.At bench.site := congrArg Files.read hfiles.symm
  have hother : other.site
      = { bench.site with toSurroundings := ⟨contrast.files, contrast.theirs⟩ } := by
    rw [hfiles, h.site]
  rw [Bench.use, Bench.use]
  rcases h.runners name with ⟨hours, htheirs⟩ | ⟨runner, runner', hours, htheirs, hrunner⟩
  · rw [hours, htheirs]
    exact ⟨rfl, h.database, .nil, h⟩
  · have hsame := hcourse runner runner' hours htheirs hrunner
    have haround := (hsame.keeps hread).1
    obtain ⟨houtcome, hstate, hjournal⟩ :=
      hsame.twins ⟨contrast.files, contrast.theirs⟩ rfl rfl hread h.logging
    rw [← hother] at houtcome hstate hjournal
    have hfiles' : (work runner bench.site).state.files = contrast.files := by
      rw [haround, hfiles]
    have hsite : (work runner' other.site).state
        = { (work runner bench.site).state with logging := contrast.theirs } := by
      rw [hstate, ← hfiles']
    have hdatabase := congrArg Site.database hsite
    have hlogging : (work runner bench.site).state.logging = contrast.ours := by
      rw [haround, h.logging]
    rw [hours, htheirs]
    exact ⟨congrArg answer houtcome, hdatabase, hjournal, hlogging, hsite, h.drafts, h.runners⟩

end Contrast

/-- The same operation is done in the same way on benches that differ only in what is logged. -/
theorem Operation.sameWay (h : bench.Alike ours theirs other) (operation : Operation) :
    (bench.contrast ours theirs other operation operation).SameWay (operation.perform bench)
      (operation.perform other) := by
  cases operation with
  | start name => exact Contrast.sameWay_start h
  | set name setting => exact Contrast.sameWay_set h rfl (fun _ => ⟨rfl, rfl⟩) rfl
  | build name => exact Contrast.sameWay_build h
  | plan name =>
    refine Contrast.sameWay_use UpgradeError.Tells h rfl ?_
    intro runner runner' hours htheirs hrunner
    have hbetween : (bench.contrast ours theirs other (.plan name) (.plan name)).Between runner
        runner' := h.between (fun _ _ _ => Iff.rfl) hours htheirs
    exact Runner.course_plan hrunner (hbetween.covers hrunner).tells_ofRun
  | run name =>
    refine Contrast.sameWay_use Halt.Tells h rfl ?_
    intro runner runner' hours htheirs hrunner
    have hbetween : (bench.contrast ours theirs other (.run name) (.run name)).Between runner
        runner' := h.between (fun _ _ _ => Iff.rfl) hours htheirs
    exact Runner.course_run (hbetween.covers hrunner)

/-! ## Sequences of operations -/

/-- The same operation but for what it says about logging, the same answer, the same calls with the
same outcomes, the same database, and the same notices in the same order.  On each side a notice is
told on one route, on which that side speaks, and delivered as the settings of that side say. -/
structure Step.Alike (ours theirs : Log.Settings) (step other : Step) : Prop where
  operation : other.operation.unlogged? = step.operation.unlogged?
  answer : other.record.answer = step.record.answer
  exchanges : other.record.journal.exchanges = step.record.journal.exchanges
  database : other.record.database = step.record.database
  told : ∃ tellings : List (Log.Route × Log.Route × Log.Notice),
    (∀ told ∈ tellings, step.bench.Speaks step.operation told.1 told.2.2 ∧
      other.bench.Speaks other.operation told.2.1 told.2.2) ∧
    step.record.journal.events = tellings.filterMap (fun told => ours.deliver told.1 told.2.2) ∧
    other.record.journal.events
      = tellings.filterMap fun told => theirs.deliver told.2.1 told.2.2

theorem Contrast.SameWay.step {operation operation' : Operation}
    (h : (bench.contrast ours theirs other operation operation').SameWay
      (operation.perform bench) (operation'.perform other))
    (hsame : operation'.unlogged? = operation.unlogged?) :
    Step.Alike ours theirs ⟨bench, operation⟩ ⟨other, operation'⟩ :=
  ⟨hsame, h.answer, h.journal.exchanges, h.database, h.journal.tellings⟩

section Erasure

variable {operation operation' erased : Operation} {setting : Setting}

theorem Operation.unlogged?_set (h : (Operation.set name setting).unlogged? = some erased) :
    erased = .set name setting.unlogged := by
  cases setting <;> simp_all [unlogged?, Setting.unlogged]

/-- An operation that is left out injects a sink. -/
theorem Operation.eq_injection (h : operation.unlogged? = none) :
    ∃ name sink, operation = .set name (.logger sink) := by
  cases operation with
  | set name setting => cases setting <;> simp_all [unlogged?]
  | _ => exact absurd h (by simp [unlogged?])

/-- Operations that differ only in what they say about logging are the same, unless they add
migrations to a draft. -/
theorem Operation.eq_or_set_of_unlogged? (h : operation.unlogged? = some erased)
    (h' : operation'.unlogged? = some erased) :
    operation' = operation ∨ ∃ name setting setting', operation = .set name setting ∧
      operation' = .set name setting' ∧ setting.unlogged = setting'.unlogged := by
  cases operation with
  | set name setting =>
    obtain rfl := unlogged?_set h
    cases operation' with
    | set name' setting' =>
      obtain ⟨rfl, hsetting⟩ := Operation.set.inj (unlogged?_set h')
      exact .inr ⟨name, setting, setting', rfl, rfl, hsetting⟩
    | _ => exact absurd h' (by simp [unlogged?])
  | _ =>
    obtain rfl := Option.some.inj h
    cases operation' with
    | set name' setting' => exact absurd (unlogged?_set h') (by simp)
    | _ => exact .inl (Option.some.inj h')

theorem Operation.isInjection_of_unlogged? (h : operation.unlogged? = some erased) :
    operation.isInjection = false := by
  cases operation with
  | set name setting => cases setting <;> simp_all [unlogged?, isInjection]
  | _ => rfl

end Erasure

/-- Operations that differ only in what they say about logging are alike as steps, and leave benches
that are. -/
theorem Operation.step_alike {operation operation' erased : Operation}
    (h : bench.Alike ours theirs other) (hours : operation.unlogged? = some erased)
    (htheirs : operation'.unlogged? = some erased) :
    Step.Alike ours theirs ⟨bench, operation⟩ ⟨other, operation'⟩ ∧
      (operation.perform bench).2.Alike ours theirs (operation'.perform other).2 := by
  have hsame : (bench.contrast ours theirs other operation operation').SameWay
      (operation.perform bench) (operation'.perform other) := by
    rcases eq_or_set_of_unlogged? hours htheirs with
      rfl | ⟨name, setting, setting', rfl, rfl, hsetting⟩
    · exact sameWay h operation'
    · exact Contrast.sameWay_set h rfl (fun _ => ⟨rfl, rfl⟩) hsetting
  exact ⟨hsame.step (htheirs.trans hours.symm), hsame.alike⟩

/-- An injection leaves a bench alike that was so before. -/
theorem Bench.Alike.inject_left (h : bench.Alike ours theirs other) (sink : Log.Sink) :
    ((Operation.set name (.logger sink)).perform bench).2.Alike ours theirs other := by
  obtain ⟨hdraft, -⟩ := (bench.drafts name).add_injection bench.site.toSurroundings sink
  have hnext : Bench.Alike ours theirs ((Operation.set name (.logger sink)).perform bench).2
      { other with drafts := Function.update other.drafts name (other.drafts name) } :=
    h.update_drafts (hdraft.symm.trans (h.drafts name))
  rwa [Function.update_eq_self] at hnext

theorem Bench.Alike.inject_right (h : bench.Alike ours theirs other) (sink : Log.Sink) :
    bench.Alike ours theirs ((Operation.set name (.logger sink)).perform other).2 := by
  obtain ⟨hdraft, -⟩ := (other.drafts name).add_injection other.site.toSurroundings sink
  have hnext : Bench.Alike ours theirs
      { bench with drafts := Function.update bench.drafts name (bench.drafts name) }
      ((Operation.set name (.logger sink)).perform other).2 :=
    h.update_drafts ((h.drafts name).trans hdraft)
  rwa [Function.update_eq_self] at hnext

/-- What an injection answers does not depend on anything: nothing is told, called or changed. -/
theorem Operation.perform_injection (bench : Bench) (name : String) (sink : Log.Sink) :
    ((Operation.set name (.logger sink)).perform bench).1 = ⟨.ready, [], bench.site.database⟩ := by
  obtain ⟨-, hevents⟩ := (bench.drafts name).add_injection bench.site.toSurroundings sink
  rw [perform]
  dsimp only
  rw [hevents]
  rfl

theorem Bench.performAll_injection (bench : Bench) (name : String) (sink : Log.Sink)
    (rest : List Operation) :
    bench.performAll (.set name (.logger sink) :: rest)
      = ((Operation.set name (.logger sink)).perform bench).2.performAll rest := rfl

theorem Bench.performAll_cons {operation : Operation} (h : operation.isInjection = false)
    (bench : Bench) (rest : List Operation) :
    bench.performAll (operation :: rest)
      = (⟨bench, operation⟩ :: ((operation.perform bench).2.performAll rest).1,
        ((operation.perform bench).2.performAll rest).2) := by
  rw [performAll, h]
  rfl

namespace Operation

/-- Two sequences of operations, matched but for the injections on either side. -/
inductive Matched : List Operation → List Operation → Prop where
  | nil : Matched [] []
  | injectLeft {operations others : List Operation} (name : String) (sink : Log.Sink)
      (hrest : Matched operations others) :
      Matched (.set name (.logger sink) :: operations) others
  | injectRight {operations others : List Operation} (name : String) (sink : Log.Sink)
      (hrest : Matched operations others) :
      Matched operations (.set name (.logger sink) :: others)
  | both {operation operation' erased : Operation} {operations others : List Operation}
      (hours : operation.unlogged? = some erased) (htheirs : operation'.unlogged? = some erased)
      (hrest : Matched operations others) :
      Matched (operation :: operations) (operation' :: others)

/-- Injections at the front of the second sequence are passed first. -/
theorem Matched.passRight {operations others : List Operation} {erased : Operation}
    {rest : List Operation} (hothers : unlogged others = erased :: rest)
    (h : ∀ operation' others', operation'.unlogged? = some erased → unlogged others' = rest →
      Matched operations (operation' :: others')) :
    Matched operations others := by
  induction others with
  | nil => exact absurd hothers (by simp [unlogged])
  | cons operation' others' ih =>
    rw [unlogged, List.filterMap_cons] at hothers
    cases hfirst : operation'.unlogged? with
    | none =>
      obtain ⟨name, sink, rfl⟩ := eq_injection hfirst
      rw [hfirst] at hothers
      exact .injectRight name sink (ih hothers)
    | some erased' =>
      rw [hfirst] at hothers
      obtain ⟨rfl, hrest⟩ := List.cons.inj hothers
      exact h operation' others' hfirst hrest

/-- Sequences that differ only in what they say about logging are matched. -/
theorem matched_of_unlogged {operations others : List Operation}
    (h : unlogged operations = unlogged others) : Matched operations others := by
  induction operations generalizing others with
  | nil =>
    induction others with
    | nil => exact .nil
    | cons operation' others' ih =>
      rw [unlogged, unlogged, List.filterMap_cons] at h
      cases hfirst : operation'.unlogged? with
      | none =>
        obtain ⟨name, sink, rfl⟩ := eq_injection hfirst
        rw [hfirst] at h
        exact .injectRight name sink (ih h)
      | some erased =>
        rw [hfirst] at h
        exact absurd h (by simp)
  | cons operation operations ih =>
    rw [unlogged, List.filterMap_cons] at h
    cases hfirst : operation.unlogged? with
    | none =>
      obtain ⟨name, sink, rfl⟩ := eq_injection hfirst
      rw [hfirst] at h
      exact .injectLeft name sink (ih h)
    | some erased =>
      rw [hfirst] at h
      refine Matched.passRight h.symm ?_
      intro operation' others' hfirst' hrest
      exact .both hfirst hfirst' (ih hrest.symm)

end Operation

/-- Matched sequences of operations are alike step by step, and leave alike benches. -/
theorem Operation.Matched.performAll_alike {operations others : List Operation}
    (hmatched : Matched operations others) (h : bench.Alike ours theirs other) :
    List.Forall₂ (Step.Alike ours theirs) (bench.performAll operations).1
        (other.performAll others).1 ∧
      (bench.performAll operations).2.Alike ours theirs (other.performAll others).2 := by
  induction hmatched generalizing bench other with
  | nil => exact ⟨.nil, h⟩
  | injectLeft name sink _ ih =>
    rw [Bench.performAll_injection]
    exact ih (h.inject_left sink)
  | injectRight name sink _ ih =>
    rw [Bench.performAll_injection]
    exact ih (h.inject_right sink)
  | both hours htheirs _ ih =>
    obtain ⟨hstep, hnext⟩ := step_alike h hours htheirs
    obtain ⟨hsteps, hlast⟩ := ih hnext
    rw [Bench.performAll_cons (isInjection_of_unlogged? hours),
      Bench.performAll_cons (isInjection_of_unlogged? htheirs)]
    exact ⟨.cons hstep hsteps, hlast⟩

end Benches

/-! ## Where notices go -/

/-- The sink that a setting injects, if it does. -/
def Setting.sink? : Setting → Option Log.Sink
  | .logger sink => some sink
  | _ => none

/-- The route after settings: to the sink that they injected last, or the one before them. -/
def Log.Route.after (route : Route) (settings : List Setting) : Route :=
  ((settings.filterMap Setting.sink?).getLast?.map .toSink).getD route

namespace Draft

variable (around : Surroundings)

/-- Only an injection turns the notices of a draft elsewhere. -/
theorem route_apply (draft : Draft) (setting : Setting) :
    (draft.apply around setting).1.route = (setting.sink?.map .toSink).getD draft.route := by
  cases setting with
  | directory path =>
    rw [apply]
    split <;> rfl
  | tableName name =>
    rw [apply]
    split <;> rfl
  | _ => rfl

/-- Nothing has any effect on a draft with an error. -/
theorem addAll_of_error {draft : Draft} {error : UpgradeError} (h : draft.error = some error)
    (settings : List Setting) : draft.addAll around settings = (draft, []) := by
  induction settings with
  | nil => rfl
  | cons setting rest ih =>
    have hadd : draft.add around setting = (draft, []) := by rw [add, h]
    simp [addAll, hadd, ih]

/-- A draft without an error tells its notices to the sink that was injected last. -/
theorem route_addAll {draft : Draft} {settings : List Setting}
    (h : (draft.addAll around settings).1.error = none) :
    (draft.addAll around settings).1.route = draft.route.after settings := by
  induction settings generalizing draft with
  | nil => rfl
  | cons setting rest ih =>
    cases herror : draft.error with
    | some error =>
      rw [addAll_of_error around herror] at h
      exact absurd (herror.symm.trans h) (by simp)
    | none =>
      have hadd : draft.add around setting = draft.apply around setting := by rw [add, herror]
      rw [addAll, hadd] at h ⊢
      refine (ih h).trans ?_
      rw [Log.Route.after, route_apply]
      rw [Log.Route.after, List.filterMap_cons]
      cases setting.sink? with
      | none => rfl
      | some sink =>
        rw [List.getLast?_cons]
        cases (rest.filterMap Setting.sink?).getLast? <;> rfl

/-- A runner tells its notices where its draft did. -/
theorem route_build {draft : Draft} {runner : Runner} (h : draft.build = .ok runner) :
    runner.route = draft.route := by
  rw [build] at h
  split at h
  · cases h
  · split at h
    · cases h
    · split at h
      · cases h
      · split at h
        · cases h
        · obtain rfl := Except.ok.inj h
          rfl

end Draft

namespace Log.Settings

variable (settings : Settings) (notice : Notice) (event : Event)

/-- An injected sink hears what it enables, whatever the process admits. -/
theorem deliver_toSink_eq_some (sink : Sink) :
    settings.deliver (.toSink sink) notice = some event ↔
      sink.enabled notice.level notice.target ∧ event = ⟨some sink.name, notice⟩ := by
  rw [deliver]
  split
  · next hadmits => simp [hadmits, eq_comm]
  · next hadmits => simp [hadmits]

/-- The logger of the process hears what it enables below the ceiling of the process. -/
theorem deliver_ofProcess_eq_some :
    settings.deliver .ofProcess notice = some event ↔
      (settings.maxLevel.admits notice.level ∧ settings.enabled notice.level notice.target) ∧
        event = ⟨none, notice⟩ := by
  rw [deliver, ← Bool.and_eq_true]
  split
  · next hadmits => simp [hadmits, eq_comm]
  · next hadmits => simp [hadmits]

end Log.Settings

/-! ## The theorem -/

/-- Logging never influences what is done.  Operations that differ only in what they say about
logging, on benches that differ only in the log settings, give the same answers, make the same calls
and leave the same databases, step by step; and an injection makes no difference to these.  Every
event is a notice that was told on one route: to the sink that was injected last, which hears what
it enables, or else to the logger of the process, which hears what it enables below the ceiling of
the process.  What is enabled is any choice of levels and targets. -/
theorem Bench.logging_is_indifferent (ours theirs : Log.Settings) (site : Site)
    {operations others : List Operation}
    (hsame : Operation.unlogged operations = Operation.unlogged others) :
    let first := ({ site := { site with logging := ours } } : Bench).performAll operations
    let second := ({ site := { site with logging := theirs } } : Bench).performAll others
    (List.Forall₂ (Step.Alike ours theirs) first.1 second.1 ∧
      second.2.site = { first.2.site with logging := theirs }) ∧
    (∀ (bench : Bench) (name : String) (sink : Log.Sink),
      ((Operation.set name (.logger sink)).perform bench).1
        = ⟨.ready, [], bench.site.database⟩) ∧
    (∀ (around : Surroundings) (settings : List Setting),
      (({} : Draft).addAll around settings).1.error = none →
        (({} : Draft).addAll around settings).1.route = Log.Route.ofProcess.after settings ∧
        ∀ runner, (({} : Draft).addAll around settings).1.build = .ok runner →
          runner.route = Log.Route.ofProcess.after settings) ∧
    ∀ (settings : Log.Settings) (notice : Log.Notice) (event : Log.Event),
      (∀ sink, settings.deliver (.toSink sink) notice = some event ↔
        sink.enabled notice.level notice.target ∧ event = ⟨some sink.name, notice⟩) ∧
      (settings.deliver .ofProcess notice = some event ↔
        (settings.maxLevel.admits notice.level ∧ settings.enabled notice.level notice.target) ∧
          event = ⟨none, notice⟩) := by
  intro first second
  have halike : Bench.Alike ours theirs { site := { site with logging := ours } }
      { site := { site with logging := theirs } } :=
    ⟨rfl, rfl, fun _ => .refl _, fun _ => .inl ⟨rfl, rfl⟩⟩
  obtain ⟨hsteps, hlast⟩ := (Operation.matched_of_unlogged hsame).performAll_alike halike
  refine ⟨⟨hsteps, hlast.site⟩, Operation.perform_injection, ?_, ?_⟩
  · intro around settings hnone
    refine ⟨Draft.route_addAll around hnone, ?_⟩
    intro runner hbuild
    exact (Draft.route_build hbuild).trans (Draft.route_addAll around hnone)
  · intro settings notice event
    exact ⟨settings.deliver_toSink_eq_some notice event,
      settings.deliver_ofProcess_eq_some notice event⟩

/-- An upgrade that is set up, planned and run, once with a sink that hears everything, and once
with no sink but that of its migration, which asks for another target, in a process that logs only
errors. -/
theorem Bench.logging_is_indifferent_oneScript :
    let sql := "CREATE TABLE a (id INT)"
    let grave : Log.Settings := { enabled := fun level _ => level = .error }
    let around (settings : List Setting) : List Operation :=
      settings.map (.set "upgrade") ++ [.build "upgrade", .plan "upgrade", .run "upgrade"]
    let told := around [.dialect Vendor.duckDb.dialect, .logger { name := "audit" },
      .migration (.script "01" sql (.toSink { name := "steps" }))]
    let silent := around [.dialect Vendor.duckDb.dialect,
      .migration (.script "01" sql
        (.toSink { name := "steps", enabled := fun _ target => target = "st_db::duckdb" }))]
    let first := ({ site := { logging := {} } } : Bench).performAll told
    let second := ({ site := { logging := grave } } : Bench).performAll silent
    Operation.unlogged told = Operation.unlogged silent ∧
      (first.1.map fun step => step.record.journal.events)
        = [[], [], [], [⟨some "audit", .noHistory⟩],
          [⟨some "audit", .noHistory⟩, ⟨some "audit", .applying "01"⟩,
            ⟨some "steps", .step "01" 0⟩, ⟨some "audit", .applied "01"⟩]] ∧
      (second.1.map fun step => step.record.journal.events) = [[], [], [], [], []] ∧
      List.Forall₂ (Step.Alike {} grave) first.1 second.1 ∧
      second.2.site = { first.2.site with logging := grave } := by
  intro sql grave around told silent first second
  have hsame : Operation.unlogged told = Operation.unlogged silent := rfl
  obtain ⟨hours, htheirs⟩ : (first.1.map fun step => step.record.journal.events)
        = [[], [], [], [⟨some "audit", .noHistory⟩],
          [⟨some "audit", .noHistory⟩, ⟨some "audit", .applying "01"⟩,
            ⟨some "steps", .step "01" 0⟩, ⟨some "audit", .applied "01"⟩]] ∧
      (second.1.map fun step => step.record.journal.events) = [[], [], [], [], []] := by
    decide +kernel
  exact ⟨hsame, hours, htheirs, (Bench.logging_is_indifferent {} grave {} hsame).1⟩

end SchemaUpgrade
