import SchemaUpgrade.Cli.Commands
import SchemaUpgrade.Proofs.Drafting
import SchemaUpgrade.Proofs.Failures
/-!
# Nothing is asked of a database before everything is set up

There are two ways into an upgrade.  Whoever has a connection builds a draft and runs it: the engine
is called exactly if the draft can be built, and an error lies in the setup exactly if it cannot
(`Draft.Guarded`).  The commands have no connection yet: they call nothing unless the configuration
can be used, and nothing but the opening of the database unless that succeeds and the migrations are
set up well (`Cli.Guarded`).

That a draft which was built is run to its first call needs a sound connection, since a poisoned one
refuses before the engine is called.  The connection of a command is always sound, as it is new.

## Main definitions

* `Draft.Made`: a draft that was made by adding settings.
* `Cli.Usable`, `Cli.Unusable`: a configuration that can be used, and why there may be none.
* `Draft.Guarded`, `Cli.Guarded`: when the engine is called.
-/

namespace SchemaUpgrade

open Engine

/-! ## Errors of the setup -/

theorem TableName.isSetup_of_check {name : String} {error : UpgradeError}
    (h : TableName.check name = .error error) : error.isSetup = true := by
  rw [TableName.check] at h
  split at h
  · obtain rfl := Except.error.inj h
    rfl
  · split at h
    · exact absurd h (by simp)
    · obtain rfl := Except.error.inj h
      rfl

theorem isSetup_of_scriptsIn {around : Surroundings} {route : Log.Route} {directory : String}
    {error : UpgradeError} (h : (scriptsIn around route directory).1 = .error error) :
    error.isSetup = true := by
  rw [scriptsIn] at h
  split at h
  · obtain rfl := Except.error.inj h
    rfl
  · exact absurd h (by simp)

namespace Draft

/-- A draft that was made by adding settings, one after another, each with what surrounded it at
its time. -/
inductive Made : Draft → Prop where
  | start : Made {}
  | set {draft : Draft} (h : Made draft) (around : Surroundings) (setting : Setting) :
      Made (draft.add around setting).1

variable {draft : Draft} {error : UpgradeError}

/-- A setting that fails leaves an error of the setup. -/
theorem isSetup_of_apply {around : Surroundings} {setting : Setting} (hnone : draft.error = none)
    (h : (draft.apply around setting).1.error = some error) : error.isSetup = true := by
  have hkept : draft.error ≠ some error := by simp [hnone]
  cases setting with
  | directory path =>
    rw [apply] at h
    rcases hscripts : scriptsIn around draft.route path with ⟨cause | migrations, events⟩
    · rw [hscripts] at h
      obtain rfl : cause = error := Option.some.inj h
      exact isSetup_of_scriptsIn (congrArg Prod.fst hscripts)
    · rw [hscripts] at h
      exact absurd h hkept
  | tableName name =>
    rw [apply] at h
    cases hcheck : TableName.check name with
    | error cause =>
      rw [hcheck] at h
      obtain rfl : cause = error := Option.some.inj h
      exact TableName.isSetup_of_check hcheck
    | ok _ =>
      rw [hcheck] at h
      exact absurd h hkept
  | dialect _ => exact absurd h hkept
  | migration _ => exact absurd h hkept
  | migrations _ => exact absurd h hkept
  | file _ => exact absurd h hkept
  | logger _ => exact absurd h hkept
  | cancel _ => exact absurd h hkept

/-- The error that a draft remembers lies in the setup. -/
theorem Made.isSetup (h : draft.Made) (herror : draft.error = some error) :
    error.isSetup = true := by
  induction h with
  | start => exact absurd herror (by simp)
  | @set draft h around setting ih =>
    rw [add] at herror
    cases hbefore : draft.error with
    | some before =>
      simp only [hbefore] at herror
      exact ih (hbefore.trans herror)
    | none =>
      simp only [hbefore] at herror
      exact isSetup_of_apply hbefore herror

/-- A draft that cannot be built says what is wrong with the setup. -/
theorem Made.isSetup_of_build (h : draft.Made) (hbuild : draft.build = .error error) :
    error.isSetup = true := by
  rw [build] at hbuild
  split at hbuild
  · rename_i other herror
    obtain rfl : other = error := Except.error.inj hbuild
    exact h.isSetup herror
  · split at hbuild
    · obtain rfl := Except.error.inj hbuild
      rfl
    · split at hbuild
      · obtain rfl := Except.error.inj hbuild
        rfl
      · split at hbuild
        · rename_i other hcheck
          obtain rfl : other = error := Except.error.inj hbuild
          exact TableName.isSetup_of_check hcheck
        · exact absurd hbuild (by simp)

/-- What keeps a draft from being built: an error that it remembers, no dialect, no migration, or a
name that may not be written into SQL. -/
theorem build_fails_iff (draft : Draft) :
    (∃ error, draft.build = .error error) ↔
      draft.error ≠ none ∨ draft.dialect = none ∨ draft.migrations = [] ∨
        TableName.check draft.tableName ≠ .ok () := by
  rw [build]
  split
  · rename_i error herror
    exact iff_of_true ⟨error, rfl⟩ (.inl (by simp [herror]))
  · rename_i hnone
    split
    · rename_i hdialect
      exact iff_of_true ⟨_, rfl⟩ (.inr (.inl hdialect))
    · rename_i dialect hdialect
      split
      · rename_i hempty
        exact iff_of_true ⟨_, rfl⟩ (.inr (.inr (.inl hempty)))
      · rename_i hmigrations
        split
        · rename_i error hcheck
          exact iff_of_true ⟨_, rfl⟩ (.inr (.inr (.inr (by simp [hcheck]))))
        · rename_i hcheck
          refine iff_of_false (by simp) ?_
          simp [hnone, hdialect, hmigrations, hcheck]

/-- A flag that cancels the run does not matter to the setup. -/
theorem build_fails_cancel_iff (draft : Draft) (around : Surroundings) (flag : CancelFlag) :
    (∃ error, (draft.add around (.cancel flag)).1.build = .error error)
      ↔ ∃ error, draft.build = .error error := by
  rw [add]
  cases herror : draft.error with
  | some error => rfl
  | none =>
    rw [build_fails_iff, build_fails_iff]
    simp [apply, herror]

/-- A runner has the migrations of its draft. -/
theorem mem_migrations_of_build {runner : Runner} (hbuild : draft.build = .ok runner)
    {migration : Migration} (hmem : migration ∈ runner.migrations) :
    migration ∈ draft.migrations := by
  rw [build] at hbuild
  split at hbuild
  · exact absurd hbuild (by simp)
  · split at hbuild
    · exact absurd hbuild (by simp)
    · split at hbuild
      · exact absurd hbuild (by simp)
      · split at hbuild
        · exact absurd hbuild (by simp)
        · obtain rfl := Except.ok.inj hbuild
          exact (sortByKey_perm draft.migrations).mem_iff.1 hmem

end Draft

/-! ## The first call -/

/-- The journal of two pieces of work starts with that of the first. -/
theorem Work.exists_journal_bind {σ ε α β : Type} (work : Work σ ε α) (next : α → Work σ ε β)
    (s : σ) : ∃ more, ((work >>= next) s).journal = (work s).journal ++ more := by
  rcases Work.bind_cases work next s with
    ⟨e, t, journal, hwork, hbind⟩ | ⟨a, t, journal, hwork, hbind⟩
  · rw [hbind, hwork]
    exact ⟨[], (List.append_nil journal).symm⟩
  · rw [hbind, hwork]
    exact ⟨(next a t).journal, rfl⟩

namespace Runner

variable {site : Site}

/-- The first thing that a runner asks of a sound connection is to open a transaction. -/
theorem calls_listing (runner : Runner) (hsound : site.poisoned = false) :
    ∃ more, (runner.listing site).journal.calls = .batch beginText :: more := by
  have hbegin : (Connection.begin site).journal.calls = [.batch beginText] := by
    rw [Connection.begin, Connection.lock_bind hsound, Work.mapError_apply]
    rcases Site.call_cases (.batch beginText) (Database.batch beginText) site with
      ⟨message, faults, hcall⟩ | ⟨answer, database, faults, -, hcall⟩ <;>
    · rw [Site.batch, hcall]
      rfl
  obtain ⟨first, hfirst⟩ : ∃ more, (runner.dialect.ensureTable runner.tableName site).journal
      = (Connection.begin site).journal ++ more := Work.exists_journal_bind _ _ site
  obtain ⟨second, hsecond⟩ : ∃ more, (runner.listing site).journal
      = (runner.dialect.ensureTable runner.tableName site).journal ++ more :=
    Work.exists_journal_bind _ _ site
  refine ⟨first.calls ++ second.calls, ?_⟩
  rw [hsecond, hfirst, Journal.calls_append, Journal.calls_append, hbegin, List.append_assoc]
  rfl

theorem calls_plan_of_sound (runner : Runner) (hsound : site.poisoned = false) :
    ∃ more, (runner.plan site).journal.calls = .batch beginText :: more := by
  rw [calls_plan]
  exact runner.calls_listing hsound

theorem calls_run_of_sound (runner : Runner) (hsound : site.poisoned = false) :
    ∃ more, (runner.run site).journal.calls = .batch beginText :: more := by
  obtain ⟨planned, hplan⟩ := runner.calls_plan_of_sound hsound
  obtain ⟨more, hrun⟩ : ∃ more, (runner.run site).journal
      = (runner.plan.mapError Halt.failure site).journal ++ more :=
    Work.exists_journal_bind _ _ site
  rw [Work.mapError_apply] at hrun
  refine ⟨planned ++ Journal.calls more, ?_⟩
  rw [hrun, Journal.calls_append, hplan]
  rfl

end Runner

/-! ## Running a draft -/

namespace Draft

variable {draft : Draft} {site : Site}

theorem run_of_build_error {error : UpgradeError} (h : draft.build = .error error) (site : Site) :
    draft.run site = ⟨.error (.failure error), site, []⟩ := by
  rw [run, h]
  exact Work.bind_of_error (Work.fail_apply site _)

theorem run_of_build {runner : Runner} (h : draft.build = .ok runner) (site : Site) :
    draft.run site = runner.run site := by
  rw [run, h]
  exact Work.bind_of_silent (Work.pure_apply site runner)

/-- No migration of the draft ends itself with an error of the setup. -/
def SparesSetup (draft : Draft) (files : Files) : Prop :=
  ∀ migration ∈ draft.migrations, ∀ error : UpgradeError, error.isSetup = true →
    .stop (.failure error) ∉ migration.instructions files

/-- The engine is called if the draft can be built, and what cannot be built is blamed on the
setup. -/
structure Guarded (draft : Draft) (site : Site) : Prop where
  /-- No call is made exactly if the draft cannot be built. -/
  calls : (draft.run site).journal.calls = [] ↔ ∃ error, draft.build = .error error
  /-- An error lies in the setup exactly if the draft cannot be built, unless a migration ends
  itself with such an error. -/
  setup : draft.SparesSetup site.files →
    ((∃ error, (draft.run site).outcome = .error (.failure error) ∧ error.isSetup = true)
      ↔ ∃ error, draft.build = .error error)

theorem Made.guarded (h : draft.Made) (hsound : site.poisoned = false) : draft.Guarded site := by
  cases hbuild : draft.build with
  | error error =>
    have hrun := run_of_build_error hbuild site
    have hsetup := h.isSetup_of_build hbuild
    have herror : ∃ other, draft.build = .error other := ⟨error, hbuild⟩
    refine ⟨iff_of_true ?_ herror, fun _ => iff_of_true ?_ herror⟩
    · rw [hrun]
      rfl
    · rw [hrun]
      exact ⟨error, rfl, hsetup⟩
  | ok runner =>
    have hrun := run_of_build hbuild site
    have hbuilt : ¬ ∃ error, draft.build = .error error := by simp [hbuild]
    refine ⟨iff_of_false ?_ hbuilt, fun hspares => iff_of_false ?_ hbuilt⟩
    · obtain ⟨more, hcalls⟩ := runner.calls_run_of_sound hsound
      simp [hrun, hcalls]
    · rintro ⟨error, houtcome, hsetup⟩
      rw [hrun] at houtcome
      -- Of the reasons to fail, only the word of a migration may be one of the setup.
      cases Runner.run_fails houtcome with
      | database hblames =>
        rw [UpgradeError.isSetup_of_blamesDatabase hblames] at hsetup
        exact absurd hsetup (by simp)
      | history mismatch => exact absurd hsetup (by simp [UpgradeError.isSetup])
      | cancelled count => exact absurd hsetup (by simp [UpgradeError.isSetup])
      | own hmem hstop =>
        exact hspares _ (mem_migrations_of_build hbuild hmem) error hsetup hstop

end Draft

/-! ## The configuration of a command -/

namespace Cli

/-- What the file at a path holds, if it can be read and is a text. -/
def textAt? (files : Files) (path : String) : Option String :=
  match files.read path with
  | .ok bytes => Text.decodeUtf8 bytes
  | .error _ => none

/-- The paths at which an invocation looks for its configuration, in order. -/
def configPaths (invocation : Invocation) : List String :=
  match invocation.config with
  | some path => [path]
  | none => Config.fileNames.map (joinPath invocation.projectDir)

/-- The configuration file of an invocation, if there is one. -/
def configFile? (files : Files) (invocation : Invocation) : Option String :=
  (configPaths invocation).find? files.isPresent

/-- The configuration file holds this configuration, before its values are looked at. -/
def Holds (files : Files) (invocation : Invocation) (config : Config) : Prop :=
  ∃ path text, configFile? files invocation = some path ∧ textAt? files path = some text ∧
    Config.ofYaml text = .ok config

/-- Why an invocation has no configuration that it can use. -/
inductive Unusable (files : Files) (invocation : Invocation) : Prop where
  /-- There is no configuration file. -/
  | missing (h : configFile? files invocation = none)
  /-- The file cannot be read, or is no text. -/
  | unreadable {path : String} (hfile : configFile? files invocation = some path)
      (h : textAt? files path = none)
  /-- The text is no configuration. -/
  | malformed {path text : String} {misfit : Yaml.Misfit}
      (hfile : configFile? files invocation = some path) (htext : textAt? files path = some text)
      (h : Config.ofYaml text = .error misfit)
  /-- A value is not allowed. -/
  | invalid {config : Config} {error : ConfigError} (hholds : Holds files invocation config)
      (h : config.validate = .error error)
  /-- The dialect does not run on the database. -/
  | unsupported {config : Config} (hholds : Holds files invocation config)
      (hvalid : config.validate = .ok ())
      (h : config.vendor.runsOn Connection.databaseType = false)

/-- A configuration that an invocation can use. -/
structure Usable (files : Files) (invocation : Invocation) (config : Config) : Prop where
  holds : Holds files invocation config
  valid : config.validate = .ok ()
  supported : config.vendor.runsOn Connection.databaseType = true

variable {files : Files} {invocation : Invocation} {config : Config}

theorem unusable_or_usable (files : Files) (invocation : Invocation) :
    Unusable files invocation ∨ ∃ config, Usable files invocation config := by
  cases hfile : configFile? files invocation with
  | none => exact .inl (.missing hfile)
  | some path =>
    cases htext : textAt? files path with
    | none => exact .inl (.unreadable hfile htext)
    | some text =>
      cases hyaml : Config.ofYaml text with
      | error misfit => exact .inl (.malformed hfile htext hyaml)
      | ok config =>
        have hholds : Holds files invocation config := ⟨path, text, hfile, htext, hyaml⟩
        cases hvalid : config.validate with
        | error error => exact .inl (.invalid hholds hvalid)
        | ok _ =>
          cases hruns : config.vendor.runsOn Connection.databaseType with
          | false => exact .inl (.unsupported hholds hvalid hruns)
          | true => exact .inr ⟨config, hholds, hvalid, hruns⟩

/-- Loading the configuration is loading the file that there is. -/
theorem loadConfig_eq (files : Files) (invocation : Invocation) :
    ∃ stage path, loadConfig files invocation
      = (match configFile? files invocation with
          | some path => Config.load files path
          | none => .error (.notFound path)).mapError (.config stage) := by
  rw [loadConfig, configFile?, configPaths]
  cases invocation.config with
  | none =>
    refine ⟨.projectConfig, joinPath invocation.projectDir (Config.fileNames.headD ""), ?_⟩
    dsimp only
    unfold Config.loadFrom
    cases (Config.fileNames.map (joinPath invocation.projectDir)).find? files.isPresent <;> rfl
  | some path =>
    refine ⟨.namedConfig, path, ?_⟩
    dsimp only
    cases hpresent : files.isPresent path with
    | true => simp [hpresent]
    | false => simp [hpresent, Config.load]

theorem isPresent_of_configFile? {path : String}
    (h : configFile? files invocation = some path) : files.isPresent path = true :=
  List.find?_some h

theorem load_of_unreadable {path : String} (hpresent : files.isPresent path = true)
    (h : textAt? files path = none) :
    ∃ message, Config.load files path = .error (.parse path message) := by
  rw [textAt?] at h
  rw [Config.load, if_pos hpresent]
  cases hread : files.read path with
  | error cause => exact ⟨_, rfl⟩
  | ok bytes =>
    rw [hread] at h
    dsimp only at h ⊢
    rw [h]
    exact ⟨_, rfl⟩

theorem load_of_text {path text : String} (hpresent : files.isPresent path = true)
    (h : textAt? files path = some text) :
    Config.load files path = Config.parseAt path text := by
  rw [textAt?] at h
  rw [Config.load, if_pos hpresent]
  cases hread : files.read path with
  | error cause =>
    rw [hread] at h
    exact absurd h (by simp)
  | ok bytes =>
    rw [hread] at h
    dsimp only at h ⊢
    rw [h]

theorem parseAt_of_ok {text : String} (path : String) (h : Config.ofYaml text = .ok config) :
    Config.parseAt path text = config.validate.map fun () => config := by
  unfold Config.parseAt
  generalize Config.ofYaml text = answer at h ⊢
  rw [h]

theorem parseAt_of_error {text : String} {misfit : Yaml.Misfit} (path : String)
    (h : Config.ofYaml text = .error misfit) :
    Config.parseAt path text = .error (.parse path misfit.message) := by
  unfold Config.parseAt
  generalize Config.ofYaml text = answer at h ⊢
  rw [h]

/-- A file that holds a configuration is loaded if the values are allowed. -/
theorem loadConfig_of_holds (h : Holds files invocation config) :
    ∃ stage, loadConfig files invocation
      = (config.validate.map fun () => config).mapError (.config stage) := by
  obtain ⟨path, text, hfile, htext, hyaml⟩ := h
  obtain ⟨stage, other, hload⟩ := loadConfig_eq files invocation
  have hparse := load_of_text (isPresent_of_configFile? hfile) htext
  refine ⟨stage, ?_⟩
  rw [hload, hfile]
  dsimp only
  rw [hparse, parseAt_of_ok path hyaml]

theorem loadConfig_of_usable (h : Usable files invocation config) :
    loadConfig files invocation = .ok config := by
  obtain ⟨stage, hload⟩ := loadConfig_of_holds h.holds
  rw [hload, h.valid]
  rfl

/-- A configuration that cannot be used is not loaded, or its dialect is refused. -/
theorem refused_of_unusable (h : Unusable files invocation) :
    (∃ failure, loadConfig files invocation = .error failure) ∨
    (∃ config error, loadConfig files invocation = .ok config ∧
      config.checkDatabaseType Connection.databaseType = .error error) := by
  obtain ⟨stage, other, hload⟩ := loadConfig_eq files invocation
  cases h with
  | missing hfile =>
    rw [hload, hfile]
    exact .inl ⟨_, rfl⟩
  | unreadable hfile hnone =>
    obtain ⟨message, herror⟩ := load_of_unreadable (isPresent_of_configFile? hfile) hnone
    rw [hload, hfile]
    dsimp only
    rw [herror]
    exact .inl ⟨_, rfl⟩
  | malformed hfile htext hyaml =>
    have hparse := load_of_text (isPresent_of_configFile? hfile) htext
    rw [hload, hfile]
    dsimp only
    rw [hparse, parseAt_of_error _ hyaml]
    exact .inl ⟨_, rfl⟩
  | invalid hholds hinvalid =>
    obtain ⟨stage, hall⟩ := loadConfig_of_holds hholds
    rw [hall, hinvalid]
    exact .inl ⟨_, rfl⟩
  | @unsupported config hholds hvalid hruns =>
    obtain ⟨stage, hall⟩ := loadConfig_of_holds hholds
    have hrefused : ∃ error, config.checkDatabaseType Connection.databaseType = .error error := by
      rw [Config.checkDatabaseType, if_neg (by simp [hruns])]
      exact ⟨_, rfl⟩
    obtain ⟨error, hcheck⟩ := hrefused
    rw [hvalid] at hall
    exact .inr ⟨config, error, hall, hcheck⟩

/-! ## The stages of a command -/

variable {host : Host}

/-- A remark only prints. -/
theorem exists_console_remark (invocation : Invocation) (text : String) (host : Host) :
    ∃ console, remark invocation text host = ⟨.ok (), { host with console := console }, []⟩ := by
  rw [remark]
  split
  · exact ⟨_, rfl⟩
  · exact ⟨host.console, rfl⟩

theorem remark_apply (invocation : Invocation) (text : String) (host : Host) :
    ∃ after, remark invocation text host = ⟨.ok (), after, []⟩ ∧
      after.toSurroundings = host.toSurroundings ∧ ∀ id, after.site id = host.site id := by
  obtain ⟨console, hremark⟩ := exists_console_remark invocation text host
  exact ⟨_, hremark, rfl, fun _ => rfl⟩

/-- A configuration that cannot be used stops a command before anything happens. -/
theorem openProject_of_unusable (h : Unusable host.files invocation) :
    ∃ failure, openProject invocation host = ⟨.error failure, host, []⟩ := by
  rcases refused_of_unusable h with ⟨failure, hload⟩ | ⟨config, error, hload, hcheck⟩
  · refine ⟨failure, ?_⟩
    rw [openProject, Work.bind_of_silent (Work.state_apply host), hload]
    exact Work.bind_of_error (Work.fail_apply host failure)
  · refine ⟨.config .dialect error, ?_⟩
    rw [openProject, Work.bind_of_silent (Work.state_apply host), hload, Work.ofExcept_ok,
      pure_bind, hcheck]
    exact Work.bind_of_error (Work.fail_apply host _)

/-- The place of the database of an invocation. -/
def location (config : Config) (invocation : Invocation) : Location :=
  .ofText (databasePath config invocation)

/-- A connection that was just opened is sound. -/
theorem connect_cases (location : Location) (host : Host) :
    (∃ message failure after, (host.server.connect location).1 = .error message ∧
      Host.connect location host
        = ⟨.error failure, after, [.called (.connect location) (some message)]⟩) ∨
    (∃ number id after, (host.server.connect location).1 = .ok number ∧
      Host.connect location host = ⟨.ok id, after, [.called (.connect location) none]⟩ ∧
      after.toSurroundings = host.toSurroundings ∧ (after.site id).poisoned = false) := by
  rcases hconnect : host.server.connect location with ⟨message | number, server⟩
  · refine .inl ⟨message, Host.connectError location message, { host with server := server },
      rfl, ?_⟩
    simp only [Host.connect, hconnect]
  · refine .inr ⟨number, ⟨host.connections.length⟩, { host with
      server := server, connections := host.connections ++ [{ database := number }] }, rfl, ?_,
      rfl, ?_⟩
    · simp only [Host.connect, hconnect]
    · simp [Host.site, Host.connection]

/-- What is left to do with a configuration that can be used is to open the database. -/
theorem openProject_eq (h : Usable host.files invocation config) :
    openProject invocation host = ((Host.connect (location config invocation)).mapError
      (.database (.connect (databasePath config invocation))) >>= fun connection => do
        remark invocation ("database=" ++ databasePath config invocation ++ " dialect="
          ++ config.vendor.name ++ " table=" ++ config.tableName)
        pure { config, connection }) host := by
  have hcheck : config.checkDatabaseType Connection.databaseType = .ok () := by
    rw [Config.checkDatabaseType, if_pos h.supported]
  have hpass : Work.ofExcept ((config.checkDatabaseType Connection.databaseType).mapError
      (.config .dialect)) = (pure () : Work Host Failure Unit) := by
    rw [hcheck]
    rfl
  rw [openProject, Work.bind_of_silent (Work.state_apply host), loadConfig_of_usable h,
    Work.ofExcept_ok, pure_bind, hpass, pure_bind]
  rfl

/-- A project whose database was opened is open; what comes after is a remark. -/
theorem openProject_of_connect {id : ConnectionId} {ready : Host} {journal : Journal}
    (h : Usable host.files invocation config)
    (hconnect : Host.connect (location config invocation) host = ⟨.ok id, ready, journal⟩) :
    ∃ console, openProject invocation host
      = ⟨.ok { config := config, connection := id }, { ready with console := console },
        journal⟩ := by
  obtain ⟨console, hremark⟩ := exists_console_remark invocation ("database="
    ++ databasePath config invocation ++ " dialect=" ++ config.vendor.name
    ++ " table=" ++ config.tableName) ready
  refine ⟨console, ?_⟩
  rw [openProject_eq h, ← List.append_nil journal]
  exact Work.bind_of_ok_of (Work.mapError_of_ok hconnect)
    (Work.bind_of_ok_of hremark (Work.pure_apply _ _))

/-- A configuration that can be used leads to the call that opens the database. -/
theorem openProject_of_usable (h : Usable host.files invocation config) :
    (∃ message failure after,
      (host.server.connect (location config invocation)).1 = .error message ∧
      openProject invocation host = ⟨.error failure, after,
        [.called (.connect (location config invocation)) (some message)]⟩) ∨
    (∃ number id after, (host.server.connect (location config invocation)).1 = .ok number ∧
      openProject invocation host = ⟨.ok { config := config, connection := id }, after,
        [.called (.connect (location config invocation)) none]⟩ ∧
      after.toSurroundings = host.toSurroundings ∧ (after.site id).poisoned = false) := by
  rcases connect_cases (location config invocation) host with
    ⟨message, failure, after, hrefused, hconnect⟩ |
    ⟨number, id, ready, hopened, hconnect, haround, hsound⟩
  · exact .inl ⟨message, _, after, hrefused,
      (openProject_eq h).trans (Work.bind_of_error (Work.mapError_of_error hconnect))⟩
  · obtain ⟨console, hopen⟩ := openProject_of_connect h hconnect
    exact .inr ⟨number, id, _, hopened, hopen, haround, hsound⟩

/-- Setting up the migrations only tells events, and ends as the draft is built. -/
theorem setUp_cases (opened : Opened) (root : String) (more : List Setting) (host : Host) :
    let draft := (({} : Draft).addAll host.toSurroundings (opened.config.settings root ++ more)).1
    (∃ error, ∃ events : List Log.Event, draft.build = .error error ∧
      setUp opened root more host
        = ⟨.error (.upgrade .setup error), host, events.map .logged⟩) ∨
    (∃ runner, ∃ events : List Log.Event, draft.build = .ok runner ∧
      setUp opened root more host = ⟨.ok runner, host, events.map .logged⟩) := by
  rcases hmade : ({} : Draft).addAll host.toSurroundings (opened.config.settings root ++ more) with
    ⟨draft, events⟩
  have hdraft : (Host.setUp fun around => ({} : Draft).addAll around
      (opened.config.settings root ++ more) : Work Host Failure Draft) host
        = ⟨.ok draft, host, events.map .logged⟩ := by
    rw [Host.setUp, hmade]
  cases hbuild : draft.build with
  | error error =>
    refine .inl ⟨error, events, hbuild, ?_⟩
    rw [setUp, Work.bind_of_ok hdraft, hbuild]
    simp [Except.mapError]
  | ok runner =>
    refine .inr ⟨runner, events, hbuild, ?_⟩
    rw [setUp, Work.bind_of_ok hdraft, hbuild]
    simp [Except.mapError]

/-- The settings that a command adds to those of the configuration. -/
def moreSettings : Command → List Setting
  | .migrate => [.cancel .interruption]
  | .status => []

/-- What a command does over the connection that it has opened. -/
def overConnection (runner : Runner) : Command → Site → Journal
  | .migrate, site => (runner.run site).journal
  | .status, site => (runner.plan site).journal

/-- A command whose project cannot be opened ends there. -/
theorem execute_of_unopened {failure : Failure} {after : Host} {journal : Journal}
    (h : openProject invocation host = ⟨.error failure, after, journal⟩) :
    execute invocation host = ⟨.error failure, after, journal⟩ := by
  rw [execute]
  cases invocation.command with
  | migrate => exact Work.bind_of_error h
  | status => exact Work.bind_of_error h

variable {opened : Opened} {ready last : Host} {front events : Journal}

/-- A command whose migrations are not set up well ends there. -/
theorem execute_of_not_set_up {failure : Failure}
    (hopen : openProject invocation host = ⟨.ok opened, ready, front⟩)
    (hsetUp : setUp opened invocation.projectDir (moreSettings invocation.command) ready
      = ⟨.error failure, last, events⟩) :
    execute invocation host = ⟨.error failure, last, front ++ events⟩ := by
  rw [execute]
  cases hcommand : invocation.command with
  | migrate =>
    rw [hcommand] at hsetUp
    exact Work.bind_of_ok_of hopen (Work.bind_of_error hsetUp)
  | status =>
    rw [hcommand] at hsetUp
    exact Work.bind_of_ok_of hopen (Work.bind_of_error hsetUp)

/-- A command whose migrations are set up well goes on to plan or to run them. -/
theorem exists_journal_execute {runner : Runner}
    (hopen : openProject invocation host = ⟨.ok opened, ready, front⟩)
    (hsetUp : setUp opened invocation.projectDir (moreSettings invocation.command) ready
      = ⟨.ok runner, last, events⟩) :
    ∃ more, (execute invocation host).journal = front ++ (events
      ++ (overConnection runner invocation.command (last.site opened.connection) ++ more)) := by
  rw [execute]
  cases hcommand : invocation.command with
  | migrate =>
    rw [hcommand, moreSettings] at hsetUp
    obtain ⟨after, hremark, -, hsite⟩ := remark_apply invocation
      (toString runner.keys.length ++ " migration(s) configured") last
    have hrun : ((Host.through opened.connection runner.run).attempt : Work Host Failure _) after
        = ⟨.ok _, _, _⟩ := Work.attempt_apply after _
    dsimp only
    rw [migrate, Work.bind_of_ok hopen, Work.bind_of_ok hsetUp, Work.bind_of_ok hremark,
      Work.bind_of_ok hrun, ← hsite]
    exact ⟨_, rfl⟩
  | status =>
    rw [hcommand, moreSettings] at hsetUp
    obtain ⟨more, hmore⟩ : ∃ more, (((Host.through opened.connection runner.plan).mapError
        (Failure.upgrade .plan) >>= fun plan => printPlan plan invocation.output) last).journal
          = (runner.plan (last.site opened.connection)).journal ++ more :=
      Work.exists_journal_bind _ _ last
    dsimp only
    rw [status, Work.bind_of_ok hopen, Work.bind_of_ok hsetUp, hmore]
    exact ⟨more, rfl⟩

/-! ## When a command calls the engine -/

/-- The draft of a project's upgrade. -/
def draftOf (config : Config) (invocation : Invocation) (host : Host) : Draft :=
  (config.draft host.toSurroundings invocation.projectDir).1

/-- What a command adds to the settings of the configuration does not matter to the setup. -/
theorem build_fails_moreSettings_iff (config : Config) (invocation : Invocation) (host : Host) :
    (∃ error, (({} : Draft).addAll host.toSurroundings
      (config.settings invocation.projectDir ++ moreSettings invocation.command)).1.build
        = .error error)
      ↔ ∃ error, (draftOf config invocation host).build = .error error := by
  rw [Draft.addAll_append]
  cases invocation.command with
  | migrate => exact Draft.build_fails_cancel_iff _ _ _
  | status => exact Iff.rfl

/-- The database cannot be opened, or the migrations are not set up well. -/
def Unready (config : Config) (invocation : Invocation) (host : Host) : Prop :=
  (∃ message, (host.server.connect (location config invocation)).1 = .error message) ∨
    ∃ error, (draftOf config invocation host).build = .error error

/-- With a configuration that can be used, the database is opened first.  That is all that is asked
of the engine exactly if it fails or the migrations are not set up well. -/
theorem calls_execute_of_usable (h : Usable host.files invocation config) :
    (Unready config invocation host ∧
      (execute invocation host).journal.calls = [.connect (location config invocation)]) ∨
    (¬ Unready config invocation host ∧ ∃ more, (execute invocation host).journal.calls
      = .connect (location config invocation) :: .batch beginText :: more) := by
  rcases openProject_of_usable h with
    ⟨message, failure, after, hrefused, hopen⟩ |
    ⟨number, id, ready, hopened, hopen, haround, hsound⟩
  · refine .inl ⟨.inl ⟨message, hrefused⟩, ?_⟩
    rw [execute_of_unopened hopen]
    rfl
  · have hbuild := build_fails_moreSettings_iff config invocation host
    rw [← haround] at hbuild
    rcases setUp_cases { config := config, connection := id } invocation.projectDir
        (moreSettings invocation.command) ready with
      ⟨error, events, hfails, hsetUp⟩ | ⟨runner, events, hbuilt, hsetUp⟩
    · refine .inl ⟨.inr (hbuild.1 ⟨error, hfails⟩), ?_⟩
      rw [execute_of_not_set_up hopen hsetUp]
      simp [Journal.calls, Entry.call?]
    · refine .inr ⟨?_, ?_⟩
      · rintro (⟨message, hrefused⟩ | hfails)
        · exact absurd (hopened.symm.trans hrefused) (by simp)
        · obtain ⟨error, herror⟩ := hbuild.2 hfails
          exact absurd (hbuilt.symm.trans herror) (by simp)
      · obtain ⟨more, hjournal⟩ := exists_journal_execute hopen hsetUp
        obtain ⟨rest, hcalls⟩ : ∃ rest, (overConnection runner invocation.command
            (ready.site id)).calls = .batch beginText :: rest := by
          cases invocation.command with
          | migrate => exact runner.calls_run_of_sound hsound
          | status => exact runner.calls_plan_of_sound hsound
        refine ⟨rest ++ Journal.calls more, ?_⟩
        rw [hjournal, Journal.calls_append, Journal.calls_append, Journal.calls_append,
          Journal.calls_logged, hcalls]
        rfl

/-- A command calls the engine only as far as everything before the call has succeeded. -/
structure Guarded (invocation : Invocation) (host : Host) : Prop where
  /-- No call is made, not even to open the database, exactly if the configuration cannot be used.
  -/
  none_iff : (execute invocation host).journal.calls = [] ↔ Unusable host.files invocation
  /-- The database is opened first.  That is the only call exactly if it fails or the migrations are
  not set up well. -/
  one_iff : ∀ config, Usable host.files invocation config →
    (execute invocation host).journal.calls.head? = some (.connect (location config invocation)) ∧
    ((execute invocation host).journal.calls = [.connect (location config invocation)]
      ↔ Unready config invocation host)
  /-- So a statement is executed only if all of this has succeeded. -/
  statement : ∀ call ∈ (execute invocation host).journal.calls, call.faultPoint ≠ .connect →
    ∃ config number runner, Usable host.files invocation config ∧
      (host.server.connect (location config invocation)).1 = .ok number ∧
      (draftOf config invocation host).build = .ok runner

theorem calls_execute_of_unusable (h : Unusable host.files invocation) :
    (execute invocation host).journal.calls = [] := by
  obtain ⟨failure, hopen⟩ := openProject_of_unusable h
  rw [execute_of_unopened hopen]
  rfl

theorem ready_of_not_unready (h : ¬ Unready config invocation host) :
    ∃ number runner, (host.server.connect (location config invocation)).1 = .ok number ∧
      (draftOf config invocation host).build = .ok runner := by
  cases hconnect : (host.server.connect (location config invocation)).1 with
  | error message => exact absurd (.inl ⟨message, hconnect⟩) h
  | ok number =>
    cases hbuild : (draftOf config invocation host).build with
    | error error => exact absurd (.inr ⟨error, hbuild⟩) h
    | ok runner => exact ⟨number, runner, rfl, rfl⟩

theorem guarded (invocation : Invocation) (host : Host) : Guarded invocation host := by
  refine ⟨⟨fun hnone => ?_, calls_execute_of_unusable⟩, fun config husable => ?_,
    fun call hmem hstatement => ?_⟩
  · rcases unusable_or_usable host.files invocation with hunusable | ⟨config, husable⟩
    · exact hunusable
    · rcases calls_execute_of_usable husable with ⟨-, hcalls⟩ | ⟨-, more, hcalls⟩
      · exact absurd (hcalls.symm.trans hnone) (by simp)
      · exact absurd (hcalls.symm.trans hnone) (by simp)
  · rcases calls_execute_of_usable husable with ⟨hunready, hcalls⟩ | ⟨hready, more, hcalls⟩
    · exact ⟨by rw [hcalls]; rfl, iff_of_true hcalls hunready⟩
    · exact ⟨by rw [hcalls]; rfl, iff_of_false (by simp [hcalls]) hready⟩
  · rcases unusable_or_usable host.files invocation with hunusable | ⟨config, husable⟩
    · rw [calls_execute_of_unusable hunusable] at hmem
      exact absurd hmem List.not_mem_nil
    · rcases calls_execute_of_usable husable with ⟨-, hcalls⟩ | ⟨hready, -⟩
      · rw [hcalls] at hmem
        obtain rfl := List.eq_of_mem_singleton hmem
        exact absurd rfl hstatement
      · obtain ⟨number, runner, hopened, hbuilt⟩ := ready_of_not_unready hready
        exact ⟨config, number, runner, husable, hopened, hbuilt⟩

end Cli

/-! ## Both ways in -/

/-- An invalid setup never reaches the data, neither of whoever runs a draft on a sound connection
nor of a command. -/
theorem setup_before_data {draft : Draft} {site : Site} (hmade : draft.Made)
    (hsound : site.poisoned = false) (invocation : Cli.Invocation) (host : Host) :
    draft.Guarded site ∧ Cli.Guarded invocation host :=
  ⟨hmade.guarded hsound, Cli.guarded invocation host⟩

/-- A host with a configuration file of this text in the directory of a project, and a server. -/
def Host.configured (text : String) (server : Server) : Host where
  files := { Files.none with
    isPresent := fun path => path = "project/stratum.yml"
    read := fun _ => .ok text.toUTF8.toList }
  server := server

/-- A draft with a dialect but no migration.  And a command in a project without a configuration
file, in one with a table name that is not allowed, and in one with a good configuration, of which
the database cannot be opened. -/
theorem setup_before_data_unfinished :
    let draft := (({} : Draft).add {} (.dialect Vendor.duckDb.dialect)).1
    let site : Site := {}
    let invocation : Cli.Invocation :=
      { verbose := true, projectDir := "project", config := none, database := none,
        command := .migrate, output := .json }
    let misnamed : Host := .configured "table_name: log-7\n" {}
    let locked : Host := .configured "table_name: log_7\n"
      { faults := [{ on := .connect, message := "locked" }] }
    let config : Config := { tableName := "log_7" }
    draft.Made ∧ site.poisoned = false ∧ draft.build = .error .noMigrations ∧
      Cli.Unusable ({} : Host).files invocation ∧ Cli.Unusable misnamed.files invocation ∧
      Cli.Usable locked.files invocation config ∧
      draft.Guarded site ∧ (∀ host ∈ [{}, misnamed, locked], Cli.Guarded invocation host) ∧
      (Cli.execute invocation misnamed).journal.calls = [] ∧
      (Cli.execute invocation locked).journal.calls = [.connect .memory] := by
  intro draft site invocation misnamed locked config
  have hmade : draft.Made := .set .start {} (.dialect Vendor.duckDb.dialect)
  have hall (host : Host) : draft.Guarded site ∧ Cli.Guarded invocation host :=
    setup_before_data hmade rfl invocation host
  have hmissing : Cli.configFile? ({} : Host).files invocation = none := by rfl
  have hmisnamed : Cli.Unusable misnamed.files invocation := by
    let unnamed : Config := { tableName := "log-7" }
    have hholds : Cli.Holds misnamed.files invocation unnamed :=
      ⟨"project/stratum.yml", "table_name: log-7\n", by decide +kernel, by decide +kernel,
        by decide +kernel⟩
    have hinvalid : unnamed.validate
        = .error (.invalid (UpgradeError.invalidTableName "log-7").message) := by decide +kernel
    exact .invalid hholds hinvalid
  have hlocked : Cli.Usable locked.files invocation config :=
    ⟨⟨"project/stratum.yml", "table_name: log_7\n", by decide +kernel, by decide +kernel,
      by decide +kernel⟩, by decide +kernel, by decide +kernel⟩
  have hmemory : Cli.location config invocation = .memory := by decide +kernel
  have hrefused : (locked.server.connect (Cli.location config invocation)).1 = .error "locked" := by
    decide +kernel
  have hcalls := ((hall locked).2.one_iff config hlocked).2.2 (.inl ⟨"locked", hrefused⟩)
  rw [hmemory] at hcalls
  exact ⟨hmade, rfl, rfl, .missing hmissing, hmisnamed, hlocked, (hall {}).1,
    fun host _ => (hall host).2, (hall misnamed).2.none_iff.2 hmisnamed, hcalls⟩

end SchemaUpgrade
