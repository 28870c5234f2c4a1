import SchemaUpgrade.Proofs.Readiness
/-!
# A configuration that is accepted can be used

The values of a configuration are looked at twice: when its text is read, and when its settings are
added to a draft.  What the first lets through the second does not refuse, so the only setting that
can fail is the directory of the migrations (`Config.failure?_of_validate`), and no valid
configuration leads to an error about its own values (`Config.builds_of_validate`), whoever read it.
Those that were accepted as a text are valid (`Config.accepted_is_buildable`).

The check of the table's name is one and the same in both places, but a setting that fails silences
those behind it.  That is why the first lemma speaks of all settings at once.

## Main definitions

* `Config.Builds`: what a configuration is built into over a file system.
-/

namespace SchemaUpgrade.Config

variable {config : Config} {files : Files} {root : String}

/-! ## What was accepted -/

theorem validate_of_parse {text : String} (h : parse text = .ok config) :
    config.validate = .ok () := by
  rw [parse] at h
  cases hyaml : ofYaml text with
  | error misfit =>
    rw [Cli.parseAt_of_error _ hyaml] at h
    exact absurd h (by simp)
  | ok read =>
    rw [Cli.parseAt_of_ok _ hyaml] at h
    cases hvalid : read.validate with
    | error error =>
      rw [hvalid] at h
      exact absurd h (by simp [Except.map])
    | ok _ =>
      rw [hvalid] at h
      obtain rfl : read = config := Except.ok.inj h
      exact hvalid

theorem check_of_validate (h : config.validate = .ok ()) :
    TableName.check config.tableName = .ok () := by
  rw [validate] at h
  cases hcheck : TableName.check config.tableName with
  | error error =>
    rw [hcheck] at h
    exact absurd h (by simp)
  | ok _ => rfl

/-! ## The settings of a configuration -/

/-- Of the settings that a valid configuration stands for, only the directory can fail. -/
theorem failure?_of_validate (h : config.validate = .ok ()) {setting : Setting}
    (hmem : setting ∈ config.settings root) :
    setting.failure? files = none ∨ setting = .directory (config.migrationsDirectory root) := by
  have hname := check_of_validate h
  simp only [settings, List.mem_cons, List.not_mem_nil, or_false] at hmem
  rcases hmem with rfl | rfl | rfl
  · exact .inl rfl
  · exact .inl (by rw [Setting.failure?, hname])
  · exact .inr rfl

theorem collect_added_settings (config : Config) {entries : List DirectoryEntry}
    (hentries : files.entries (config.migrationsDirectory root) = .ok entries) :
    Log.Route.ofProcess.collect (Setting.added files) (config.settings root)
      = (regularNames entries).map fun name =>
          .inDirectory (config.migrationsDirectory root) name .ofProcess := by
  have hroute : (Log.Route.ofProcess.after [.dialect config.vendor.dialect]).after
      [.tableName config.tableName] = .ofProcess := rfl
  rw [settings, Log.Route.collect_cons, Log.Route.collect_cons, Log.Route.collect_singleton, hroute]
  simp [Setting.added, Setting.foundNames, hentries]

/-! ## Building -/

/-- A runner of the migrations of a project. -/
structure Serves (config : Config) (files : Files) (root : String) (runner : Runner) : Prop where
  dialect : runner.dialect = config.vendor.dialect
  tableName : runner.tableName = config.tableName
  /-- There is one migration for each regular file that the directory lists, and no other. -/
  migrations : ∃ entries, files.entries (config.migrationsDirectory root) = .ok entries ∧
    runner.migrations.Perm ((regularNames entries).map fun name =>
      .inDirectory (config.migrationsDirectory root) name .ofProcess) ∧
    runner.keys.Perm (regularNames entries) ∧
    runner.keys.Pairwise (· ≤ ·) ∧
    ((regularNames entries).Nodup → Ascending runner.keys)

/-- What a configuration is built into over a file system. -/
structure Builds (config : Config) (files : Files) (root : String)
    (built : Except UpgradeError Runner) : Prop where
  fails_iff : ∀ error, built = .error error ↔
    (∃ cause, files.entries (config.migrationsDirectory root) = .error cause ∧
      error = .readDir (config.migrationsDirectory root) cause) ∨
    (∃ entries, files.entries (config.migrationsDirectory root) = .ok entries ∧
      regularNames entries = [] ∧ error = .noMigrations)
  serves : ∀ runner, built = .ok runner → config.Serves files root runner

/-- A directory that cannot be read is what the draft of a valid configuration fails with. -/
theorem build_draft_of_unread {around : Surroundings} {cause : ReadError}
    (h : config.validate = .ok ())
    (hentries : around.files.entries (config.migrationsDirectory root) = .error cause) :
    (config.draft around root).1.build
      = .error (.readDir (config.migrationsDirectory root) cause) := by
  let before : List Setting := [.dialect config.vendor.dialect, .tableName config.tableName]
  have hsettings : config.settings root
      = before ++ .directory (config.migrationsDirectory root) :: [] := rfl
  have hbefore : ∀ setting ∈ before, setting.failure? around.files = none := fun setting hmem =>
    (failure?_of_validate h (hsettings ▸ List.mem_append_left _ hmem)).resolve_right
      fun hdirectory => by simp [before, hdirectory] at hmem
  have hfailing : (Setting.directory (config.migrationsDirectory root)).failure? around.files
      = some (.readDir (config.migrationsDirectory root) cause) := by
    rw [Setting.failure?, hentries]
  rw [draft, hsettings, Draft.addAll_of_fails around rfl hbefore hfailing]
  exact Draft.build_of_error _ rfl

/-- Where the directory can be read, no setting of a valid configuration fails. -/
theorem failure?_of_read {entries : List DirectoryEntry} (h : config.validate = .ok ())
    (hentries : files.entries (config.migrationsDirectory root) = .ok entries) :
    ∀ setting ∈ config.settings root, setting.failure? files = none := by
  intro setting hmem
  rcases failure?_of_validate h hmem with hnone | rfl
  · exact hnone
  · rw [Setting.failure?, hentries]

theorem serves_of_build {entries : List DirectoryEntry} {runner : Runner}
    (h : config.validate = .ok ())
    (hentries : files.entries (config.migrationsDirectory root) = .ok entries)
    (hbuilt : (({} : Draft).after files (config.settings root)).build = .ok runner) :
    config.Serves files root runner := by
  have hassembled := Draft.assembled_of_build (failure?_of_read h hentries) hbuilt
  have hperm := hassembled.perm
  rw [config.collect_added_settings hentries] at hperm
  have hkeys : runner.keys.Perm (regularNames entries) := by
    have hmapped := hperm.map Migration.key
    rw [List.map_map] at hmapped
    have hname : Migration.key ∘ (fun name =>
        .inDirectory (config.migrationsDirectory root) name .ofProcess) = id := rfl
    rw [hname, List.map_id] at hmapped
    exact hmapped
  exact {
    dialect := (Option.some.inj hassembled.dialect).symm
    tableName := hassembled.tableName
    migrations := ⟨entries, hentries, hperm, hkeys, runner.keys_sorted, fun hnodup =>
      ascending_of_le_of_nodup runner.keys_sorted (hkeys.nodup_iff.2 hnodup)⟩ }

/-- Whatever it was read from, a valid configuration is built into a runner, unless the directory of
the migrations cannot be read or has no regular file. -/
theorem builds_of_validate (hvalid : config.validate = .ok ()) (around : Surroundings)
    (root : String) : config.Builds around.files root (config.draft around root).1.build := by
  cases hentries : around.files.entries (config.migrationsDirectory root) with
  | error cause =>
    have hbuild := build_draft_of_unread hvalid hentries
    refine ⟨fun error => ?_, fun runner hbuilt => absurd (hbuild.symm.trans hbuilt) (by simp)⟩
    rw [hbuild, hentries]
    simp [eq_comm (a := error)]
  | ok entries =>
    have hsucceeds := failure?_of_read hvalid hentries
    let done : Draft := ({} : Draft).after around.files (config.settings root)
    have hdraft : (config.draft around root).1 = done := by
      rw [draft, Draft.addAll_of_succeeds around rfl hsucceeds]
    have hdialect : done.dialect ≠ none := Option.some_ne_none config.vendor.dialect
    have hempty : done.migrations = [] ↔ regularNames entries = [] := by
      have hadded : done.migrations = _ := config.collect_added_settings hentries
      rw [hadded, List.map_eq_nil_iff]
    rw [hdraft]
    refine ⟨fun error => ?_, fun runner => serves_of_build hvalid hentries⟩
    rw [hentries]
    rcases done.build_cases rfl (Draft.check_tableName_after hsucceeds) with
      ⟨hnone, -⟩ | ⟨-, hnil, hbuild⟩ | ⟨runner, -, hfull, hbuild, -⟩
    · exact absurd hnone hdialect
    · rw [hbuild]
      simp [hempty.1 hnil, eq_comm (a := error)]
    · rw [hbuild]
      simp [mt hempty.2 hfull]

/-- What is accepted is valid, so it is built into a runner, unless the directory of the migrations
cannot be read or has no regular file. -/
theorem accepted_is_buildable {text : String} (h : parse text = .ok config)
    (around : Surroundings) (root : String) :
    config.Builds around.files root (config.draft around root).1.build :=
  builds_of_validate (validate_of_parse h) around root

/-- A table with a name of its own, and a directory that lists a file, a directory and a file. -/
theorem accepted_is_buildable_steps :
    let text := "table_name: log_7\nmigrations_path: steps\ndialect: mysql\n"
    let config : Config := { tableName := "log_7", migrationsPath := "steps", vendor := .mysql }
    let entries : List DirectoryEntry := [⟨"02.sql", true⟩, ⟨"old", false⟩, ⟨"01.sql", true⟩]
    let around : Surroundings := { files := { Files.none with
      entries := fun path => if path = "app/steps" then .ok entries else .error .notFound } }
    parse text = .ok config ∧ config.migrationsDirectory "app" = "app/steps" ∧
      config.Builds around.files "app" (config.draft around "app").1.build ∧
      ∃ runner, (config.draft around "app").1.build = .ok runner ∧
        runner.tableName = "log_7" ∧ runner.keys = ["01.sql", "02.sql"] := by
  intro text config entries around
  have hparse : parse text = .ok config := by decide +kernel
  have hdirectory : config.migrationsDirectory "app" = "app/steps" := by decide +kernel
  have hbuilds := accepted_is_buildable hparse around "app"
  refine ⟨hparse, hdirectory, hbuilds, ?_⟩
  cases hbuilt : (config.draft around "app").1.build with
  | error error =>
    rcases (hbuilds.fails_iff error).1 hbuilt with ⟨cause, h, -⟩ | ⟨listed, h, hnil, -⟩
    · rw [hdirectory] at h
      exact absurd h (by simp [around])
    · rw [hdirectory] at h
      obtain rfl : entries = listed := Except.ok.inj h
      exact absurd hnil (by decide)
  | ok runner =>
    have hserves := hbuilds.serves runner hbuilt
    obtain ⟨listed, hlisted, -, hkeys, hle, -⟩ := hserves.migrations
    rw [hdirectory] at hlisted
    obtain rfl : entries = listed := Except.ok.inj hlisted
    have hsorted : ["01.sql", "02.sql"].Pairwise (· ≤ ·) := by decide
    exact ⟨runner, rfl, hserves.tableName, hkeys.trans (List.Perm.swap "01.sql" "02.sql" [])
      |>.eq_of_pairwise (fun _ _ _ _ hab hba => String.le_antisymm hab hba) hle hsorted⟩

end SchemaUpgrade.Config
