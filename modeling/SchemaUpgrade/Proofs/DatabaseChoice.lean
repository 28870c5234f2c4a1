import SchemaUpgrade.Proofs.Readiness
/-!
# A database meant for a file is never a scratch one

One text, `:memory:`, stands for a database in memory, which is new each time and is thrown away.
A command opens such a database exactly if it was asked to, or if the configuration says so and
nothing else was asked for; in all other cases it opens a path, and it is clear which
(`Cli.opens_what_is_meant`).

The text is compared twice: before the configured path is put below the root, and again when the
database is opened.  The two agree, as a path that is put below another is either left as it is or
has a slash in it (`joinPath_eq_or_slash_mem`), and `:memory:` has none.

## Main definitions

* `Engine.Server.Finds`: the database that is opened at a location.
* `Cli.Opens`: what a command opens.
-/

namespace SchemaUpgrade

open Engine

/-! ## Paths below a root -/

theorem joinPath_of_absolute (root : String) {path : String}
    (h : path.toList.head? = some '/') : joinPath root path = path := by
  rw [joinPath, if_pos h]

theorem joinPath_eq_or_slash_mem (root path : String) :
    joinPath root path = path ∨ '/' ∈ (joinPath root path).toList := by
  rw [joinPath]
  split
  · exact .inl rfl
  · split
    · rename_i hroot
      rcases Bool.or_eq_true_iff.1 hroot with hempty | hslash
      · rw [String.isEmpty_iff] at hempty
        exact .inl (by rw [hempty, String.empty_append])
      · have hmem : '/' ∈ root.toList := List.mem_of_getLast? (by simpa using hslash)
        exact .inr (by simp [hmem])
    · exact .inr (by simp)

/-- No path below a root stands for a database in memory, unless it does so by itself. -/
theorem joinPath_eq_memoryText {root path : String}
    (h : joinPath root path = Location.memoryText) : path = Location.memoryText := by
  rcases joinPath_eq_or_slash_mem root path with hsame | hslash
  · exact hsame.symm.trans h
  · rw [h] at hslash
    exact absurd hslash (by decide +kernel)

theorem Config.databasePathFrom_eq_memoryText_iff (config : Config) (root : String) :
    config.databasePathFrom root = Location.memoryText
      ↔ config.databasePath = Location.memoryText := by
  rw [databasePathFrom]
  split
  · exact Iff.rfl
  · rename_i hpath
    exact iff_of_false (fun hjoined => hpath (joinPath_eq_memoryText hjoined)) hpath

/-! ## The database at a location -/

namespace Engine

theorem Location.ofText_of_ne {text : String} (h : text ≠ memoryText) :
    ofText text = .file text := if_neg h

theorem Location.ofText_eq_memory_iff {text : String} :
    ofText text = .memory ↔ text = memoryText := by
  by_cases h : text = memoryText
  · rw [h]
    exact iff_of_true rfl rfl
  · rw [ofText_of_ne h]
    exact iff_of_false (by simp) h

/-- The database that is found when a location is opened. -/
inductive Server.Finds (before after : Server) (number : Nat) : Location → Prop where
  /-- In memory it is a new one, and no path is made to lead to it. -/
  | scratch (hnew : number = before.databases.length) (hpaths : after.paths = before.paths) :
    Finds before after number .memory
  /-- At a path it is the one to which the path leads from then on, and to which it led before, if
  it led to one. -/
  | kept {path : String} (hleads : after.paths.lookup path = some number)
    (hsame : ∀ led, before.paths.lookup path = some led → number = led) :
    Finds before after number (.file path)

theorem Server.finds_of_connect {before after : Server} {location : Location} {number : Nat}
    (h : before.connect location = (.ok number, after)) : before.Finds after number location := by
  rw [connect] at h
  split at h
  · exact absurd (congrArg Prod.fst h) (by simp)
  · rename_i faults _
    obtain ⟨hnumber, rfl⟩ := Prod.mk.inj h
    obtain rfl := Except.ok.inj hnumber
    cases location with
    | memory => exact .scratch rfl rfl
    | file path =>
      cases hlookup : before.paths.lookup path with
      | some led =>
        simp only [hlookup]
        exact .kept hlookup fun other hother => Option.some.inj (hlookup.symm.trans hother)
      | none =>
        simp only [hlookup]
        exact .kept List.lookup_cons_self fun other hother =>
          absurd (hlookup.symm.trans hother) (by simp)

end Engine

/-! ## What a command opens -/

namespace Cli

variable {invocation : Invocation} {config : Config} {host : Host}

/-- What a command opens that is to use a configuration. -/
structure Opens (config : Config) (invocation : Invocation) (host : Host) (location : Location) :
    Prop where
  /-- It calls nobody else. -/
  calls : (openProject invocation host).journal.calls = [.connect location]
  memory_iff : location = .memory ↔ invocation.database = some Location.memoryText ∨
    (invocation.database = none ∧ config.databasePath = Location.memoryText)
  /-- A path that was asked for is opened as it is. -/
  asked : ∀ path, invocation.database = some path → path ≠ Location.memoryText →
    location = .file path
  /-- Otherwise the configured path is opened, seen from the project. -/
  configured : invocation.database = none → config.databasePath ≠ Location.memoryText →
    location = .file (joinPath invocation.projectDir config.databasePath)
  absolute : invocation.database = none → config.databasePath.toList.head? = some '/' →
    location = .file config.databasePath
  /-- The connection leads to the database at this location. -/
  found : ∀ opened, (openProject invocation host).outcome = .ok opened →
    opened.config = config ∧
    host.server.Finds (openProject invocation host).state.server
      ((openProject invocation host).state.connection opened.connection).database location

theorem location_eq_memory_iff (config : Config) (invocation : Invocation) :
    location config invocation = .memory ↔ invocation.database = some Location.memoryText ∨
      (invocation.database = none ∧ config.databasePath = Location.memoryText) := by
  rw [location, Location.ofText_eq_memory_iff, databasePath]
  cases invocation.database with
  | some path => simp
  | none => simp [config.databasePathFrom_eq_memoryText_iff]

theorem location_of_asked {path : String} (h : invocation.database = some path)
    (hpath : path ≠ Location.memoryText) : location config invocation = .file path := by
  rw [location, databasePath, h]
  exact Location.ofText_of_ne hpath

theorem location_of_configured (h : invocation.database = none)
    (hpath : config.databasePath ≠ Location.memoryText) : location config invocation
      = .file (joinPath invocation.projectDir config.databasePath) := by
  have hjoined : config.databasePathFrom invocation.projectDir
      = joinPath invocation.projectDir config.databasePath := if_neg hpath
  rw [location, databasePath, h, Option.getD_none, Location.ofText_of_ne, hjoined]
  exact fun hmemory => hpath ((config.databasePathFrom_eq_memoryText_iff _).1 hmemory)

theorem calls_openProject (h : Usable host.files invocation config) :
    (openProject invocation host).journal.calls = [.connect (location config invocation)] := by
  rcases openProject_of_usable h with
    ⟨message, failure, after, -, hopen⟩ | ⟨number, id, after, -, hopen, -, -⟩
  · rw [hopen]
    rfl
  · rw [hopen]
    rfl

/-- A connection that was opened leads to the database at its location. -/
theorem finds_of_hostConnect {place : Location} {id : ConnectionId} {after : Host}
    {journal : Journal} (h : Host.connect place host = ⟨.ok id, after, journal⟩) :
    host.server.Finds after.server (after.connection id).database place := by
  rw [Host.connect] at h
  rcases hconnect : host.server.connect place with ⟨message | number, server⟩
  · simp only [hconnect] at h
    exact absurd (congrArg Finished.outcome h) (by simp)
  · simp only [hconnect] at h
    obtain ⟨hid, rfl, -⟩ := Finished.mk.inj h
    obtain rfl := Except.ok.inj hid
    simpa [Host.connection] using Server.finds_of_connect hconnect

theorem found_of_openProject (h : Usable host.files invocation config) {opened : Opened}
    (hopened : (openProject invocation host).outcome = .ok opened) :
    opened.config = config ∧
    host.server.Finds (openProject invocation host).state.server
      ((openProject invocation host).state.connection opened.connection).database
      (location config invocation) := by
  rcases hconnect : Host.connect (location config invocation) host with
    ⟨failure | id, ready, journal⟩
  · rw [openProject_eq h, Work.bind_of_error (Work.mapError_of_error hconnect)] at hopened
    exact absurd hopened (by simp)
  · obtain ⟨console, hopen⟩ := openProject_of_connect h hconnect
    rw [hopen] at hopened ⊢
    obtain rfl := Except.ok.inj hopened
    have hfinds := finds_of_hostConnect hconnect
    exact ⟨rfl, hfinds⟩

theorem opens_location (h : Usable host.files invocation config) :
    Opens config invocation host (location config invocation) where
  calls := calls_openProject h
  memory_iff := location_eq_memory_iff config invocation
  asked _ := location_of_asked
  configured := location_of_configured
  absolute hnone habsolute := by
    have hpath : config.databasePath ≠ Location.memoryText := by
      intro hmemory
      rw [hmemory] at habsolute
      exact absurd habsolute (by decide +kernel)
    rw [location_of_configured hnone hpath, joinPath_of_absolute _ habsolute]
  found _ := found_of_openProject h

/-- A command opens a database in memory only if it was asked to, or if the configuration says so
and nothing else was asked for.  Seen from a project, no other configured path stands for one. -/
theorem opens_what_is_meant :
    (∀ (config : Config) (root : String), config.databasePathFrom root = Location.memoryText
      ↔ config.databasePath = Location.memoryText) ∧
    ∀ (config : Config) (invocation : Invocation) (host : Host),
      Usable host.files invocation config → ∃ place, Opens config invocation host place :=
  ⟨Config.databasePathFrom_eq_memoryText_iff, fun _ _ _ h => ⟨_, opens_location h⟩⟩

/-- A project in a directory that is called like a database in memory. -/
theorem opens_what_is_meant_confusing :
    let text := "database:\n  path: steps.db\n"
    let config : Config := { databasePath := "steps.db" }
    let host : Host := { files := { Files.none with
      isPresent := fun path => path = ":memory:/stratum.yml"
      read := fun _ => .ok text.toUTF8.toList } }
    let invocation : Invocation :=
      { verbose := true, projectDir := ":memory:", config := none, database := none,
        command := .migrate, output := .json }
    Usable host.files invocation config ∧ config.databasePathFrom ":memory:" ≠ ":memory:" ∧
      (openProject invocation host).journal.calls
        = [.connect (.file ":memory:/steps.db")] := by
  intro text config host invocation
  have hfile : configFile? host.files invocation = some ":memory:/stratum.yml" := by
    decide +kernel
  have htext : textAt? host.files ":memory:/stratum.yml" = some text := by decide +kernel
  have hyaml : Config.ofYaml text = .ok config := by decide +kernel
  have husable : Usable host.files invocation config :=
    ⟨⟨_, text, hfile, htext, hyaml⟩, by decide +kernel, by decide +kernel⟩
  have hpath : config.databasePath ≠ Location.memoryText := by decide
  obtain ⟨place, hopens⟩ := opens_what_is_meant.2 config invocation host husable
  refine ⟨husable, mt (opens_what_is_meant.1 config ":memory:").1 hpath, ?_⟩
  have hjoined : joinPath invocation.projectDir config.databasePath = ":memory:/steps.db" := by
    decide +kernel
  rw [hopens.calls, hopens.configured rfl hpath, hjoined]

end Cli

end SchemaUpgrade
