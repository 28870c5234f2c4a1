import SchemaUpgrade.Dialect.Vendor
import SchemaUpgrade.Files.Listing
import SchemaUpgrade.Runner.Draft
import SchemaUpgrade.Text.Blank
/-!
# Project configuration

A project names its database, the directory of its migrations, its bookkeeping table and the
dialect of that table.  Everything has a default.  A configuration is valid if the name of the
table is allowed and neither of the two paths is blank; these are checked in that order, with the
path of the database last.
-/

namespace SchemaUpgrade

/-- The configuration of a project. -/
structure Config where
  /-- The path of the database, or `:memory:`. -/
  databasePath : String := Engine.Location.memoryText
  /-- The directory of the migrations, seen from the project. -/
  migrationsPath : String := "migrations"
  tableName : String := TableName.default
  vendor : Vendor := Vendor.default
  deriving DecidableEq, Repr, Inhabited

/-- Why a configuration cannot be used. -/
inductive ConfigError where
  /-- The file is not there. -/
  | notFound (path : String)
  /-- The file cannot be read, or what is in it is no configuration. -/
  | parse (path : String) (message : String)
  /-- A value is not allowed. -/
  | invalid (message : String)
  deriving DecidableEq, Repr, Inhabited

/-- The sentence that describes the error. -/
def ConfigError.message : ConfigError → String
  | .notFound path => "[C001] Config file not found: " ++ path
  | .parse path text => "[C002] Failed to parse config " ++ path ++ ": " ++ text
  | .invalid text => "[C003] Invalid config: " ++ text

namespace Config

variable (config : Config)

/-- Accepts a configuration whose values are allowed, or tells the first that is not. -/
def validate : Except ConfigError Unit :=
  match TableName.check config.tableName with
  | .error error => .error (.invalid error.message)
  | .ok () =>
    if Text.isBlank config.migrationsPath then .error (.invalid "migrations_path cannot be empty")
    else if Text.isBlank config.databasePath then
      .error (.invalid "database.path cannot be empty")
    else .ok ()

/-- Accepts a configuration whose dialect runs on a database of the given type. -/
def checkDatabaseType (databaseType : String) : Except ConfigError Unit :=
  if config.vendor.runsOn databaseType then .ok ()
  else .error (.invalid ("dialect '" ++ config.vendor.name ++ "' cannot be used with a "
    ++ databaseType ++ " database"))

/-- The directory of the migrations of a project at `root`. -/
def migrationsDirectory (root : String) : String :=
  joinPath root config.migrationsPath

/-- The path of the database of a project at `root`; a database in memory stays one. -/
def databasePathFrom (root : String) : String :=
  if config.databasePath = Engine.Location.memoryText then config.databasePath
  else joinPath root config.databasePath

/-- The settings that a configuration stands for, in the order in which they are added. -/
def settings (root : String) : List Setting :=
  [.dialect config.vendor.dialect, .tableName config.tableName,
    .directory (config.migrationsDirectory root)]

/-- The draft of a project's upgrade, and the events that its directory caused. -/
def draft (around : Surroundings) (root : String) : Draft × List Log.Event :=
  ({} : Draft).addAll around (config.settings root)

end Config

end SchemaUpgrade
