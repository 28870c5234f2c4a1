import SchemaUpgrade.Project.Config
import SchemaUpgrade.Yaml.Shape
/-!
# Reading a project's configuration

A configuration file is a YAML document: a mapping with the fields `database`, itself a mapping
with the field `path`, `migrations_path`, `table_name` and `dialect`.  Fields that are missing have
their defaults; other fields, and fields that stand twice, are errors.  The whole document is read
before the values are validated.

A project's file is `stratum.yml` or, if that is not there, `stratum.yaml`.
-/

namespace SchemaUpgrade.Config

open Yaml

/-- The fields of a configuration, as far as they were read. -/
structure Fields where
  databasePath : Option String := none
  migrationsPath : Option String := none
  tableName : Option String := none
  vendor : Option Vendor := none
  deriving Inhabited

/-- The names of the fields. -/
def fieldNames : List String := ["database", "migrations_path", "table_name", "dialect"]

/-- Reads the field of the database record. -/
def readDatabaseField (document : Document) (place : Document.FieldPlace) (name : String)
    (path : Option String) (items : List Item) : Document.Answer (Option String) :=
  if name = "path" then
    if path.isSome then .error (place.duplicate name)
    else (document.readText place.path "a string" items).map fun (text, rest) => (some text, rest)
  else .error (place.unknown name ["path"])

/-- Reads the database record.  Answers the path of the database. -/
def readDatabase (document : Document) (path : List String) (items : List Item) :
    Document.Answer String :=
  (document.readRecord path "struct DatabaseConfig" (readDatabaseField document) none items).map
    fun (found, rest) => (found.getD ({} : Config).databasePath, rest)

/-- Reads a field of the configuration. -/
def readField (document : Document) (place : Document.FieldPlace) (name : String)
    (fields : Fields) (items : List Item) : Document.Answer Fields :=
  match name with
  | "database" =>
    if fields.databasePath.isSome then .error (place.duplicate name)
    else (readDatabase document place.path items).map fun (path, rest) =>
      ({ fields with databasePath := some path }, rest)
  | "migrations_path" =>
    if fields.migrationsPath.isSome then .error (place.duplicate name)
    else (document.readText place.path "a string" items).map fun (text, rest) =>
      ({ fields with migrationsPath := some text }, rest)
  | "table_name" =>
    if fields.tableName.isSome then .error (place.duplicate name)
    else (document.readText place.path "a string" items).map fun (text, rest) =>
      ({ fields with tableName := some text }, rest)
  | "dialect" =>
    if fields.vendor.isSome then .error (place.duplicate name)
    else
      let choices := Vendor.all.map fun vendor => (vendor.name, vendor)
      (document.readChoice place choices items).map fun (vendor, rest) =>
        ({ fields with vendor := some vendor }, rest)
  | _ => .error (place.unknown name fieldNames)

/-- The configuration with defaults for the fields that were not read. -/
def ofFields (fields : Fields) : Config :=
  let default : Config := {}
  { databasePath := fields.databasePath.getD default.databasePath
    migrationsPath := fields.migrationsPath.getD default.migrationsPath
    tableName := fields.tableName.getD default.tableName
    vendor := fields.vendor.getD default.vendor }

/-- The configuration that a YAML text holds, before its values are validated. -/
def ofYaml (text : String) : Except Misfit Config :=
  let (document, hasMore) := Document.ofString text
  match document.readRecord [] "struct Config" (readField document) {} document.items with
  | .error misfit => .error misfit
  | .ok (fields, _) =>
    match document.error with
    | some error => .error (.broken error)
    | none =>
      if hasMore then .error (.broken ⟨.manyDocuments, {}⟩)
      else .ok (ofFields fields)

/-- What stands for the path of a configuration that is not in a file. -/
def inlinePath : String := "<inline>"

/-- The valid configuration that a text holds; `path` is told in errors. -/
def parseAt (path text : String) : Except ConfigError Config :=
  match ofYaml text with
  | .error misfit => .error (.parse path misfit.message)
  | .ok config => config.validate.map fun () => config

/-- The valid configuration that a text holds. -/
def parse (text : String) : Except ConfigError Config :=
  parseAt inlinePath text

/-- The valid configuration in the file at a path. -/
def load (files : Files) (path : String) : Except ConfigError Config :=
  if files.isPresent path then
    match files.read path with
    | .error cause => .error (.parse path cause.message)
    | .ok bytes =>
      match Text.decodeUtf8 bytes with
      | none => .error (.parse path ReadError.notUtf8.message)
      | some text => parseAt path text
  else .error (.notFound path)

/-- The names of a project's configuration file, in the order in which they are looked for. -/
def fileNames : List String := ["stratum.yml", "stratum.yaml"]

/-- The valid configuration of the project in a directory. -/
def loadFrom (files : Files) (directory : String) : Except ConfigError Config :=
  match (fileNames.map (joinPath directory)).find? files.isPresent with
  | some path => load files path
  | none => .error (.notFound (joinPath directory (fileNames.headD "")))

end SchemaUpgrade.Config
