import SchemaUpgrade.Dialect
/-!
# Built-in dialects

The kinds of databases whose dialect is known.  Each of them quotes names in its own way and
writes a parameter in its own way; the table of the rendered statements is the same.
-/

namespace SchemaUpgrade

/-- A kind of database with a built-in dialect. -/
inductive Vendor where
  | duckDb
  | sqlite
  | postgres
  | mysql
  | mssql
  | oracle
  | db2
  | csvq
  deriving DecidableEq, Repr

namespace Vendor

/-- The vendor used when none is given. -/
def default : Vendor := .duckDb

instance : Inhabited Vendor := ⟨default⟩

/-- Every vendor, in the order in which messages list them. -/
def all : List Vendor := [.duckDb, .sqlite, .postgres, .mysql, .mssql, .oracle, .db2, .csvq]

theorem mem_all (vendor : Vendor) : vendor ∈ all := by
  cases vendor <;> decide

/-- The name of a vendor, in configuration files and messages. -/
def name : Vendor → String
  | .duckDb => "duckdb"
  | .sqlite => "sqlite"
  | .postgres => "postgres"
  | .mysql => "mysql"
  | .mssql => "mssql"
  | .oracle => "oracle"
  | .db2 => "db2"
  | .csvq => "csvq"

/-- The vendor of a name. -/
def ofName? (text : String) : Option Vendor :=
  all.find? fun vendor => vendor.name = text

theorem ofName?_name (vendor : Vendor) : ofName? vendor.name = some vendor := by
  cases vendor <;> decide

/-- The message about a name that is no vendor's. -/
def unknownMessage (text : String) : String :=
  "unknown variant \x60" ++ text ++ "\x60, expected one of "
    ++ ", ".intercalate (all.map fun vendor => "\x60" ++ vendor.name ++ "\x60")

/-- The statement that creates a table with two columns, as several vendors write it. -/
def twoColumnTable : String :=
  "CREATE TABLE IF NOT EXISTS \"{table}\" (\n" ++
  "    id        VARCHAR(255) PRIMARY KEY,\n" ++
  "    create_ts TIMESTAMP DEFAULT current_timestamp\n" ++
  ")"

/-- The query for the recorded keys, with the name of the table in double quotes. -/
def listQuoted : String :=
  "SELECT id FROM \"{table}\" ORDER BY create_ts ASC"

/-- The dialect of a vendor. -/
def dialect : Vendor → Dialect
  -- The rows of one transaction share a time stamp; `seq` keeps their order.
  | .duckDb => {
      create :=
        "CREATE SEQUENCE IF NOT EXISTS \"{table}_seq\";\n" ++
        "CREATE TABLE IF NOT EXISTS \"{table}\" (\n" ++
        "    id        VARCHAR PRIMARY KEY,\n" ++
        "    create_ts TIMESTAMP NOT NULL DEFAULT now(),\n" ++
        "    seq       BIGINT NOT NULL DEFAULT nextval('{table}_seq')\n" ++
        ")"
      applied := "SELECT id FROM \"{table}\" ORDER BY create_ts ASC, seq ASC"
      register := "INSERT INTO \"{table}\" (id) VALUES (?)" }
  | .sqlite => {
      create := twoColumnTable
      applied := listQuoted
      register := "INSERT INTO \"{table}\" (id) VALUES (?1)" }
  | .postgres => {
      create := twoColumnTable
      applied := listQuoted
      register := "INSERT INTO \"{table}\" (id) VALUES ($1)" }
  | .mysql => {
      create :=
        "CREATE TABLE IF NOT EXISTS \x60{table}\x60 (\n" ++
        "    id        VARCHAR(255) PRIMARY KEY,\n" ++
        "    create_ts TIMESTAMP DEFAULT current_timestamp\n" ++
        ")"
      applied := "SELECT id FROM \x60{table}\x60 ORDER BY create_ts ASC"
      register := "INSERT INTO \x60{table}\x60 (id) VALUES (?)" }
  | .mssql => {
      create :=
        "IF NOT EXISTS (\n" ++
        "    SELECT * FROM sysobjects WHERE name = '{table}' AND xtype = 'U'\n" ++
        ")\n" ++
        "CREATE TABLE [{table}] (\n" ++
        "    id        NVARCHAR(255) PRIMARY KEY,\n" ++
        "    create_ts DATETIME DEFAULT GETDATE()\n" ++
        ")"
      applied := "SELECT id FROM [{table}] ORDER BY create_ts ASC"
      register := "INSERT INTO [{table}] (id) VALUES (@p1)" }
  -- Error -955 tells that the name is taken, so the table exists.
  | .oracle => {
      create :=
        "BEGIN\n" ++
        "    EXECUTE IMMEDIATE '\n" ++
        "        CREATE TABLE \"{table}\" (\n" ++
        "            id        VARCHAR2(255) PRIMARY KEY,\n" ++
        "            create_ts TIMESTAMP DEFAULT CURRENT_TIMESTAMP\n" ++
        "        )\n" ++
        "    ';\n" ++
        "EXCEPTION\n" ++
        "    WHEN OTHERS THEN\n" ++
        "        IF SQLCODE != -955 THEN\n" ++
        "            RAISE;\n" ++
        "        END IF;\n" ++
        "END;"
      applied := listQuoted
      register := "INSERT INTO \"{table}\" (id) VALUES (:1)" }
  | .db2 => {
      create :=
        "BEGIN\n" ++
        "    IF NOT EXISTS (\n" ++
        "        SELECT 1 FROM SYSIBM.SYSTABLES WHERE NAME = '{table}' AND TYPE = 'T'\n" ++
        "    )\n" ++
        "    THEN\n" ++
        "        CREATE TABLE \"{table}\" (\n" ++
        "            id        VARCHAR(255) NOT NULL PRIMARY KEY,\n" ++
        "            create_ts TIMESTAMP DEFAULT CURRENT_TIMESTAMP\n" ++
        "        );\n" ++
        "    END IF;\n" ++
        "END"
      applied := listQuoted
      register := "INSERT INTO \"{table}\" (id) VALUES (?)" }
  | .csvq => {
      create := "CREATE TABLE IF NOT EXISTS {table} (id, create_ts)"
      applied := "SELECT id FROM {table} ORDER BY create_ts ASC"
      register := "INSERT INTO {table} (id, create_ts) VALUES (?, NOW())" }

/-- Whether the dialect of a vendor runs on a database of the given type.  A DuckDB database takes
the PostgreSQL templates as well as its own. -/
def runsOn (vendor : Vendor) (databaseType : String) : Bool :=
  if databaseType = "duckdb" then vendor = .duckDb || vendor = .postgres
  else vendor.name = databaseType

end Vendor

end SchemaUpgrade
