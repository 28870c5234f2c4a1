/-!
# Calls to a database engine

The calls that a connection makes, and where a database is opened.  A call is known by its text,
the SQL or the path it carries, and by its parameters.
-/

namespace SchemaUpgrade.Engine

/-- Where a database lives. -/
inductive Location where
  /-- In memory: a scratch database, new each time it is opened. -/
  | memory
  /-- At a path: the same database each time it is opened. -/
  | file (path : String)
  deriving DecidableEq, Repr, Inhabited

namespace Location

/-- The text that stands for a database in memory. -/
def memoryText : String := ":memory:"

/-- The location that a text means. -/
def ofText (text : String) : Location :=
  if text = memoryText then .memory else .file text

/-- The text of a location, as the engine is given it. -/
def text : Location → String
  | .memory => memoryText
  | .file path => path

@[simp] theorem text_ofText (t : String) : (ofText t).text = t := by
  by_cases h : t = memoryText <;> simp [ofText, text, h]

end Location

/-- The statement that opens a transaction. -/
def beginText : String := "BEGIN TRANSACTION"

/-- The statement that publishes a transaction. -/
def commitText : String := "COMMIT"

/-- The statement that discards a transaction. -/
def rollbackText : String := "ROLLBACK"

/-- Whether a statement opens or ends a transaction. -/
def isControl (sql : String) : Bool :=
  sql = beginText || sql = commitText || sql = rollbackText

/-- What stands before the counted query in a query that counts rows. -/
def countFront : String := "SELECT COUNT(*) FROM ("

/-- What stands after the counted query in a query that counts rows. -/
def countBack : String := ")"

/-- The query that counts the tables and views of one name in a schema. -/
def relationQuery : String :=
  "SELECT COUNT(*) FROM information_schema.tables WHERE table_schema = ? AND table_name = ?"

/-- A call to the engine. -/
inductive Call where
  /-- Opens a database. -/
  | connect (location : Location)
  /-- Executes statements without parameters. -/
  | batch (sql : String)
  /-- Executes one statement with parameters. -/
  | execute (sql : String) (params : List String)
  /-- Reads the first column of every row of a query. -/
  | column (sql : String)
  /-- Counts the rows of the query `inner`. -/
  | count (inner : String)
  /-- Counts the tables and views called `table` in `schema`. -/
  | relation (schema table : String)
  deriving DecidableEq, Repr, Inhabited

namespace Call

/-- The SQL of a call, or the path of the database it opens. -/
def text : Call → String
  | .connect location => location.text
  | .batch sql | .execute sql _ | .column sql => sql
  | .count inner => countFront ++ inner ++ countBack
  | .relation _ _ => relationQuery

/-- The parameters of a call, in order. -/
def params : Call → List String
  | .execute _ params => params
  | .relation schema table => [schema, table]
  | _ => []

end Call

end SchemaUpgrade.Engine
