import SchemaUpgrade.Engine.Call
import SchemaUpgrade.Text.Search
/-!
# A transactional database

The content of a database is a list of tables, each a list of ids in the order of insertion, and
the list of statement batches executed so far.  SQL is not interpreted: a batch is recorded, an
insertion names its table by the word after the first `INTO `, a query by the word after the first
`FROM `.

A transaction works on a copy of the committed content.  `COMMIT` publishes the copy, `ROLLBACK`
discards it, and a call that fails changes nothing.
-/

namespace SchemaUpgrade.Engine

/-! ## Table words -/

/-- Whether a character ends a table word. -/
def endsTableWord (c : Char) : Bool :=
  c = ' ' || c = '\n' || c = ')'

/-- Whether a character only quotes a name. -/
def isQuoteMark (c : Char) : Bool :=
  c = '"' || c = '\x60' || c = '[' || c = ']'

/-- The text up to the first space, line feed or closing parenthesis, without quote marks. -/
def tableWordOf (text : List Char) : String :=
  String.ofList ((text.takeWhile (fun c => !endsTableWord c)).filter (fun c => !isQuoteMark c))

/-- The table word after the first occurrence of `marker`; empty if there is none. -/
def tableWord (marker : String) (sql : String) : String :=
  match Text.afterFirst? marker.toList sql.toList with
  | some rest => tableWordOf rest
  | none => ""

/-- The table that an insertion names. -/
def insertedTable (sql : String) : String := tableWord "INTO " sql

/-- The table that a query names. -/
def queriedTable (sql : String) : String := tableWord "FROM " sql

/-! ## Content -/

/-- Tables by name, and the statement batches executed so far. -/
structure Content where
  tables : List (String × List String) := []
  /-- The executed batches, the latest first. -/
  latestFirst : List String := []
  deriving DecidableEq, Repr, Inhabited

/-- The tables with `id` at the end of `table`, which is made if it is absent. -/
def insertId (table id : String) : List (String × List String) → List (String × List String)
  | [] => [(table, [id])]
  | (name, ids) :: rest =>
    if name = table then (name, ids ++ [id]) :: rest else (name, ids) :: insertId table id rest

namespace Content

/-- The ids of a table, if the table is known. -/
def ids? (content : Content) (table : String) : Option (List String) :=
  content.tables.lookup table

/-- The ids of a table; none if the table is unknown. -/
def ids (content : Content) (table : String) : List String :=
  (content.ids? table).getD []

/-- The executed batches, in the order in which they were executed. -/
def batches (content : Content) : List String := content.latestFirst.reverse

/-- The content with one more batch. -/
def record (content : Content) (sql : String) : Content :=
  { content with latestFirst := sql :: content.latestFirst }

/-- The content with `id` at the end of `table`. -/
def insert (content : Content) (table id : String) : Content :=
  { content with tables := insertId table id content.tables }

theorem ids?_insert (content : Content) (table id other : String) :
    (content.insert table id).ids? other
      = if other = table then some (content.ids table ++ [id]) else content.ids? other := by
  simp only [insert, ids, ids?]
  induction content.tables with
  | nil =>
    by_cases h : other = table <;> simp [insertId, h]
  | cons entry rest ih =>
    obtain ⟨name, ids⟩ := entry
    simp only [insertId]
    by_cases hname : name = table
    · subst hname
      by_cases hother : other = name
      · simp [hother]
      · simp [hother, List.lookup_cons, beq_false_of_ne hother]
    · by_cases hother : other = name
      · subst hother
        simp [hname]
      · by_cases htable : other = table
        · subst htable
          simpa [hname, List.lookup_cons, beq_false_of_ne hother] using ih
        · simpa [hname, List.lookup_cons, beq_false_of_ne hother, htable] using ih

theorem ids_insert (content : Content) (table id other : String) :
    (content.insert table id).ids other
      = if other = table then content.ids table ++ [id] else content.ids other := by
  rw [ids, ids?_insert]
  split <;> rfl

@[simp] theorem batches_insert (content : Content) (table id : String) :
    (content.insert table id).batches = content.batches := rfl

@[simp] theorem ids?_record (content : Content) (sql table : String) :
    (content.record sql).ids? table = content.ids? table := rfl

@[simp] theorem batches_record (content : Content) (sql : String) :
    (content.record sql).batches = content.batches ++ [sql] := by
  simp [record, batches]

end Content

/-! ## Databases -/

/-- The committed content and, while a transaction is open, the copy it works on. -/
structure Database where
  committed : Content := {}
  working : Option Content := none
  deriving DecidableEq, Repr, Inhabited

namespace Database

/-- Whether a transaction is open. -/
def inTransaction (db : Database) : Bool := db.working.isSome

/-- The content that calls see. -/
def current (db : Database) : Content := db.working.getD db.committed

/-- Replaces the content that calls see. -/
def put (db : Database) (content : Content) : Database :=
  match db.working with
  | some _ => { db with working := some content }
  | none => { db with committed := content }

/-- The refusal of a second transaction. -/
def alreadyOpen : String :=
  "TransactionContext Error: cannot start a transaction within a transaction"

/-- The refusal to end a transaction when none is open. -/
def noneOpen (verb : String) : String :=
  "TransactionContext Error: cannot " ++ verb ++ " - no transaction is active"

/-- The refusal of an id that is already in its table. -/
def duplicateKey (id : String) : String :=
  "Constraint Error: Duplicate key \"id: " ++ id ++ "\" violates primary key constraint."

/-- Executes a batch: the control statements open and end transactions, anything else is
recorded. -/
def batch (sql : String) (db : Database) : Except String (Unit × Database) :=
  if sql = beginText then
    if db.inTransaction then .error alreadyOpen
    else .ok ((), { db with working := some db.committed })
  else if sql = commitText then
    match db.working with
    | some content => .ok ((), { committed := content })
    | none => .error (noneOpen "commit")
  else if sql = rollbackText then
    match db.working with
    | some _ => .ok ((), { db with working := none })
    | none => .error (noneOpen "rollback")
  else .ok ((), db.put (db.current.record sql))

/-- Inserts the first parameter into the table that the statement names.  Answers the number of
affected rows. -/
def execute (sql : String) (params : List String) (db : Database) :
    Except String (Nat × Database) :=
  let table := insertedTable sql
  let id := params.headD ""
  if id ∈ db.current.ids table then .error (duplicateKey id)
  else .ok (1, db.put (db.current.insert table id))

/-- The ids of the table that the query names. -/
def column (sql : String) (db : Database) : List String :=
  db.current.ids (queriedTable sql)

/-- The number of ids in the table that the counted query names. -/
def count (inner : String) (db : Database) : Nat :=
  (db.current.ids (queriedTable (inner ++ countBack))).length

/-- The name under which a table of a schema is known. -/
def qualifiedName (schema table : String) : String :=
  if schema = "main" then table else schema ++ "." ++ table

/-- How many tables have this name in this schema. -/
def countRelations (schema table : String) (db : Database) : Nat :=
  if (db.current.ids? (qualifiedName schema table)).isSome then 1 else 0

end Database

end SchemaUpgrade.Engine
