import SchemaUpgrade.Connection
/-!
# Dialects

A dialect says how a kind of database keeps its bookkeeping table: three SQL templates, to create
the table unless it exists, to list the recorded keys in the order in which they were applied, and
to record one more key.  In a template, `{table}` stands for the name of the table.  The template
that records a key takes the key as its only parameter.

Every dialect is given by its templates, and does what `Dialect.ensureTable`, `Dialect.listApplied`
and `Dialect.recordKey` do with them.  A dialect with code of its own for these three, which could
use several transactions or drop errors, is not among them.
-/

namespace SchemaUpgrade

/-- The templates of a kind of database. -/
structure Dialect where
  create : String
  applied : String
  register : String
  deriving DecidableEq, Repr, Inhabited

namespace Dialect

/-- What stands for the name of the table in a template. -/
def placeholder : List Char := ['\x7b', 't', 'a', 'b', 'l', 'e', '\x7d']

/-- Replaces every placeholder, from the left. -/
def substitute (table : List Char) : List Char → List Char
  | '\x7b' :: 't' :: 'a' :: 'b' :: 'l' :: 'e' :: '\x7d' :: rest => table ++ substitute table rest
  | c :: rest => c :: substitute table rest
  | [] => []

/-- The statement that a template means for a table. -/
def render (template table : String) : String :=
  String.ofList (substitute table.toList template.toList)

variable (dialect : Dialect)

/-- Creates the bookkeeping table unless it exists, in a transaction of its own. -/
def ensureTable (table : String) : Work Site DatabaseError Unit := do
  Connection.begin
  match ← (Transaction.batch (render dialect.create table)).attempt with
  | .ok () => Transaction.commit
  | .error error =>
    let outcome ← Transaction.rollback.attempt
    Work.fail (error.joinRollback outcome)

/-- The recorded keys, in the order in which they were applied. -/
def listApplied (table : String) : Work Site DatabaseError (List String) :=
  Connection.column (render dialect.applied table)

/-- Records a key inside the open transaction. -/
def recordKey (key table : String) : Work Site DatabaseError Unit := do
  let _ ← Transaction.execute (render dialect.register table) [key]
  pure ()

end Dialect

end SchemaUpgrade
