import SchemaUpgrade.DatabaseError
import SchemaUpgrade.Site
/-!
# Connections and transactions

A connection is used by one task at a time.  A task that panics while it holds the connection
poisons it: every later use is refused before the engine is called.

A transaction is opened by `Connection.begin` and ended exactly once: by `commit`, which rolls back
if the commit fails and then tells both failures, by `rollback`, or by `abandon` if nobody ended
it.  Its holder lets go of it at the end in any case, and a transaction that is not finished by then
is rolled back.  Until it is ended, its holder also holds the connection, so the statements inside
it are not refused.
-/

namespace SchemaUpgrade

open Engine

variable {ε α : Type}

/-- A transaction that `Connection.begin` opened, as its holder knows it. -/
structure Transaction where
  /-- Whether the holder has ended it; then nothing more is sent for it. -/
  finished : Bool := false
  deriving DecidableEq, Repr, Inhabited

namespace Transaction

/-- Executes statements without parameters inside the transaction. -/
def batch (sql : String) : Work Site DatabaseError Unit :=
  (Site.batch sql).mapError .ofEngine

/-- Executes one statement with parameters inside the transaction.  Answers the number of affected
rows. -/
def execute (sql : String) (params : List String) : Work Site DatabaseError Nat :=
  (Site.execute sql params).mapError .ofEngine

/-- Sends the statement that discards the transaction.  It counts as finished from then on, also if
the engine refuses the statement. -/
def sendRollback (transaction : Transaction) :
    Work Site DatabaseError (Except DatabaseError Unit × Transaction) := do
  let transaction := { transaction with finished := true }
  let outcome ← ((Site.batch rollbackText).mapError fun text =>
    DatabaseError.transaction ("ROLLBACK failed: " ++ text)).attempt
  pure (outcome, transaction)

/-- Sends the statement that publishes the transaction.  If the engine refuses it, the transaction
is discarded. -/
def sendCommit (transaction : Transaction) :
    Work Site DatabaseError (Except DatabaseError Unit × Transaction) := do
  match ← (Site.batch commitText).attempt with
  | .ok () => pure (.ok (), { transaction with finished := true })
  | .error text =>
    let (outcome, transaction) ← transaction.sendRollback
    pure (.error ((DatabaseError.transaction ("COMMIT failed: " ++ text)).joinRollback outcome),
      transaction)

/-- Lets go of the transaction.  Unless it is finished, it is rolled back; there is no one to tell
a failure to, so it is only logged. -/
def release (transaction : Transaction) : Work Site ε Unit :=
  if transaction.finished then pure ()
  else do
    match ← (Site.batch rollbackText).attempt with
    | .ok () => pure ()
    | .error text => Site.log .ofProcess (.rollbackLost text)

/-- Ends the open transaction by what `send` sends for it, and lets go of it. -/
def endBy (send : Transaction → Work Site DatabaseError (Except DatabaseError Unit × Transaction)) :
    Work Site DatabaseError Unit := do
  let (outcome, transaction) ← send {}
  transaction.release
  Work.ofExcept outcome

/-- Discards the transaction. -/
def rollback : Work Site DatabaseError Unit := endBy sendRollback

/-- Publishes the transaction.  If that fails, the transaction is rolled back. -/
def commit : Work Site DatabaseError Unit := endBy sendCommit

/-- Rolls back a transaction that nobody ended. -/
def abandon : Work Site ε Unit := release {}

end Transaction

namespace Connection

/-- The name of the kind of database behind a connection. -/
def databaseType : String := "duckdb"

/-- Refuses a poisoned connection. -/
def lock : Work Site DatabaseError Unit := do
  if (← Work.state).poisoned then Work.fail .lockPoisoned else pure ()

/-- Marks the connection as poisoned. -/
def poison : Work Site ε Unit :=
  Work.modify fun site => { site with poisoned := true }

/-- Opens a transaction. -/
def begin : Work Site DatabaseError Unit := do
  lock
  (Site.batch beginText).mapError fun text => .transaction ("BEGIN failed: " ++ text)

/-- Executes statements outside of any transaction of this connection. -/
def batch (sql : String) : Work Site DatabaseError Unit := do
  lock
  (Site.batch sql).mapError .ofEngine

/-- The first column of every row of a query. -/
def column (sql : String) : Work Site DatabaseError (List String) := do
  lock
  (Site.readColumn sql).mapError .ofEngine

/-- The number of rows of a query. -/
def count (inner : String) : Work Site DatabaseError Nat := do
  lock
  (Site.count inner).mapError .ofEngine

/-- The schema and the table that a dotted name means: the last dot separates them, and without
one the schema is `main`. -/
def relationName (name : String) : String × String :=
  match Text.splitLast? '.' name.toList with
  | some (schema, table) => (String.ofList schema, String.ofList table)
  | none => ("main", name)

/-- Whether a table or view of this name exists. -/
def relationExists (name : String) : Work Site DatabaseError Bool := do
  lock
  let (schema, table) := relationName name
  let n ← (Site.countRelations schema table).mapError .ofEngine
  pure (decide (0 < n))

end Connection

end SchemaUpgrade
