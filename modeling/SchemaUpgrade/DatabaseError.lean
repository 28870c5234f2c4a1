import SchemaUpgrade.Text.Search
/-!
# Database errors

The errors of a connection.  A message of the engine itself is classified by its wording, the only
thing the engine tells: it either speaks of a missing table or view, or of a failed statement.

An error that was followed by a rollback is joined with the outcome of that rollback.  A rollback
that succeeded leaves it as it is; one that failed is told after it.
-/

namespace SchemaUpgrade

/-- An error of a database connection. -/
inductive DatabaseError where
  /-- The database could not be opened. -/
  | connection (message : String)
  /-- A statement failed. -/
  | execution (message : String)
  /-- A statement failed because it names an unknown table or view. -/
  | tableNotFound (message : String)
  /-- A transaction could not be opened or ended. -/
  | transaction (message : String)
  /-- The rollback after `error` failed as well. -/
  | rollbackFailed (error rollback : DatabaseError)
  /-- Somebody panicked while holding the connection. -/
  | poisoned (message : String)
  deriving DecidableEq, Repr, Inhabited

namespace DatabaseError

/-- The sentence that describes the error. -/
def message : DatabaseError → String
  | .connection text => "[D001] Database connection failed: " ++ text
  | .execution text => "[D002] SQL execution failed: " ++ text
  | .tableNotFound text => "[D003] Table or view not found: " ++ text
  | .transaction text => "[D004] Transaction failed: " ++ text
  | .rollbackFailed error rollback =>
    "[D005] " ++ error.message ++ "; rollback also failed: " ++ rollback.message
  | .poisoned text => "[D006] Database mutex poisoned: " ++ text

/-- Whether a message of the engine speaks of a missing table or view. -/
def namesMissingTable (text : String) : Bool :=
  Text.occursIn "Table with name" text || Text.occursIn "Table or view with name" text
    || (Text.occursIn "Catalog Error" text && Text.occursIn "Table" text
      && Text.occursIn "not found" text)

/-- The error that a message of the engine means. -/
def ofEngine (text : String) : DatabaseError :=
  if namesMissingTable text then .tableNotFound text else .execution text

/-- The error together with the outcome of the rollback that followed it. -/
def joinRollback (error : DatabaseError) : (rollback : Except DatabaseError Unit) → DatabaseError
  | .ok () => error
  | .error rollback => .rollbackFailed error rollback

/-- The refusal of a poisoned connection. -/
def lockPoisoned : DatabaseError := .poisoned "poisoned lock: another task failed inside"

end DatabaseError

end SchemaUpgrade
