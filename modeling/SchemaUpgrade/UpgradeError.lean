import SchemaUpgrade.DatabaseError
import SchemaUpgrade.Files.ReadError
import SchemaUpgrade.History
/-!
# Errors of an upgrade

What can stop an upgrade, from the first mistake in its setup to the last failed commit.  Each
error is a cause; `UpgradeError.message` words it, `UpgradeError.cause?` is the error under it,
and `UpgradeError.root` looks through the joins with failed rollbacks.

Work that can panic ends with a `Halt` instead: a failure, or the panic itself, which is no error
value and is passed on unchanged by everything that handles errors.
-/

namespace SchemaUpgrade

/-- The part of a run in which the database failed. -/
inductive Phase where
  | createTable
  | listApplied
  | beginTransaction
  | register
  | commit
  /-- A part known only by its name. -/
  | named (name : String)
  deriving DecidableEq, Repr, Inhabited

/-- What could not be done. -/
def Phase.text : Phase → String
  | .createTable => "create migration table"
  | .listApplied => "list applied migrations"
  | .beginTransaction => "begin transaction"
  | .register => "register migration"
  | .commit => "commit migration"
  | .named name => name

/-- A reason why an upgrade stopped. -/
inductive UpgradeError where
  /-- No dialect was chosen. -/
  | noDialect
  /-- No migration was given. -/
  | noMigrations
  /-- The name of the bookkeeping table is empty. -/
  | emptyTableName
  /-- The name of the bookkeeping table has a character that is not allowed. -/
  | invalidTableName (name : String)
  /-- A directory of scripts could not be read. -/
  | readDir (path : String) (cause : ReadError)
  /-- The database failed in some part of the run. -/
  | backend (phase : Phase) (cause : DatabaseError)
  /-- The migrations do not continue the history. -/
  | history (error : HistoryError)
  /-- The script of a migration could not be read. -/
  | unreadable (key : String) (cause : ReadError)
  /-- A batch of a migration failed. -/
  | step (key : String) (index : Nat) (cause : DatabaseError)
  /-- A programmed migration failed. -/
  | apply (key : String) (message : String)
  /-- The rollback after `error` failed as well. -/
  | rollbackFailed (error : UpgradeError) (rollback : DatabaseError)
  /-- The run was cancelled before its next migration. -/
  | cancelled (applied : Nat)
  deriving DecidableEq, Repr, Inhabited

namespace UpgradeError

/-- The sentence that describes the error. -/
def message : UpgradeError → String
  | .noDialect => "[M001] No dialect configured"
  | .noMigrations => "[M002] No migrations configured"
  | .emptyTableName => "[M003] Migration table name is empty"
  | .invalidTableName name =>
    "[M004] Invalid migration table name '" ++ name
      ++ "': only ASCII letters, digits and '_' are allowed"
  | .readDir path cause =>
    "[M005] Failed to read migration directory " ++ path ++ ": " ++ cause.message
  | .backend phase cause => "[M006] Could not " ++ phase.text ++ ": " ++ cause.message
  | .history error => error.message
  | .unreadable key cause =>
    "[M008] Failed to read migration '" ++ key ++ "': " ++ cause.message
  | .step key index cause =>
    "[M009] Migration '" ++ key ++ "' failed at step " ++ toString index ++ ": "
      ++ cause.message
  | .apply key text => "[M010] Migration '" ++ key ++ "' failed: " ++ text
  | .rollbackFailed error rollback =>
    "[M011] " ++ error.message ++ "; rollback also failed: " ++ rollback.message
  | .cancelled applied =>
    "[M012] Migration run cancelled after " ++ toString applied ++ " applied migration(s)"

/-- The sentence of the error under this one, if it stands on another error. -/
def cause? : UpgradeError → Option String
  | .readDir _ cause | .unreadable _ cause => some cause.message
  | .backend _ cause | .step _ _ cause => some cause.message
  | _ => none

/-- The error together with the outcome of the rollback that followed it. -/
def joinRollback (error : UpgradeError) : (rollback : Except DatabaseError Unit) → UpgradeError
  | .ok () => error
  | .error rollback => .rollbackFailed error rollback

/-- The error that stopped the run, before any failed rollback. -/
def root : UpgradeError → UpgradeError
  | .rollbackFailed error _ => error.root
  | error => error

/-- The mismatch with the history that stopped the run, if it was one. -/
def historyError? (error : UpgradeError) : Option HistoryError :=
  match error.root with
  | .history mismatch => some mismatch
  | _ => none

/-- Whether the error lies in the setup of the run. -/
def isSetup : UpgradeError → Bool
  | .noDialect | .noMigrations | .emptyTableName | .invalidTableName _ | .readDir _ _ => true
  | _ => false

end UpgradeError

/-- Why work ended early: it failed, or somebody panicked. -/
inductive Halt (ε : Type) where
  | failure (error : ε)
  | panic
  deriving DecidableEq, Repr, Inhabited

end SchemaUpgrade
