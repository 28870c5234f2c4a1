import SchemaUpgrade.Dialect
import SchemaUpgrade.Script
import SchemaUpgrade.UpgradeError
/-!
# Migrations

A migration pairs the key it is ordered and recorded by with work to do inside a transaction that
somebody else opens and ends: a script held in memory, a script in a file that is read when the
migration is applied, or a program, which is a list of actions.

An action sends statements, records a key, executes a stream as a script, applies another
migration, sets a cancel flag, fails or panics.  A program stops at the first action that fails.

Programs are straight-line.  A program cannot go on after an action that failed, as code does that
drops an error; it cannot choose its next action by the answer to an earlier one; and it cannot turn
a failed call into a panic.  What is proved of migrations is proved of programs without these.

## Main definitions

* `Script.execute`: executes a script batch by batch, up to the first failure.
* `Migration`, `Action`, and what they do: `Migration.apply`, `Action.run`.
-/

namespace SchemaUpgrade

open Text (ByteStream)

/-! ## Executing a script -/

namespace Script

/-- Executes the items of a script from number `index` on.  Each batch is told before it is sent;
the first batch that fails, or the error that broke the stream, ends the work. -/
def executeItems (key : String) (route : Log.Route) (index : Nat) :
    List Item → Work Site (Halt UpgradeError) Unit
  | [] => pure ()
  | .error cause :: _ => Work.fail (.failure (.unreadable key cause))
  | .ok batch :: rest => do
    Site.log route (.step key index)
    (Transaction.batch batch).mapError fun cause => .failure (.step key index cause)
    executeItems key route (index + 1) rest

/-- Executes a stream as the script of the migration `key`. -/
def execute (stream : ByteStream) (key : String) (route : Log.Route) :
    Work Site (Halt UpgradeError) Unit :=
  executeItems key route 0 (items stream)

end Script

/-! ## Migrations and actions -/

mutual

/-- A unit of change. -/
inductive Migration where
  /-- A script held in memory. -/
  | script (key : String) (sql : String) (route : Log.Route)
  /-- A script in a file. -/
  | file (key : String) (path : String) (route : Log.Route)
  /-- A program. -/
  | program (key : String) (actions : List Action)

/-- A step of a program. -/
inductive Action where
  /-- Executes statements without parameters. -/
  | batch (sql : String)
  /-- Executes one statement with parameters. -/
  | execute (sql : String) (params : List String)
  /-- Records a key in a bookkeeping table. -/
  | recordKey (dialect : Dialect) (key table : String)
  /-- Executes a stream as the script of the migration `key`. -/
  | stream (source : ByteStream) (key : String) (route : Log.Route)
  /-- Applies another migration. -/
  | apply (migration : Migration)
  /-- Sets a cancel flag. -/
  | cancel (flag : CancelFlag)
  /-- Fails. -/
  | fail (error : UpgradeError)
  /-- Panics. -/
  | panic

end

instance : Inhabited Migration := ⟨.program "" []⟩

instance : Inhabited Action := ⟨.panic⟩

/-- What an action answers. -/
inductive ActionResult where
  | done
  /-- The number of rows that a statement affected. -/
  | affected (rows : Nat)
  deriving DecidableEq, Repr, Inhabited

namespace Migration

/-- What a migration is ordered and recorded by. -/
def key : Migration → String
  | .script key _ _ | .file key _ _ | .program key _ => key

/-- Where a migration tells its steps; a program has no route of its own. -/
def route : Migration → Log.Route
  | .script _ _ route | .file _ _ route => route
  | .program _ _ => .ofProcess

/-- The migration for the file at `path`, keyed by the path as given. -/
def ofFile (path : String) (route : Log.Route) : Migration :=
  .file path path route

/-- The migration for the file `name` in a directory, keyed by the name alone. -/
def inDirectory (directory name : String) (route : Log.Route) : Migration :=
  .file name (joinPath directory name) route

end Migration

/-- Executes the script in the file at `path`. -/
def executeFile (key path : String) (route : Log.Route) :
    Work Site (Halt UpgradeError) Unit := do
  match (← Work.state).files.read path with
  | .error cause => Work.fail (.failure (.unreadable key cause))
  | .ok bytes => Script.execute { bytes := bytes } key route

/-- The error of a statement that the program `key` sent. -/
def programError (key : String) (error : DatabaseError) : Halt UpgradeError :=
  .failure (.apply key error.message)

mutual

/-- Does the work of a migration inside the open transaction. -/
def Migration.apply : Migration → Work Site (Halt UpgradeError) Unit
  | .script key sql route => Script.execute (ByteStream.ofString sql) key route
  | .file key path route => executeFile key path route
  | .program key actions => runActions key actions

/-- Does one action on behalf of the program `key`. -/
def Action.run (key : String) : Action → Work Site (Halt UpgradeError) ActionResult
  | .batch sql => do
    (Transaction.batch sql).mapError (programError key)
    pure .done
  | .execute sql params => do
    let rows ← (Transaction.execute sql params).mapError (programError key)
    pure (.affected rows)
  | .recordKey dialect id table => do
    (dialect.recordKey id table).mapError (programError key)
    pure .done
  | .stream source streamKey route => do
    Script.execute source streamKey route
    pure .done
  | .apply migration => do
    migration.apply
    pure .done
  | .cancel flag => do
    Site.raise flag
    pure .done
  | .fail error => Work.fail (.failure error)
  | .panic => Work.fail .panic

/-- Does actions in order, up to the first that fails. -/
def runActions (key : String) : List Action → Work Site (Halt UpgradeError) Unit
  | [] => pure ()
  | action :: rest => do
    let _ ← action.run key
    runActions key rest

end

end SchemaUpgrade
