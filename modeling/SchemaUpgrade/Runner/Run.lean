import SchemaUpgrade.Runner.Draft
/-!
# Planning and running an upgrade

A run goes through these stages and stops at the first error:

1. create the bookkeeping table unless it exists, in a transaction of its own;
2. list the recorded keys;
3. find the point from which to resume, or the mismatch with the history;
4. apply every migration past that point, in key order, each in one transaction together with the
   record of its key.

Between two migrations, never within one, the run looks at its cancel flag.  A plan is the first
three stages alone.

A migration that fails is rolled back.  A migration that panics is rolled back as well, and leaves
the connection poisoned.

## Main definitions

* `Plan`, `Runner.plan`; `Report`, `Runner.run`.
* `Runner.applyOne`: one migration in one transaction.
-/

namespace SchemaUpgrade

/-- What a run would do. -/
structure Plan where
  /-- The last recorded key; migrations up to it are skipped. -/
  resumePoint : Option String
  /-- The recorded keys, in the order in which they were applied. -/
  applied : List String
  /-- The keys still to be applied, in order. -/
  pending : List String
  deriving DecidableEq, Repr, Inhabited

/-- What a run did. -/
structure Report where
  /-- The keys that the run applied, in order. -/
  applied : List String := []
  /-- The keys that it skipped because they were applied before. -/
  skipped : List String := []
  deriving DecidableEq, Repr, Inhabited

/-- An error of the database in some part of a run. -/
def Phase.error (phase : Phase) (cause : DatabaseError) : UpgradeError := .backend phase cause

namespace Runner

variable (runner : Runner)

/-! ## Planning -/

/-- Tells where the history ends. -/
def logHistoryEnd (recorded : List String) : Work Site UpgradeError Unit :=
  match recorded.getLast? with
  | none => Site.log runner.route .noHistory
  | some last => Site.log runner.route (.lastRecorded last)

/-- Finds the point from which to resume.  A history out of order is told as well. -/
def resumeAfter (recorded : List String) : Work Site UpgradeError (Option String) :=
  match History.resumePoint runner.keys recorded with
  | .ok resume => pure resume
  | .error mismatch => do
    match mismatch with
    | .unsorted _ _ => Site.log runner.route (.outOfOrder mismatch)
    | _ => pure ()
    Work.fail (.history mismatch)

/-- Prepares the bookkeeping table and works out what a run would apply. -/
def plan : Work Site UpgradeError Plan := do
  (runner.dialect.ensureTable runner.tableName).mapError Phase.createTable.error
  let recorded ← (runner.dialect.listApplied runner.tableName).mapError Phase.listApplied.error
  runner.logHistoryEnd recorded
  let resume ← runner.resumeAfter recorded
  pure {
    resumePoint := resume
    applied := recorded
    pending := runner.keys.filter (History.isPending resume) }

/-! ## Running -/

/-- Records the key of a migration that was applied, and publishes the transaction. -/
def conclude (migration : Migration) : Work Site (Halt UpgradeError) Unit := do
  match ← (runner.dialect.recordKey migration.key runner.tableName).attempt with
  | .error cause =>
    let outcome ← Transaction.rollback.attempt
    Work.fail (.failure ((UpgradeError.backend .register cause).joinRollback outcome))
  | .ok () =>
    Transaction.commit.mapError fun cause => .failure (.backend .commit cause)

/-- Applies one migration and records its key, in one transaction. -/
def applyOne (migration : Migration) : Work Site (Halt UpgradeError) Unit := do
  Connection.begin.mapError fun cause => .failure (.backend .beginTransaction cause)
  match ← migration.apply.attempt with
  | .error .panic =>
    Transaction.abandon
    Connection.poison
    Work.fail .panic
  | .error (.failure error) =>
    let outcome ← Transaction.rollback.attempt
    Work.fail (.failure (error.joinRollback outcome))
  | .ok () => runner.conclude migration

/-- Looks whether the run was asked to stop. -/
def isCancelled {ε : Type} : Work Site ε Bool :=
  match runner.cancel with
  | none => pure false
  | some flag => Site.look flag

/-- Goes through the migrations that are left, with the report of those before them. -/
def applyFrom (resume : Option String) (report : Report) :
    List Migration → Work Site (Halt UpgradeError) Report
  | [] => pure report
  | migration :: rest =>
    if History.isPending resume migration.key then do
      if ← runner.isCancelled then
        Work.fail (.failure (.cancelled report.applied.length))
      else
        Site.log runner.route (.applying migration.key)
        runner.applyOne migration
        Site.log runner.route (.applied migration.key)
        applyFrom resume { report with applied := report.applied ++ [migration.key] } rest
    else do
      Site.log runner.route (.alreadyApplied migration.key)
      applyFrom resume { report with skipped := report.skipped ++ [migration.key] } rest

/-- Applies every migration that has not been applied yet. -/
def run : Work Site (Halt UpgradeError) Report := do
  let plan ← runner.plan.mapError .failure
  runner.applyFrom plan.resumePoint {} runner.migrations

end Runner

/-- Builds a draft and runs it once. -/
def Draft.run (draft : Draft) : Work Site (Halt UpgradeError) Report := do
  let runner ← Work.ofExcept (draft.build.mapError .failure)
  runner.run

end SchemaUpgrade
