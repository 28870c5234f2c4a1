import SchemaUpgrade.Cli.Arguments
import SchemaUpgrade.Cli.Failure
import SchemaUpgrade.Cli.Table
import SchemaUpgrade.Host
import SchemaUpgrade.Project.Reading
import SchemaUpgrade.Runner.Run
import SchemaUpgrade.Text.Json
/-!
# The commands

Both commands load the configuration, check that its dialect runs on the database, open the
database, and set up the migrations of the project; nothing is sent to the database before all of
that has succeeded.  `migrate` then applies what is pending, and `status` only tells it.

## Main definitions

* `Opened`, `openProject`: the project and its database.
* `databasePath`: which database is opened.
* `migrate`, `status`, `execute`.
-/

namespace SchemaUpgrade.Cli

/-- The path of the database to open: the one that was asked for, else the configured one. -/
def databasePath (config : Config) (invocation : Invocation) : String :=
  invocation.database.getD (config.databasePathFrom invocation.projectDir)

/-- A project whose database is open. -/
structure Opened where
  config : Config
  connection : ConnectionId
  deriving Inhabited

/-- Loads the configuration that an invocation means. -/
def loadConfig (files : Files) (invocation : Invocation) : Except Failure Config :=
  match invocation.config with
  | some path => (Config.load files path).mapError (.config .namedConfig)
  | none => (Config.loadFrom files invocation.projectDir).mapError (.config .projectConfig)

/-- Says something that was only asked for by being verbose. -/
def remark (invocation : Invocation) (text : String) : Work Host Failure Unit :=
  if invocation.verbose then Host.remark ("[verbose] " ++ text) else pure ()

/-- Loads the configuration and opens the database. -/
def openProject (invocation : Invocation) : Work Host Failure Opened := do
  let config ← Work.ofExcept (loadConfig (← Work.state).files invocation)
  Work.ofExcept ((config.checkDatabaseType Connection.databaseType).mapError (.config .dialect))
  let path := databasePath config invocation
  let connection ← (Host.connect (.ofText path)).mapError (.database (.connect path))
  remark invocation ("database=" ++ path ++ " dialect=" ++ config.vendor.name
    ++ " table=" ++ config.tableName)
  pure { config, connection }

/-- Sets up the migrations of a project, with further settings behind those of its
configuration. -/
def setUp (opened : Opened) (root : String) (more : List Setting) : Work Host Failure Runner := do
  let draft ← Host.setUp fun around =>
    ({} : Draft).addAll around (opened.config.settings root ++ more)
  Work.ofExcept (draft.build.mapError (.upgrade .setup))

/-- Prints the statuses of keys as a table. -/
def printTable (rows : List Row) (footer : String) : Work Host Failure Unit :=
  Host.printAll (Table.lines rows footer)

/-- The rows of keys that share a status. -/
def rowsOf (status : String) (keys : List String) : List Row :=
  keys.map fun key => { key, status }

/-- Prints what a run did. -/
def printReport (report : Report) : Format → Work Host Failure Unit
  | .json => Host.printAll (Text.Json.recordLines
      [("applied", .texts report.applied), ("skipped", .texts report.skipped)])
  | .table =>
    printTable (rowsOf "skipped" report.skipped ++ rowsOf "applied" report.applied)
      (if report.applied.isEmpty then "Database is up to date"
       else toString report.applied.length ++ " migration(s) applied")

/-- Prints what a run would do. -/
def printPlan (plan : Plan) : Format → Work Host Failure Unit
  | .json => Host.printAll (Text.Json.recordLines
      [("resume_point", .text plan.resumePoint), ("applied", .texts plan.applied),
        ("pending", .texts plan.pending)])
  | .table =>
    printTable (rowsOf "applied" plan.applied ++ rowsOf "pending" plan.pending)
      (toString plan.applied.length ++ " applied, " ++ toString plan.pending.length ++ " pending")

/-- Applies what is pending. -/
def migrate (invocation : Invocation) : Work Host Failure Unit := do
  let opened ← openProject invocation
  let runner ← setUp opened invocation.projectDir [.cancel .interruption]
  remark invocation (toString runner.keys.length ++ " migration(s) configured")
  match ← (Host.through opened.connection runner.run).attempt with
  | .ok report => printReport report invocation.output
  | .error (.failure (.cancelled applied)) =>
    Host.remark ("Interrupted: " ++ toString applied ++ " migration(s) applied before stopping")
    Work.fail .interrupted
  | .error (.failure error) => Work.fail (.upgrade .run error)
  | .error .panic => Work.fail .panicked

/-- Tells what is applied and what is pending. -/
def status (invocation : Invocation) : Work Host Failure Unit := do
  let opened ← openProject invocation
  let runner ← setUp opened invocation.projectDir []
  let plan ← (Host.through opened.connection runner.plan).mapError (.upgrade .plan)
  printPlan plan invocation.output

/-- Does what an invocation asks for. -/
def execute (invocation : Invocation) : Work Host Failure Unit :=
  match invocation.command with
  | .migrate => migrate invocation
  | .status => status invocation

end SchemaUpgrade.Cli
