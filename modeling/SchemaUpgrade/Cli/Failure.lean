import SchemaUpgrade.Project.Config
import SchemaUpgrade.UpgradeError
/-!
# Failures of commands

A command that fails tells what it was doing, then the error that stopped it, then the error under
that one, if there is one.  A run that was cancelled tells nothing more, as it has already said so.
-/

namespace SchemaUpgrade.Cli

/-- What a command was doing. -/
inductive Stage where
  /-- Loading the configuration that the command line names. -/
  | namedConfig
  /-- Loading the configuration of the project. -/
  | projectConfig
  | dialect
  | connect (path : String)
  | setup
  | run
  | plan
  deriving DecidableEq, Repr, Inhabited

/-- The sentence about what a command was doing when it failed. -/
def Stage.message : Stage → String
  | .namedConfig => "Failed to load configuration file"
  | .projectConfig => "Failed to load project configuration"
  | .dialect => "Unsupported dialect in configuration"
  | .connect path => "Failed to connect to database: " ++ path
  | .setup => "Invalid migration setup"
  | .run => "Migration failed"
  | .plan => "Failed to compute migration status"

/-- Why a command failed. -/
inductive Failure where
  | config (stage : Stage) (error : ConfigError)
  | database (stage : Stage) (error : DatabaseError)
  | upgrade (stage : Stage) (error : UpgradeError)
  /-- The run was cancelled. -/
  | interrupted
  /-- A migration panicked. -/
  | panicked
  deriving DecidableEq, Repr, Inhabited

namespace Failure

/-- The sentences that tell a failure, from the outside inwards. -/
def chain : Failure → List String
  | .config stage error => [stage.message, error.message]
  | .database stage error => [stage.message, error.message]
  | .upgrade stage error => [stage.message, error.message] ++ error.cause?.toList
  | .interrupted => [""]
  | .panicked => ["Migration task panicked"]

/-- The exit code of a program that failed. -/
def exitCode : Failure → UInt32
  | .interrupted => 130
  | _ => 1

end Failure

end SchemaUpgrade.Cli
