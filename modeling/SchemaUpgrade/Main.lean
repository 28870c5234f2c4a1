import SchemaUpgrade.Cli.Commands
import SchemaUpgrade.Files.Bundle
/-!
# The program

The program does what its command line asks for, over databases that live in memory as long as it
runs: it rehearses an upgrade.  The files of the project come as a bundle on the standard input.
Results go to the standard output, remarks, log events and failures to the standard error.
-/

namespace SchemaUpgrade.Program

/-- How the program is called. -/
def usage : List String :=
  ["Usage: st [OPTIONS] <COMMAND>",
    "",
    "Commands:",
    "  migrate  Apply pending migrations",
    "  status   Show applied and pending migrations",
    "",
    "Options:",
    "  -v, --verbose                    Say more than the result",
    "  -p, --project-dir <PROJECT_DIR>  Path of the project [default: .]",
    "  -c, --config <CONFIG>            Path of the configuration file",
    "  -d, --database <DATABASE>        Path of the database [env: STRATUM_DATABASE]",
    "  -o, --output <OUTPUT>            Form of the result: table or json",
    "  -h, --help                       Print this text",
    "  -V, --version                    Print the version"]

/-- The version of the program. -/
def version : String := "st 0.1.0"

/-- Why a command line was refused, in words. -/
def refusalText : Cli.Refusal → String
  | .invalidValue => "error: an option lacks its value or has one that it does not take"
  | .unknownArgument => "error: unexpected argument"
  | .invalidCommand => "error: unrecognized command"
  | .unexpectedValue => "error: a value was given to an option that takes none"
  | .repeated => "error: an option was given twice"
  | .missingCommand => "error: a command is required"
  | .help | .helpForNothing | .version => ""

/-- The exit code after a refused command line: asking for the usage or the version is no error. -/
def refusalCode : Cli.Refusal → UInt32
  | .help | .version => 0
  | _ => 2

/-- A log event as a line. -/
def eventLine (event : Log.Event) : String :=
  "[" ++ event.notice.level.word ++ "] " ++ event.notice.text "-"

/-- The log settings of a run. -/
def logging (invocation : Cli.Invocation) : Log.Settings where
  enabled := Log.Threshold.filter (some (if invocation.verbose then .debug else .info))

/-- Tells why a command line was refused. -/
def refuse (refusal : Cli.Refusal) : IO UInt32 := do
  match refusal with
  | .version => IO.println version
  | .help => usage.forM IO.println
  | .helpForNothing => usage.forM fun line => IO.eprintln line
  | _ => IO.eprintln (refusalText refusal)
  return refusalCode refusal

/-- Reads a stream to its end. -/
partial def readAll (stream : IO.FS.Stream) (before : ByteArray) : IO ByteArray := do
  let chunk ← stream.read 65536
  if chunk.isEmpty then return before else readAll stream (before ++ chunk)

/-- Does what an invocation asks for over the files of the standard input. -/
def perform (invocation : Cli.Invocation) : IO UInt32 := do
  let bytes ← readAll (← IO.getStdin) .empty
  match Tree.ofBundle bytes.toList with
  | none =>
    IO.eprintln "error: the standard input is no bundle of files"
    return 2
  | some tree =>
    let host : Host := { files := tree.files, logging := logging invocation }
    let done := Cli.execute invocation host
    done.journal.events.forM fun event => IO.eprintln (eventLine event)
    done.state.console.err.forM fun line => IO.eprintln line
    done.state.console.out.forM IO.println
    match done.outcome with
    | .ok () => return 0
    | .error failure =>
      failure.chain.forM fun line => IO.eprintln line
      return failure.exitCode

end SchemaUpgrade.Program

def main (args : List String) : IO UInt32 := do
  match SchemaUpgrade.Cli.Invocation.ofArguments args (← IO.getEnv "STRATUM_DATABASE") with
  | .error refusal => SchemaUpgrade.Program.refuse refusal
  | .ok invocation => SchemaUpgrade.Program.perform invocation
