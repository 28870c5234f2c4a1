/-!
# The words of a command line

A command line names one of two commands and gives options, before the name of the command or after
it.  Some options are known in both places; what is said after the name of the command wins over
what is said before it, and both win over what the environment says.

A word is a long option (`--name` or `--name=value`), a row of short options (`-abc`), the end of
the options (`--`), or a plain word.  An option that needs a value and has none takes the next word
that is not an option.  It is looked at only when the next option comes, or when all words of the
command are read; so of two faults the one that is seen later in the line may be told first.

## Main definitions

* `Invocation`, what a good command line asks for.
* `Refusal`, why there is nothing to run.
* `Word.ofText`, the kind of a word.
* `scan`, the words of one place of the command line.
* `Invocation.ofArguments`, the whole command line.
-/

namespace SchemaUpgrade.Cli

/-- The commands. -/
inductive Command where
  | migrate
  | status
  deriving DecidableEq, Repr, Inhabited

/-- The command of a name. -/
def Command.ofName? : String → Option Command
  | "migrate" => some .migrate
  | "status" => some .status
  | _ => none

/-- The word that stands for the description of a command. -/
def helpName : String := "help"

/-- The forms of the output. -/
inductive Format where
  | table
  | json
  deriving DecidableEq, Repr, Inhabited

/-- The form of a name. -/
def Format.ofName? : String → Option Format
  | "table" => some .table
  | "json" => some .json
  | _ => none

/-- What a command line asks for. -/
structure Invocation where
  /-- Whether to say more than the result. -/
  verbose : Bool
  /-- The path of the project. -/
  projectDir : String
  /-- The path of the configuration, if it is not the one of the project. -/
  config : Option String
  /-- The path of the database, if it is not the configured one. -/
  database : Option String
  command : Command
  output : Format
  deriving DecidableEq, Repr, Inhabited

/-- Why a command line is not an invocation. -/
inductive Refusal where
  /-- An option without its value, or with one that it does not take. -/
  | invalidValue
  /-- An option that is not known here, or a word too many. -/
  | unknownArgument
  /-- A word that is no command. -/
  | invalidCommand
  /-- A value for an option that takes none. -/
  | unexpectedValue
  /-- An option that stands twice in one place. -/
  | repeated
  /-- The description was asked for. -/
  | help
  /-- Nothing at all was asked for. -/
  | helpForNothing
  /-- Options without a command. -/
  | missingCommand
  /-- The version was asked for. -/
  | version
  deriving DecidableEq, Repr, Inhabited

/-- The two places of a command line. -/
inductive Place where
  /-- Before the name of the command. -/
  | before
  /-- After the name of the command. -/
  | after
  deriving DecidableEq, Repr, Inhabited

/-- The options that take a value. -/
inductive Valued where
  | projectDir
  | config
  | database
  | output
  deriving DecidableEq, Repr, Inhabited

/-- The options. -/
inductive Flag where
  | verbose
  | help
  | version
  | valued (option : Valued)
  deriving DecidableEq, Repr, Inhabited

/-- Whether an option is known in a place. -/
def Flag.isKnown (place : Place) : Flag → Bool
  | .version => place = .before
  | .valued .output => place = .after
  | _ => true

/-- The long options. -/
def Flag.ofName? : String → Option Flag
  | "verbose" => some .verbose
  | "help" => some .help
  | "version" => some .version
  | "project-dir" => some (.valued .projectDir)
  | "config" => some (.valued .config)
  | "database" => some (.valued .database)
  | "output" => some (.valued .output)
  | _ => none

/-- The short options. -/
def Flag.ofLetter? : Char → Option Flag
  | 'v' => some .verbose
  | 'h' => some .help
  | 'V' => some .version
  | 'p' => some (.valued .projectDir)
  | 'c' => some (.valued .config)
  | 'd' => some (.valued .database)
  | 'o' => some (.valued .output)
  | _ => none

/-- The kinds of words. -/
inductive Word where
  /-- A long option, and the value that is joined to it. -/
  | long (name : String) (value : Option String)
  /-- A row of short options; there is at least one. -/
  | short (letters : List Char)
  /-- The end of the options. -/
  | endOfOptions
  | plain (text : String)
  deriving DecidableEq, Repr, Inhabited

/-- The kind of a word.  A single dash is plain, and a value is joined behind the first `=`. -/
def Word.ofText (text : String) : Word :=
  match text.toList with
  | '-' :: '-' :: [] => .endOfOptions
  | '-' :: '-' :: rest =>
    .long (String.ofList (rest.takeWhile (· ≠ '=')))
      (match rest.dropWhile (· ≠ '=') with
       | [] => none
       | _ :: value => some (String.ofList value))
  | '-' :: letter :: letters => .short (letter :: letters)
  | _ => .plain text

/-- What the words of one place have given so far. -/
structure Given where
  verbose : Bool := false
  projectDir : Option String := none
  config : Option String := none
  database : Option String := none
  output : Option Format := none
  /-- The last option that takes a value, with its value if it is there, while nobody has looked
  at it. -/
  pending : Option (Valued × Option String) := none
  deriving DecidableEq, Repr, Inhabited

namespace Given

/-- Whether the next plain word is the value of an option. -/
def isWaiting (given : Given) : Bool :=
  match given.pending with
  | some (_, none) => true
  | _ => false

/-- Whether there is no option at all. -/
def isEmpty (given : Given) : Bool :=
  given = {}

/-- Gives an option its value, once. -/
def set (given : Given) (option : Valued) (value : String) : Except Refusal Given :=
  match option with
  | .projectDir =>
    if given.projectDir.isSome then .error .repeated
    else .ok { given with projectDir := some value }
  | .config =>
    if given.config.isSome then .error .repeated else .ok { given with config := some value }
  | .database =>
    if given.database.isSome then .error .repeated else .ok { given with database := some value }
  | .output =>
    if given.output.isSome then .error .repeated
    else
      match Format.ofName? value with
      | some format => .ok { given with output := some format }
      | none => .error .invalidValue

/-- Looks at the option that is pending. -/
def settle (given : Given) : Except Refusal Given :=
  match given.pending with
  | none => .ok given
  | some (_, none) => .error .invalidValue
  | some (option, some value) => { given with pending := none }.set option value

/-- A flag that takes no value. -/
def raise (given : Given) (flag : Flag) : Except Refusal Given := do
  let given ← given.settle
  match flag with
  | .verbose => if given.verbose then .error .repeated else .ok { given with verbose := true }
  | .help => .error .help
  | .version => .error .version
  | .valued _ => .ok given

/-- An option and the value that is joined to it; without one the option is pending. -/
def assign (given : Given) (option : Valued) (value : Option String) : Except Refusal Given := do
  let given ← given.settle
  match value with
  | some value => given.set option value
  | none => .ok { given with pending := some (option, none) }

/-- A long option. -/
def long (given : Given) (place : Place) (name : String) (value : Option String) :
    Except Refusal Given :=
  match (Flag.ofName? name).filter (·.isKnown place) with
  | none => .error .unknownArgument
  | some (.valued option) => given.assign option value
  | some flag => if value.isSome then .error .unexpectedValue else given.raise flag

/-- What follows a short option that takes a value: nothing, the value, or `=` and the value. -/
def joinedValue : List Char → Option String
  | [] => none
  | '=' :: value => some (String.ofList value)
  | value => some (String.ofList value)

/-- A row of short options. -/
def short (given : Given) (place : Place) : List Char → Except Refusal Given
  | [] => .ok given
  | letter :: letters =>
    match (Flag.ofLetter? letter).filter (·.isKnown place) with
    | none => .error .unknownArgument
    | some (.valued option) => given.assign option (joinedValue letters)
    | some flag =>
      match given.raise flag with
      | .error refusal => .error refusal
      | .ok given => given.short place letters

end Given

/-- The refusal of a plain word that is no command. -/
def Place.refusal : Place → Refusal
  | .before => .invalidCommand
  | .after => .unknownArgument

/-- The end of a place: what was given there, and the command with the words after its name. -/
structure Scanned where
  given : Given
  command : Option (Command × List String)
  deriving Inhabited

/-- The description of a command, or of the description itself. -/
def helpFor : List String → Refusal
  | [] => .help
  | [name] =>
    if (Command.ofName? name).isSome || name = helpName then .help else .invalidCommand
  | _ => .invalidCommand

/-- What stands behind the end of the options: no word is allowed there. -/
def behindOptions (place : Place) (given : Given) : List String → Except Refusal Scanned
  | [] => .ok ⟨given, none⟩
  | name :: _ =>
    if place = .before && ((Command.ofName? name).isSome || name = helpName) then
      .error .unknownArgument
    else .error place.refusal

/-- The words of one place, up to the name of a command. -/
def scan (place : Place) : Given → List String → Except Refusal Scanned
  | given, [] => .ok ⟨given, none⟩
  | given, word :: rest =>
    match Word.ofText word with
    | .endOfOptions => behindOptions place given rest
    | .long name value =>
      match given.long place name value with
      | .error refusal => .error refusal
      | .ok given => scan place given rest
    | .short letters =>
      match given.short place letters with
      | .error refusal => .error refusal
      | .ok given => scan place given rest
    | .plain text =>
      match given.pending with
      | some (option, none) => scan place { given with pending := some (option, some text) } rest
      | _ =>
        if place = .before then
          if text = helpName then .error (helpFor rest)
          else
            match Command.ofName? text with
            | some command => .ok ⟨given, some (command, rest)⟩
            | none => .error place.refusal
        else .error place.refusal

/-- Reads the words behind the name of the program; `environment` is the database that the
environment names. -/
def Invocation.ofArguments (arguments : List String) (environment : Option String) :
    Except Refusal Invocation := do
  let before ← scan .before {} arguments
  match before.command with
  | none =>
    let given ← before.given.settle
    if given.isEmpty && environment.isNone then .error .helpForNothing
    else .error .missingCommand
  | some (command, rest) =>
    let after ← scan .after {} rest
    let after ← after.given.settle
    let before ← before.given.settle
    return {
      verbose := before.verbose || after.verbose
      projectDir := (after.projectDir.or before.projectDir).getD "."
      config := after.config.or before.config
      database := (after.database.or before.database).or environment
      command
      output := after.output.getD .table }

end SchemaUpgrade.Cli
