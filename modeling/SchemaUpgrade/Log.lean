import SchemaUpgrade.History
/-!
# Log events

Everything worth telling about a run is a `Notice`: a cause, whose level, target and wording are
functions of it.  A notice is addressed by a `Route`, either to one injected sink or to the logger
of the process, and becomes an `Event` only if it is admitted there: by the sink itself, or by the
ceiling of the process and by its logger.  A receiver decides by the level and the target of a
notice, in whatever way it likes; the ceiling is a threshold for levels.  An event therefore reaches
at most one sink.

How long a migration took is not known here.  The wording of the notice that tells it takes the
text of the duration as an argument.
-/

namespace SchemaUpgrade.Log

/-- The severity of a notice, gravest first. -/
inductive Level where
  | error
  | warn
  | info
  | debug
  | trace
  deriving DecidableEq, Repr, Inhabited

namespace Level

/-- The place of a level, counted from the gravest. -/
def rank : Level → Nat
  | .error => 1
  | .warn => 2
  | .info => 3
  | .debug => 4
  | .trace => 5

/-- The word for a level in a log line. -/
def word : Level → String
  | .error => "ERROR"
  | .warn => "WARN"
  | .info => "INFO"
  | .debug => "DEBUG"
  | .trace => "TRACE"

end Level

/-- The least grave level that passes; `none` lets nothing pass. -/
abbrev Threshold := Option Level

/-- Whether a level passes a threshold. -/
def Threshold.admits (threshold : Threshold) (level : Level) : Bool :=
  match threshold with
  | none => false
  | some last => level.rank ≤ last.rank

/-- What a receiver wants to hear, by level and target. -/
abbrev Filter := Level → String → Bool

/-- The filter that asks for the level alone. -/
def Threshold.filter (threshold : Threshold) : Filter := fun level _ => threshold.admits level

/-- A receiver of log events that a caller injects. -/
structure Sink where
  name : String
  enabled : Filter := fun _ _ => true
  deriving Inhabited

/-- Where notices are sent. -/
inductive Route where
  /-- To the logger of the process. -/
  | ofProcess
  /-- To an injected sink, whatever the process admits. -/
  | toSink (sink : Sink)
  deriving Inhabited

/-- Whether the route leads to an injected sink. -/
def Route.isInjected : Route → Bool
  | .ofProcess => false
  | .toSink _ => true

/-- The log settings of the process: a ceiling for all levels, and what its logger enables. -/
structure Settings where
  maxLevel : Threshold := some .trace
  enabled : Filter := fun _ _ => true
  deriving Inhabited

/-- What there is to tell about a run. -/
inductive Notice where
  /-- A script was found in a directory. -/
  | scriptFound (name : String)
  /-- Nothing was applied before. -/
  | noHistory
  /-- The key that was applied last. -/
  | lastRecorded (key : String)
  /-- The recorded keys are not in ascending order. -/
  | outOfOrder (error : HistoryError)
  /-- A migration is skipped. -/
  | alreadyApplied (key : String)
  /-- A migration starts. -/
  | applying (key : String)
  /-- A migration is committed. -/
  | applied (key : String)
  /-- A batch of a script is about to be executed. -/
  | step (key : String) (index : Nat)
  /-- The rollback of a transaction that nobody ended failed. -/
  | rollbackLost (message : String)
  deriving DecidableEq, Repr, Inhabited

namespace Notice

/-- The severity of a notice. -/
def level : Notice → Level
  | .scriptFound _ | .alreadyApplied _ | .applying _ | .applied _ | .step _ _ => .info
  | .noHistory | .lastRecorded _ => .debug
  | .outOfOrder _ => .error
  | .rollbackLost _ => .warn

/-- The component that a notice is attributed to. -/
def target : Notice → String
  | .rollbackLost _ => "st_db::duckdb"
  | _ => "stratum"

/-- The wording of a notice.  `elapsed` is the text of the time that a migration took. -/
def text (elapsed : String) : Notice → String
  | .scriptFound name => "migration file found name=" ++ name
  | .noHistory => "no previous migrations"
  | .lastRecorded key => "last migration key=" ++ key
  | .outOfOrder error => "migrations not applied in order: " ++ error.message
  | .alreadyApplied key => "migration already applied key=" ++ key
  | .applying key => "applying migration key=" ++ key
  | .applied key => "migration applied key=" ++ key ++ " duration=" ++ elapsed
  | .step key index => "migration step key=" ++ key ++ " step=" ++ toString index
  | .rollbackLost message => "rollback of abandoned transaction failed: " ++ message

end Notice

/-- A notice that was admitted; `sink` is `none` for the logger of the process. -/
structure Event where
  sink : Option String
  notice : Notice
  deriving DecidableEq, Repr, Inhabited

/-- The event that a notice becomes on a route, if it is admitted there. -/
def Settings.deliver (settings : Settings) (route : Route) (notice : Notice) : Option Event :=
  match route with
  | .toSink sink =>
    if sink.enabled notice.level notice.target then some ⟨some sink.name, notice⟩ else none
  | .ofProcess =>
    if settings.maxLevel.admits notice.level && settings.enabled notice.level notice.target then
      some ⟨none, notice⟩
    else none

end SchemaUpgrade.Log
