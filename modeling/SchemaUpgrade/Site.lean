import SchemaUpgrade.Work
import SchemaUpgrade.Engine.Database
import SchemaUpgrade.Engine.Fault
import SchemaUpgrade.Files.Listing
/-!
# The site of a run

A *site* is everything that a connection and the work done over it can see: the files and the log
settings around it, the database behind it, the faults of the engine, the cancel flags that are
set or will be set by others, and whether the connection is poisoned.

## Main definitions

* `Site.look`: looks at a cancel flag, which others may set at any moment.
* `Site.log`: tells a notice on a route.
* `Site.call`: makes a call to the engine, which the faults may refuse.
* `Site.readColumn`: the column query, of which each row may be refused too.
-/

namespace SchemaUpgrade

open Engine

/-- What surrounds any work: files, and the log settings of the process. -/
structure Surroundings where
  files : Files := Files.none
  logging : Log.Settings := {}
  deriving Inhabited

/-- A cancel flag.  All holders of a flag share it. -/
inductive CancelFlag where
  /-- A flag that is known by its name. -/
  | named (name : String)
  /-- The flag that an interruption from outside sets. -/
  | interruption
  deriving DecidableEq, Repr, Inhabited

/-- What a connection and the work over it can see and change. -/
structure Site extends Surroundings where
  database : Database := {}
  faults : List Fault := []
  /-- The cancel flags that are set.  A flag that was set stays set. -/
  raised : List CancelFlag := []
  /-- The cancel flags that others set while the work goes on: those set by the time of the next
  look at a flag, then those set between that look and the one after it, and so on. -/
  arriving : List (List CancelFlag) := []
  /-- Whether somebody panicked while holding the connection. -/
  poisoned : Bool := false
  deriving Inhabited

namespace Site

variable {ε α : Type}

/-- Whether a cancel flag is set. -/
def isRaised (site : Site) (flag : CancelFlag) : Bool :=
  flag ∈ site.raised

/-- Sets a cancel flag. -/
def raise (flag : CancelFlag) : Work Site ε Unit :=
  Work.modify fun site => { site with raised := flag :: site.raised }

/-- The site at the next look at a flag: what others have set by then is set. -/
def atLook (site : Site) : Site :=
  { site with raised := site.arriving.headD [] ++ site.raised, arriving := site.arriving.tail }

/-- Looks whether a cancel flag is set. -/
def look (flag : CancelFlag) : Work Site ε Bool := fun site =>
  ⟨.ok (site.atLook.isRaised flag), site.atLook, []⟩

/-- Tells a notice on a route: it becomes an event if it is admitted there. -/
def log (route : Log.Route) (notice : Log.Notice) : Work Site ε Unit := fun site =>
  ⟨.ok (), site, (site.logging.deliver route notice).toList.map .logged⟩

/-- Makes a call.  If no fault refuses it, `act` carries it out on the database; a call that
fails leaves the database as it was. -/
def call (request : Call) (act : Database → Except String (α × Database)) : Work Site String α :=
  fun site =>
    match Fault.strike request.faultPoint request.text site.faults with
    | (some message, faults) =>
      ⟨.error message, { site with faults := faults }, [.called request (some message)]⟩
    | (none, faults) =>
      match act site.database with
      | .error message =>
        ⟨.error message, { site with faults := faults }, [.called request (some message)]⟩
      | .ok (answer, database) =>
        ⟨.ok answer, { site with faults := faults, database := database },
          [.called request none]⟩

/-- Asks the faults about each row in turn.  Answers the message of the first refused row, if
any, and the faults as they are afterwards. -/
def strikeRows : (rows : List String) → List Fault → Option String × List Fault
  | [], faults => (none, faults)
  | row :: rows, faults =>
    match Fault.strike .row row faults with
    | (some message, faults) => (some message, faults)
    | (none, faults) => strikeRows rows faults

/-- Reads a column query row by row. -/
def readColumn (sql : String) : Work Site String (List String) := fun site =>
  let request := Call.column sql
  match Fault.strike request.faultPoint request.text site.faults with
  | (some message, faults) =>
    ⟨.error message, { site with faults := faults }, [.called request (some message)]⟩
  | (none, faults) =>
    let rows := site.database.column sql
    match strikeRows rows faults with
    | (some message, faults) =>
      ⟨.error message, { site with faults := faults }, [.called request (some message)]⟩
    | (none, faults) =>
      ⟨.ok rows, { site with faults := faults }, [.called request none]⟩

/-- Executes statements without parameters. -/
def batch (sql : String) : Work Site String Unit :=
  call (.batch sql) (Database.batch sql)

/-- Executes one statement with parameters. -/
def execute (sql : String) (params : List String) : Work Site String Nat :=
  call (.execute sql params) (Database.execute sql params)

/-- Counts the rows of a query. -/
def count (inner : String) : Work Site String Nat :=
  call (.count inner) fun db => .ok (db.count inner, db)

/-- Counts the tables and views of one name in a schema. -/
def countRelations (schema table : String) : Work Site String Nat :=
  call (.relation schema table) fun db => .ok (db.countRelations schema table, db)

end Site

end SchemaUpgrade
