import SchemaUpgrade.DatabaseError
import SchemaUpgrade.Engine.Server
import SchemaUpgrade.Site
/-!
# Hosts

A *host* is the process in which upgrades are set up and run: it has files and log settings, an
engine with its databases, any number of open connections, the cancel flags that are set, and two
streams of text to print to.

Work that needs a connection sees only a site: what surrounds it, the database of its connection,
and the faults and flags of the host.  What the work leaves behind goes back to the host.

## Main definitions

* `Host.connect`: opens a connection.
* `Host.through`: does the work of a site over a connection.
* `Host.setUp`: does what only looks at the surroundings and tells events.
-/

namespace SchemaUpgrade

open Engine

/-- An open connection of a host, known by its number. -/
structure ConnectionId where
  number : Nat
  deriving DecidableEq, Repr, Inhabited

/-- What a host knows of a connection. -/
structure ConnectionState where
  /-- The number of its database. -/
  database : Nat
  /-- Whether somebody panicked while holding it. -/
  poisoned : Bool := false
  deriving DecidableEq, Repr, Inhabited

/-- What was printed, line by line. -/
structure Console where
  out : List String := []
  err : List String := []
  deriving DecidableEq, Repr, Inhabited

/-- A process in which upgrades run. -/
structure Host extends Surroundings where
  server : Server := {}
  /-- All connections that were opened, the latest last. -/
  connections : List ConnectionState := []
  /-- The cancel flags that are set. -/
  raised : List CancelFlag := []
  console : Console := {}
  deriving Inhabited

namespace Host

variable {ε α : Type}

/-- The error of a database that could not be opened.  The path is told, if it has one. -/
def connectError (location : Location) (message : String) : DatabaseError :=
  match location with
  | .memory => .connection message
  | .file path => .connection (message ++ ": " ++ path)

/-- Opens a connection. -/
def connect (location : Location) : Work Host DatabaseError ConnectionId := fun host =>
  match host.server.connect location with
  | (.error message, server) =>
    ⟨.error (connectError location message), { host with server := server },
      [.called (.connect location) (some message)]⟩
  | (.ok database, server) =>
    ⟨.ok ⟨host.connections.length⟩,
      { host with server := server, connections := host.connections ++ [{ database }] },
      [.called (.connect location) none]⟩

/-- What a host knows of a connection; a number that was never given out is a connection that
nobody can use. -/
def connection (host : Host) (id : ConnectionId) : ConnectionState :=
  host.connections[id.number]?.getD { database := host.server.databases.length, poisoned := true }

/-- What the work over a connection can see. -/
def site (host : Host) (id : ConnectionId) : Site where
  toSurroundings := host.toSurroundings
  database := host.server.database (host.connection id).database
  faults := host.server.faults
  raised := host.raised
  poisoned := (host.connection id).poisoned

/-- The host after the work over a connection has left a site behind. -/
def afterwards (host : Host) (id : ConnectionId) (site : Site) : Host :=
  let connection := host.connection id
  { host with
    server := host.server.replace connection.database site.database site.faults
    connections := host.connections.set id.number { connection with poisoned := site.poisoned }
    raised := site.raised }

/-- Does the work of a site over a connection. -/
def through (id : ConnectionId) (work : Work Site ε α) : Work Host ε α := fun host =>
  let done := work (host.site id)
  ⟨done.outcome, host.afterwards id done.state, done.journal⟩

/-- Does what only looks at the surroundings and answers the events it caused. -/
def setUp (make : Surroundings → α × List Log.Event) : Work Host ε α := fun host =>
  let (made, events) := make host.toSurroundings
  ⟨.ok made, host, events.map .logged⟩

/-- The database that was opened last, if any was. -/
def latest? (host : Host) : Option Database :=
  host.connections.getLast?.map fun connection => host.server.database connection.database

/-- Sets a cancel flag. -/
def raise (flag : CancelFlag) : Work Host ε Unit :=
  Work.modify fun host => { host with raised := flag :: host.raised }

/-- Prints lines as a result. -/
def printAll (lines : List String) : Work Host ε Unit :=
  Work.modify fun host =>
    { host with console := { host.console with out := host.console.out ++ lines } }

/-- Prints a line as a remark. -/
def remark (line : String) : Work Host ε Unit :=
  Work.modify fun host =>
    { host with console := { host.console with err := host.console.err ++ [line] } }

end Host

end SchemaUpgrade
