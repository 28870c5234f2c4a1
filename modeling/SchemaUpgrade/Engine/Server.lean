import SchemaUpgrade.Engine.Database
import SchemaUpgrade.Engine.Fault
/-!
# The databases of an engine

An engine keeps any number of databases, numbered in the order in which they were made.  A database
in memory is made each time one is opened; a database at a path is made when the path is opened for
the first time, and is found again after that.  A new database holds the tables of the *seed*.

Opening a database is a call like any other: the faults may refuse it, and then nothing is made.
-/

namespace SchemaUpgrade.Engine

/-- An engine with its databases. -/
structure Server where
  /-- The tables that a new database holds. -/
  seed : List (String × List String) := []
  faults : List Fault := []
  databases : List Database := []
  /-- The numbers of the databases that have a path. -/
  paths : List (String × Nat) := []
  deriving DecidableEq, Repr, Inhabited

namespace Server

/-- A database as it is made. -/
def fresh (server : Server) : Database where
  committed := { tables := server.seed }

/-- The database of a number. -/
def database (server : Server) (number : Nat) : Database :=
  server.databases[number]?.getD server.fresh

/-- The number of the database at a location, which is made if it has to be. -/
def locate (server : Server) : Location → Nat × Server
  | .memory =>
    (server.databases.length, { server with databases := server.databases ++ [server.fresh] })
  | .file path =>
    match server.paths.lookup path with
    | some number => (number, server)
    | none =>
      let number := server.databases.length
      (number, { server with
        databases := server.databases ++ [server.fresh]
        paths := (path, number) :: server.paths })

/-- Opens a database, unless a fault refuses it. -/
def connect (server : Server) (location : Location) : Except String Nat × Server :=
  match Fault.strike .connect location.text server.faults with
  | (some message, faults) => (.error message, { server with faults := faults })
  | (none, faults) =>
    let (number, server) := ({ server with faults := faults }).locate location
    (.ok number, server)

/-- Puts a database, with the faults that are left, in place of the one of its number. -/
def replace (server : Server) (number : Nat) (database : Database) (faults : List Fault) :
    Server :=
  { server with databases := server.databases.set number database, faults := faults }

end Server

end SchemaUpgrade.Engine
