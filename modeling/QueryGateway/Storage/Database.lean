import QueryGateway.Storage.LogTable
import QueryGateway.Table

/-!
# The database

Tables of systems, saved queries and log entries.  Rows of the log table can be
made to be rejected, and a database out of order refuses every statement.
-/

namespace QueryGateway
namespace Storage

open Catalog Execution

structure Database where
  systems : Table Uuid Row
  queries : Table Uuid Row
  logs : LogTable
  /-- Identifiers of rows that the log table refuses. -/
  rejected : List Uuid
  /-- Why every statement is refused, if it is. -/
  outOfOrder : Option String
  /-- How many rows the next removal of old entries affects. -/
  oldRows : Nat
  /-- The ages, in days, for which old entries have been removed. -/
  prunings : List Int

namespace Database

def empty : Database :=
  ⟨∅, ∅, .empty, [], none, 0, []⟩

def putSystem (id : Uuid) (row : Row) (database : Database) : Database :=
  { database with systems := database.systems.set id row }

def putQuery (id : Uuid) (row : Row) (database : Database) : Database :=
  { database with queries := database.queries.set id row }

def removeQuery (id : Uuid) (database : Database) : Database :=
  { database with queries := database.queries.erase id }

def fault (database : Database) : Option String :=
  database.outOfOrder.map databaseError

def ping (database : Database) : Except Failure Unit :=
  match database.fault with
  | some fault => .error (.store fault)
  | none => .ok ()

def fetch {α : Type} (decode : Row -> Except Failure α) (rows : Table Uuid Row) (id : Uuid)
    (database : Database) : Except Failure (Option α) := do
  database.ping
  match rows.get? id with
  | none => pure none
  | some row => (decode row).map some

def loadSystem (id : Uuid) (database : Database) : Except Failure (Option Backend) :=
  database.fetch Row.decodeSystem database.systems id

def loadQuery (id : Uuid) (database : Database) : Except Failure (Option SavedQuery) :=
  database.fetch Row.decodeQuery database.queries id

/-- Every statement is refused when the database is out of order, else rows that are rejected. -/
def refusal (database : Database) : Refusal := fun _ statement =>
  match database.outOfOrder, statement with
  | some message, _ => some message
  | none, .insert row =>
      if database.rejected.contains row.id then
        some "new row for relation \"query_execution_logs\" violates check constraint"
      else
        none
  | none, _ => none

def writeLogs (entries : List LogEntry) (database : Database) : Except Failure Nat × Database :=
  let (answer, logs) := database.logs.insertLogs database.refusal entries
  (answer, { database with logs })

def prune (days : Int) (database : Database) : Except Failure Nat × Database :=
  match database.ping with
  | .error failure => (.error failure, database)
  | .ok () => (.ok database.oldRows, { database with prunings := database.prunings ++ [days] })

end Database
end Storage
end QueryGateway
