import QueryGateway.Execution.LogEntry
import QueryGateway.Storage.NulFree
import QueryGateway.Storage.Row

/-!
# The table of log entries

A batch of entries is written in one transaction, each row under a savepoint of
its own: a row that the table refuses is rolled back alone, and the others are
kept.  A statement that fails inside a transaction makes it useless until it is
rolled back to a savepoint, and nothing is kept of a transaction that does not
end with a commit.
-/

namespace QueryGateway
namespace Storage

open Execution

/-- A row as it is bound to a statement; numbers are signed and of 64 bits. -/
structure LogRow where
  id : Uuid
  queryId : Option Uuid
  systemId : Uuid
  userId : Option Uuid
  status : Status
  resultSnapshot : Option Json
  executionTimeMs : Int64
  recordCount : Int64
  errorMessage : Option String
  createdAt : Timestamp

namespace LogRow

def ofEntry (entry : LogEntry) : LogRow where
  id := entry.id
  queryId := entry.queryId
  systemId := entry.systemId
  userId := entry.userId
  status := entry.status
  resultSnapshot := entry.resultSnapshot.map stripNul
  executionTimeMs := entry.executionTimeMs.toInt64
  recordCount := entry.recordCount.toInt64
  errorMessage := entry.errorMessage.map stripText
  createdAt := entry.createdAt

/-- The row with the time as the database keeps it, in microseconds since the year 2000. -/
def toJson (row : LogRow) : Json :=
  .ofMembers
    [("id", .text row.id.render), ("query_id", LogEntry.idOrNull row.queryId),
     ("system_id", .text row.systemId.render), ("user_id", LogEntry.idOrNull row.userId),
     ("status", row.status.toJson), ("result_snapshot", .ofOption row.resultSnapshot),
     ("execution_time_ms", .number (.integer row.executionTimeMs.toInt)),
     ("record_count", .number (.integer row.recordCount.toInt)),
     ("error_message", .ofOption (row.errorMessage.map .text)),
     ("created_at", .number (.integer row.createdAt.microsSince2000))]

end LogRow

/-!
## Statements
-/

inductive Statement where
  | begin
  | savepoint
  | insert (row : LogRow)
  | release
  | rollbackTo
  | commit

structure LogTable where
  rows : List LogRow

structure Transaction where
  /-- The rows that the next statement sees. -/
  rows : List LogRow
  /-- The rows that were seen at each savepoint, the latest first; all bear one name. -/
  savepoints : List (List LogRow)
  /-- Whether a statement has failed since it was last rolled back to a savepoint. -/
  failed : Bool

structure Connection where
  table : LogTable
  transaction : Transaction
  /-- How many statements have been sent. -/
  sent : Nat

namespace Transaction

def ofTable (table : LogTable) : Transaction :=
  ⟨table.rows, [], false⟩

/-- In a transaction that has failed statements are ignored. -/
def aborted (transaction : Transaction) : Option String :=
  if transaction.failed then
    some "current transaction is aborted, commands ignored until end of transaction block"
  else
    none

def withoutSavepoint (transaction : Transaction) : Option String :=
  if transaction.savepoints.isEmpty then some "savepoint \"log_row\" does not exist" else none

/-- The identifier of a row is its key. -/
def duplicate (row : LogRow) (transaction : Transaction) : Option String :=
  if transaction.rows.any fun other => other.id = row.id then
    some "duplicate key value violates unique constraint \"query_execution_logs_pkey\""
  else
    none

def objection (statement : Statement) (transaction : Transaction) : Option String :=
  match statement with
  | .begin => none
  | .savepoint => transaction.aborted
  | .insert row => transaction.aborted.or (transaction.duplicate row)
  | .release => transaction.aborted.or transaction.withoutSavepoint
  | .rollbackTo => transaction.withoutSavepoint
  | .commit => none

end Transaction

namespace Connection

def ofTable (table : LogTable) : Connection :=
  ⟨table, .ofTable table, 0⟩

/-- What a statement does that is accepted; to commit what has failed keeps nothing of it. -/
def apply (statement : Statement) (connection : Connection) : Connection :=
  let sent := connection.sent + 1
  let transaction := connection.transaction
  match statement with
  | .begin => { connection with transaction := .ofTable connection.table, sent }
  | .savepoint =>
      let savepoints := transaction.rows :: transaction.savepoints
      { connection with transaction := { transaction with savepoints }, sent }
  | .insert row =>
      let rows := transaction.rows ++ [row]
      { connection with transaction := { transaction with rows }, sent }
  | .release =>
      let savepoints := transaction.savepoints.tail
      { connection with transaction := { transaction with savepoints }, sent }
  | .rollbackTo =>
      let rows := transaction.savepoints.headD transaction.rows
      { connection with transaction := { transaction with rows, failed := false }, sent }
  | .commit =>
      let table := if transaction.failed then connection.table else ⟨transaction.rows⟩
      { connection with table, transaction := .ofTable table, sent }

def refuse (connection : Connection) : Connection :=
  let transaction := { connection.transaction with failed := true }
  { connection with transaction, sent := connection.sent + 1 }

end Connection

/-!
## Batches
-/

/-- What is done over a connection, up to the first failure that is not dealt with. -/
abbrev Exchange :=
  ExceptT Failure (StateM Connection)

/-- Why the database refuses a statement at its place among all that are sent, if it does. -/
abbrev Refusal := Nat -> Statement -> Option String

namespace LogTable

def empty : LogTable :=
  ⟨[]⟩

def send (refusal : Refusal) (statement : Statement) : Exchange Unit := fun connection =>
  let refused :=
    (refusal connection.sent statement).or (connection.transaction.objection statement)
  match refused with
  | some message => (.error (.store (databaseError message)), connection.refuse)
  | none => (.ok (), connection.apply statement)

/-- Send a statement and tell whether it was accepted, which is no failure either way. -/
def attempt (refusal : Refusal) (statement : Statement) : Exchange Bool := fun connection =>
  match send refusal statement connection with
  | (.ok (), later) => (.ok true, later)
  | (.error _, later) => (.ok false, later)

def writeRow (refusal : Refusal) (row : LogRow) : Exchange Bool := do
  send refusal .savepoint
  let taken ← attempt refusal (.insert row)
  send refusal (if taken then .release else .rollbackTo)
  pure taken

def writeRows (refusal : Refusal) : List LogRow -> Exchange Nat
  | [] => pure 0
  | row :: rest => do
      let taken ← writeRow refusal row
      let count ← writeRows refusal rest
      pure (count + if taken then 1 else 0)

def transact (refusal : Refusal) (rows : List LogRow) : Exchange Nat := do
  send refusal .begin
  let count ← writeRows refusal rows
  send refusal .commit
  pure count

/-- Write a batch of log entries; an empty one needs no statement. -/
def insertLogs (refusal : Refusal) (entries : List LogEntry) (table : LogTable) :
    Except Failure Nat × LogTable :=
  if entries.isEmpty then
    (.ok 0, table)
  else
    let (answer, connection) :=
      (transact refusal (entries.map LogRow.ofEntry)).run.run (.ofTable table)
    (answer, connection.table)

end LogTable
end Storage
end QueryGateway
