import QueryGateway.Execution.Result

/-!
# The execution log

Every attempt at an execution is recorded as an entry; operators are told of
each entry, of entries that found no room, and of batches that were not stored.
-/

namespace QueryGateway
namespace Execution

open Schema

inductive Status where
  | completed
  | failed
  | cached
deriving DecidableEq, Repr

namespace Status

def name : Status -> String
  | .completed => "completed"
  | .failed => "failed"
  | .cached => "cached"

def choice : Choice Status :=
  ⟨[("completed", .completed), ("failed", .failed), ("cached", .cached)], none⟩

def reader : Reader Status :=
  choice.reader

def toJson (status : Status) : Json :=
  .text status.name

end Status

structure LogEntry where
  id : Uuid
  queryId : Option Uuid
  systemId : Uuid
  userId : Option Uuid
  status : Status
  resultSnapshot : Option Json
  executionTimeMs : UInt64
  recordCount : UInt64
  errorMessage : Option String
  createdAt : Timestamp

namespace LogEntry

def plain (id : Uuid) (systemId : Uuid) (status : Status) (createdAt : Timestamp) : LogEntry :=
  ⟨id, none, systemId, none, status, none, 0, 0, none, createdAt⟩

def record :
    Record (Uuid × Option Uuid × Uuid × Option Uuid × Status × Option Json × UInt64 × UInt64 ×
      Option String × Timestamp × Unit) :=
  .cons (.required "id" readUuid)
    (.cons (.nullable "query_id" readUuid)
      (.cons (.required "system_id" readUuid)
        (.cons (.nullable "user_id" readUuid)
          (.cons (.required "status" Status.reader)
            (.cons (.nullable "result_snapshot" readJson)
              (.cons (.required "execution_time_ms" readUInt64)
                (.cons (.required "record_count" readCount)
                  (.cons (.nullable "error_message" readText)
                    (.cons (.required "created_at" readTimestamp) .nil)))))))))

def reader : Reader LogEntry := fun origin doc =>
  (record.reader "struct ExecutionLogEntry" origin doc).map
    fun (id, queryId, systemId, userId, status, resultSnapshot, executionTimeMs, recordCount,
        errorMessage, createdAt, _) =>
      ⟨id, queryId, systemId, userId, status, resultSnapshot, executionTimeMs, recordCount,
        errorMessage, createdAt⟩

def idOrNull (id : Option Uuid) : Json :=
  .ofOption (id.map fun id => .text id.render)

def members (entry : LogEntry) : List (String × Json) :=
  [("id", .text entry.id.render), ("query_id", idOrNull entry.queryId),
   ("system_id", .text entry.systemId.render), ("user_id", idOrNull entry.userId),
   ("status", entry.status.toJson), ("result_snapshot", .ofOption entry.resultSnapshot),
   ("execution_time_ms", .ofNat entry.executionTimeMs.toNat),
   ("record_count", .ofNat entry.recordCount.toNat),
   ("error_message", .ofOption (entry.errorMessage.map .text)),
   ("created_at", .text entry.createdAt.render)]

def toJson (entry : LogEntry) : Json :=
  .ofMembers entry.members

end LogEntry

inductive Event where
  | execution (entry : LogEntry)
  | logDropped (systemId : Uuid) (queryId : Option Uuid)
  | logFlushFailed (batchSize : Nat) (error : String)

namespace Event

def toJson : Event -> Json
  | .execution entry => .ofMembers (("event", .text "execution") :: entry.members)
  | .logDropped systemId queryId =>
      .ofMembers [("event", .text "log_dropped"), ("system_id", .text systemId.render),
        ("query_id", LogEntry.idOrNull queryId)]
  | .logFlushFailed batchSize error =>
      .ofMembers [("event", .text "log_flush_failed"), ("batch_size", .ofNat batchSize),
        ("error", .text error)]

end Event
end Execution
end QueryGateway
