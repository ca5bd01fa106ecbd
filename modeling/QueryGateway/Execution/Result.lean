import QueryGateway.Catalog.Backend
import QueryGateway.Failure
import QueryGateway.Timestamp

/-!
# Results of executions
-/

namespace QueryGateway

namespace Schema

def readTimestamp : Reader Timestamp :=
  readParsed "an RFC 3339 formatted date and time string" fun text =>
    (Timestamp.parse text).mapError Timestamp.Malformation.message

end Schema

namespace Execution

open Schema

structure ErrorInfo where
  kind : String
  message : String
deriving DecidableEq

namespace ErrorInfo

def ofFailure (failure : Failure) : ErrorInfo :=
  ⟨failure.kind, failure.message⟩

def record : Record (String × String × Unit) :=
  .cons (.required "kind" readText) (.cons (.required "message" readText) .nil)

def reader : Reader ErrorInfo := fun origin doc =>
  (record.reader "struct ErrorInfo" origin doc).map fun (kind, message, _) => ⟨kind, message⟩

def toJson (info : ErrorInfo) : Json :=
  .ofMembers [("kind", .text info.kind), ("message", .text info.message)]

end ErrorInfo

structure Metadata where
  executionTimeMs : UInt64
  recordCount : UInt64
  systemName : Option String
  method : Option String
  cacheHit : Bool
  transformationsApplied : List String
  executedAt : Timestamp
deriving DecidableEq

namespace Metadata

def record :
    Record (UInt64 × UInt64 × Option String × Option String × Bool × List String × Timestamp ×
      Unit) :=
  .cons (.required "execution_time_ms" readUInt64)
    (.cons (.required "record_count" readCount)
      (.cons (.nullable "system_name" readText)
        (.cons (.nullable "method" readText)
          (.cons (.required "cache_hit" readBool)
            (.cons (.required "transformations_applied" (readList readText))
              (.cons (.required "executed_at" readTimestamp) .nil))))))

def reader : Reader Metadata := fun origin doc =>
  (record.reader "struct ExecutionMetadata" origin doc).map
    fun (executionTimeMs, recordCount, systemName, method, cacheHit, transformationsApplied,
        executedAt, _) =>
      ⟨executionTimeMs, recordCount, systemName, method, cacheHit, transformationsApplied,
        executedAt⟩

def toJson (m : Metadata) : Json :=
  .ofMembers
    [("execution_time_ms", .ofNat m.executionTimeMs.toNat),
     ("record_count", .ofNat m.recordCount.toNat),
     ("system_name", .ofOption (m.systemName.map .text)),
     ("method", .ofOption (m.method.map .text)), ("cache_hit", .bool m.cacheHit),
     ("transformations_applied", .ofTexts m.transformationsApplied),
     ("executed_at", .text m.executedAt.render)]

end Metadata

structure Result where
  success : Bool
  data : Option Json
  error : Option ErrorInfo
  metadata : Metadata

namespace Result

def errorKind (result : Result) : Option String :=
  result.error.map ErrorInfo.kind

def record : Record (Bool × Option Json × Option ErrorInfo × Metadata × Unit) :=
  .cons (.required "success" readBool)
    (.cons (.nullable "data" readJson)
      (.cons (.nullable "error" ErrorInfo.reader)
        (.cons (.required "metadata" Metadata.reader) .nil)))

def reader : Reader Result := fun origin doc =>
  (record.reader "struct QueryExecutionResult" origin doc).map
    fun (success, data, error, metadata, _) => ⟨success, data, error, metadata⟩

def memberIf (name : String) (value : Option Json) : List (String × Json) :=
  (value.map fun v => (name, v)).toList

def toJson (result : Result) : Json :=
  .ofMembers
    (("success", .bool result.success) :: ("metadata", result.metadata.toJson) ::
      (memberIf "data" result.data ++ memberIf "error" (result.error.map ErrorInfo.toJson)))

end Result

structure ConnectionReport where
  success : Bool
  message : String
  details : Json

namespace ConnectionReport

def record : Record (Bool × String × Json × Unit) :=
  .cons (.required "success" readBool)
    (.cons (.required "message" readText)
      (.cons (.required "details" readJson) .nil))

def reader : Reader ConnectionReport := fun origin doc =>
  (record.reader "struct ConnectionTestResult" origin doc).map
    fun (success, message, details, _) => ⟨success, message, details⟩

def toJson (report : ConnectionReport) : Json :=
  .ofMembers
    [("success", .bool report.success), ("message", .text report.message),
     ("details", report.details)]

end ConnectionReport
end Execution
end QueryGateway
