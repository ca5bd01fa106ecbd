import QueryGateway.Catalog.SavedQuery

/-!
# Requests for an execution
-/

namespace QueryGateway
namespace Execution

open Schema Catalog

/--
What to ask of a system.  A time to keep results of zero seconds, or none,
keeps none; a forced refresh does not look for a kept result, but keeps the new
one.
-/
structure Request where
  systemId : Uuid
  query : String
  method : Option String
  parameters : Members
  transformations : List String
  timeoutMs : Option UInt64
  cacheTtlSecs : Option UInt64
  forceRefresh : Bool
  queryId : Option Uuid

namespace Request

def plain (systemId : Uuid) (query : String) : Request :=
  ⟨systemId, query, none, [], [], none, none, false, none⟩

def ofSaved (query : SavedQuery) (forceRefresh : Bool) : Request where
  systemId := query.systemId
  query := query.queryText
  method := query.method
  parameters := query.parameters
  transformations := query.transformations
  timeoutMs := none
  cacheTtlSecs := if query.cacheEnabled then some query.refreshIntervalSecs else none
  forceRefresh := forceRefresh
  queryId := some query.id

def record :
    Record (Uuid × String × Option String × Members × List String × Option UInt64 ×
      Option UInt64 × Bool × Option Uuid × Unit) :=
  .cons (.required "system_id" readUuid)
    (.cons (.required "query" readText)
      (.cons (.optional "method" readText)
        (.cons (.withDefault "parameters" readMembers [])
          (.cons (.withDefault "transformations" (readList readText) [])
            (.cons (.optional "timeout_ms" readUInt64)
              (.cons (.optional "cache_ttl_secs" readUInt64)
                (.cons (.withDefault "force_refresh" readBool false)
                  (.cons (.optional "query_id" readUuid) .nil))))))))

def reader : Reader Request := fun origin doc =>
  (record.reader "struct ExecuteRequest" origin doc).map
    fun (systemId, query, method, parameters, transformations, timeoutMs, cacheTtlSecs,
        forceRefresh, queryId, _) =>
      ⟨systemId, query, method, parameters, transformations, timeoutMs, cacheTtlSecs,
        forceRefresh, queryId⟩

def toJson (request : Request) : Json :=
  .ofMembers
    [("system_id", .text request.systemId.render), ("query", .text request.query),
     ("method", .ofOption (request.method.map .text)),
     ("parameters", .object request.parameters),
     ("transformations", .ofTexts request.transformations),
     ("timeout_ms", .ofOption (request.timeoutMs.map fun n => .ofNat n.toNat)),
     ("cache_ttl_secs", .ofOption (request.cacheTtlSecs.map fun n => .ofNat n.toNat)),
     ("force_refresh", .bool request.forceRefresh),
     ("query_id", .ofOption (request.queryId.map fun id => .text id.render))]

end Request
end Execution
end QueryGateway
