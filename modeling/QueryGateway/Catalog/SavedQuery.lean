import QueryGateway.Catalog.Backend

/-!
# Saved queries

A query that a user keeps: what to ask of which system, how long its results
may be kept, and who else may run it.
-/

namespace QueryGateway
namespace Catalog

open Schema

inductive Visibility where
  | ownerOnly
  | everyone
deriving DecidableEq, Repr

namespace Visibility

def name : Visibility -> String
  | .ownerOnly => "private"
  | .everyone => "public"

def choice : Choice Visibility :=
  ⟨[("private", .ownerOnly), ("public", .everyone)], none⟩

def reader : Reader Visibility :=
  choice.reader

def toJson (visibility : Visibility) : Json :=
  .text visibility.name

end Visibility

/-- The refresh interval is also the time for which results are kept. -/
structure SavedQuery where
  id : Uuid
  ownerId : Uuid
  systemId : Uuid
  method : Option String
  queryText : String
  parameters : Members
  transformations : List String
  refreshIntervalSecs : UInt64
  cacheEnabled : Bool
  visibility : Visibility
  tags : List String
  isActive : Bool

namespace SavedQuery

def record :
    Record (Uuid × Uuid × Uuid × Option String × String × Members × List String × UInt64 × Bool ×
      Visibility × List String × Bool × Unit) :=
  .cons (.required "id" readUuid)
    (.cons (.required "owner_id" readUuid)
      (.cons (.required "system_id" readUuid)
        (.cons (.optional "method" readText)
          (.cons (.required "query_text" readText)
            (.cons (.withDefault "parameters" readMembers [])
              (.cons (.withDefault "transformations" (readList readText) [])
                (.cons (.withDefault "refresh_interval_secs" readUInt64 0)
                  (.cons (.withDefault "cache_enabled" readBool false)
                    (.cons (.withDefault "visibility" Visibility.reader .ownerOnly)
                      (.cons (.withDefault "tags" (readList readText) [])
                        (.cons (.withDefault "is_active" readBool true) .nil)))))))))))

def reader : Reader SavedQuery := fun origin doc =>
  (record.reader "struct CustomQuery" origin doc).map
    fun (id, ownerId, systemId, method, queryText, parameters, transformations,
        refreshIntervalSecs, cacheEnabled, visibility, tags, isActive, _) =>
      ⟨id, ownerId, systemId, method, queryText, parameters, transformations,
        refreshIntervalSecs, cacheEnabled, visibility, tags, isActive⟩

def toJson (query : SavedQuery) : Json :=
  .ofMembers
    [("id", .text query.id.render), ("owner_id", .text query.ownerId.render),
     ("system_id", .text query.systemId.render),
     ("method", .ofOption (query.method.map .text)), ("query_text", .text query.queryText),
     ("parameters", .object query.parameters),
     ("transformations", .ofTexts query.transformations),
     ("refresh_interval_secs", .ofNat query.refreshIntervalSecs.toNat),
     ("cache_enabled", .bool query.cacheEnabled), ("visibility", query.visibility.toJson),
     ("tags", .ofTexts query.tags), ("is_active", .bool query.isActive)]

end SavedQuery
end Catalog
end QueryGateway
