import QueryGateway.Catalog.Credentials
import QueryGateway.Catalog.Method
import QueryGateway.Rows.Declaration
import QueryGateway.Uuid

/-!
# Backends

A backend is an external system that queries are executed against: where it
is, how to identify oneself to it, the methods and transformations it declares,
and how to check that it is there.
-/

namespace QueryGateway

namespace Schema

def readUuid : Reader Uuid :=
  readParsed "a formatted UUID string" fun text =>
    (Uuid.parse text).mapError fun fault => "UUID parsing failed: " ++ fault.message

end Schema

namespace Catalog

open Schema

structure HealthCheck where
  endpoint : Option String
  method : Option String
  expectedStatus : Option UInt16
  timeoutMs : Option UInt64
deriving DecidableEq

namespace HealthCheck

def record :
    Record (Option String × Option String × Option UInt16 × Option UInt64 × Unit) :=
  .cons (.optional "endpoint" readText)
    (.cons (.optional "method" readText)
      (.cons (.optional "expected_status" readUInt16)
        (.cons (.optional "timeout_ms" readUInt64) .nil)))

def reader : Reader HealthCheck := fun origin doc =>
  (record.reader "struct HealthCheckConfig" origin doc).map
    fun (endpoint, method, expectedStatus, timeoutMs, _) =>
      ⟨endpoint, method, expectedStatus, timeoutMs⟩

def toJson (check : HealthCheck) : Json :=
  .ofMembers
    [("endpoint", .ofOption (check.endpoint.map .text)),
     ("method", .ofOption (check.method.map .text)),
     ("expected_status", .ofOption (check.expectedStatus.map fun n => .ofNat n.toNat)),
     ("timeout_ms", .ofOption (check.timeoutMs.map fun n => .ofNat n.toNat))]

end HealthCheck

structure Backend where
  id : Uuid
  name : String
  baseUrl : String
  isActive : Bool
  auth : Credentials
  headers : Dictionary String
  methods : List Method
  transforms : Dictionary Rows.Transform
  healthCheck : Option HealthCheck
  timeoutMs : Option UInt64
  retries : UInt32

namespace Backend

def plain (id : Uuid) (name baseUrl : String) : Backend :=
  ⟨id, name, baseUrl, true, .none, [], [], [], none, none, 0⟩

def method? (system : Backend) (name : String) : Option Method :=
  system.methods.find? fun method => method.name == name

def record :
    Record (Uuid × String × String × Bool × Credentials × Dictionary String × List Method ×
      Dictionary Rows.Transform × Option HealthCheck × Option UInt64 × UInt32 × Unit) :=
  .cons (.required "id" readUuid)
    (.cons (.required "name" readText)
      (.cons (.required "base_url" readText)
        (.cons (.withDefault "is_active" readBool true)
          (.cons (.withDefault "auth" Credentials.reader .none)
            (.cons (.withDefault "headers" (readDictionary readText) [])
              (.cons (.withDefault "methods" (readList Method.reader) [])
                (.cons (.withDefault "transforms" (readDictionary Rows.Transform.reader) [])
                  (.cons (.optional "health_check" HealthCheck.reader)
                    (.cons (.optional "timeout_ms" readUInt64)
                      (.cons (.withDefault "retries" readUInt32 0) .nil))))))))))

def reader : Reader Backend := fun origin doc =>
  (record.reader "struct ExternalSystem" origin doc).map
    fun (id, name, baseUrl, isActive, auth, headers, methods, transforms, healthCheck,
        timeoutMs, retries, _) =>
      ⟨id, name, baseUrl, isActive, auth, headers, methods, transforms, healthCheck,
        timeoutMs, retries⟩

def toJson (system : Backend) : Json :=
  .ofMembers
    [("id", .text system.id.render), ("name", .text system.name),
     ("base_url", .text system.baseUrl), ("is_active", .bool system.isActive),
     ("auth", system.auth.toJson),
     ("headers", .object (system.headers.map fun (name, value) => (name, .text value))),
     ("methods", .array (system.methods.map Method.toJson)),
     ("transforms", .object (system.transforms.map fun (name, step) => (name, step.toJson))),
     ("health_check", .ofOption (system.healthCheck.map HealthCheck.toJson)),
     ("timeout_ms", .ofOption (system.timeoutMs.map fun n => .ofNat n.toNat)),
     ("retries", .ofNat system.retries.toNat)]

end Backend
end Catalog
end QueryGateway
