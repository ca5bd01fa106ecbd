import QueryGateway.Json.Basic

/-!
# Outcomes

What a successful execution yields, before it is logged and told to the caller.
-/

namespace QueryGateway
namespace Execution

structure Outcome where
  data : Json
  recordCount : UInt64
  systemName : String
  method : String
  transformationsApplied : List String

namespace Outcome

def toJson (outcome : Outcome) : Json :=
  .ofMembers
    [("data", outcome.data), ("record_count", .ofNat outcome.recordCount.toNat),
     ("system_name", .text outcome.systemName), ("method", .text outcome.method),
     ("transformations_applied", .ofTexts outcome.transformationsApplied)]

end Outcome
end Execution
end QueryGateway
