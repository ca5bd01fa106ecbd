import QueryGateway.Service.Exchange

/-!
# Routes

The paths that the service knows, the verb of each, and the identifiers that
paths hold.
-/

namespace QueryGateway
namespace Service

/-- A known path; identifiers are still as they were sent. -/
inductive Route where
  | health
  | ready
  | metrics
  | execute (systemId : String)
  | test (systemId : String)
  | clearAll
  | clearSystem (systemId : String)
  | executeSaved (queryId : String)
  | invalidateQuery (queryId : String)
  | stream
deriving DecidableEq, Repr

namespace Route

def ofSystems : List String -> Option Route
  | ["cache"] => some .clearAll
  | [id, action] =>
      if id.isEmpty then none
      else if action = "execute" then some (.execute id)
      else if action = "test" then some (.test id)
      else if action = "cache" then some (.clearSystem id)
      else none
  | _ => none

def ofQueries : List String -> Option Route
  | [id, action] =>
      if id.isEmpty then none
      else if action = "execute" then some (.executeSaved id)
      else if action = "cache" then some (.invalidateQuery id)
      else none
  | _ => none

def ofSegments : List String -> Option Route
  | ["", "health"] => some .health
  | ["", "ready"] => some .ready
  | ["", "metrics"] => some .metrics
  | ["", "api", "v1", "executions", "ws"] => some .stream
  | "" :: "api" :: "v1" :: "systems" :: rest => ofSystems rest
  | "" :: "api" :: "v1" :: "queries" :: rest => ofQueries rest
  | _ => none

def ofPath (path : String) : Option Route :=
  ofSegments ((path.toList.splitOn '/').map String.ofList)

/-- The verb of a route; routes that are read also answer for the head alone. -/
def verb : Route -> String
  | .health => "GET"
  | .ready => "GET"
  | .metrics => "GET"
  | .stream => "GET"
  | .execute _ => "POST"
  | .test _ => "POST"
  | .executeSaved _ => "POST"
  | .clearAll => "DELETE"
  | .clearSystem _ => "DELETE"
  | .invalidateQuery _ => "DELETE"

def isRead (route : Route) : Bool :=
  route.verb == "GET"

def answersTo (route : Route) (verb : String) : Bool :=
  route.verb == verb || (route.isRead && verb == "HEAD")

def verbs (route : Route) : String :=
  if route.isRead then "GET,HEAD" else route.verb

end Route
end Service
end QueryGateway
