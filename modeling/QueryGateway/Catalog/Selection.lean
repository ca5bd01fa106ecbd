import QueryGateway.Catalog.Backend
import QueryGateway.Failure

/-!
# Choosing a method and a time limit
-/

namespace QueryGateway
namespace Catalog

/--
The method that a request names; without a name, or with an empty one, the
first that the system declares.
-/
def Backend.chooseMethod (system : Backend) (requested : Option String) : Except Failure Method :=
  match system.methods, requested.filter fun name => !name.isEmpty with
  | [], _ =>
      .error (.validation ("system '" ++ system.name ++ "' declares no query methods"))
  | first :: _, none => .ok first
  | methods, some name =>
      match system.method? name with
      | some method => .ok method
      | none =>
          .error (.validation ("method '" ++ name ++ "' is not declared by system '" ++
            system.name ++ "' (available: " ++ ", ".intercalate (methods.map Method.name) ++ ")"))

/-- The limit of the request, or else of the method, or else of the system, or else the default. -/
def timeLimit (requestMs : Option UInt64) (method : Method) (system : Backend)
    (default : UInt64) : UInt64 :=
  ((requestMs.or method.timeoutMs).or system.timeoutMs).getD default

end Catalog
end QueryGateway
