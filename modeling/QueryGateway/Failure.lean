import QueryGateway.Uuid

/-!
# Failures

Why the gateway cannot answer.  A failure never leaves it as anything but a
failed result, which carries the kind, for programs, and the message, for
people.
-/

namespace QueryGateway

inductive Failure where
  | validation (detail : String)
  | authentication (detail : String)
  | configuration (detail : String)
  | timeout (millis : Nat)
  | graphql (detail : String)
  | systemInactive (system : Uuid)
  | notFound (what : String)
  | accessDenied (detail : String)
  | badStatus (status : Nat) (body : String)
  | request (detail : String)
  | payload (detail : String)
  | store (detail : String)
deriving DecidableEq

namespace Failure

def kind : Failure -> String
  | .validation _ => "validation_error"
  | .authentication _ => "authentication_error"
  | .configuration _ => "configuration_error"
  | .timeout _ => "timeout_error"
  | .graphql _ => "graphql_error"
  | .systemInactive _ => "system_inactive_error"
  | .notFound _ => "not_found"
  | .accessDenied _ => "access_denied"
  | .badStatus _ _ => "upstream_error"
  | .request _ => "upstream_error"
  | .payload _ => "upstream_error"
  | .store _ => "store_error"

def message : Failure -> String
  | .validation detail => "Validation error: " ++ detail
  | .authentication detail => "Authentication error: " ++ detail
  | .configuration detail => "Configuration error: " ++ detail
  | .timeout millis => s!"Query timed out after {millis} ms"
  | .graphql detail => "GraphQL error: " ++ detail
  | .systemInactive system => s!"System {system} is inactive"
  | .notFound what => "Not found: " ++ what
  | .accessDenied detail => "Access denied: " ++ detail
  | .badStatus status body => s!"Upstream returned HTTP {status}: " ++ body
  | .request detail => "HTTP request failed: " ++ detail
  | .payload detail => "Invalid payload: " ++ detail
  | .store detail => "Store error: " ++ detail

end Failure
end QueryGateway
