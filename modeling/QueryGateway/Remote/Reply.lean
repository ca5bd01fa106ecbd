import QueryGateway.Failure
import QueryGateway.Json.Reader
import QueryGateway.Schema.Scalar
import QueryGateway.Text.Blank

/-!
# Replies of backends

A reply with a status of success holds JSON, or nothing, which counts as null.
Any other status is a failure that quotes the beginning of the reply.
-/

namespace QueryGateway
namespace Remote

structure Reply where
  status : Nat
  body : Text.Bytes

namespace Reply

def isSuccess (reply : Reply) : Bool :=
  200 ≤ reply.status && reply.status < 300

def quoteLength : Nat :=
  512

def read (reply : Reply) : Except Failure Json :=
  let text := Text.decodeBody reply.body
  if !reply.isSuccess then
    .error (.badStatus reply.status (String.ofList (text.toList.take quoteLength)))
  else if Text.isAllBlank text then
    .ok .null
  else
    let bytes := Text.utf8 text
    (Schema.Reader.ofText Schema.readJson bytes).mapError fun fault =>
      .payload ("response is not valid JSON: " ++ fault.message bytes)

end Reply

inductive Delivery where
  | replied (reply : Reply)
  | lost
  | late

end Remote
end QueryGateway
