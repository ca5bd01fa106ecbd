import QueryGateway.Json.Printer
import QueryGateway.Remote.Request

/-!
# Calls and answers

A call to the service and the answer to it, as far as the service looks at
calls and decides on answers.
-/

namespace QueryGateway
namespace Service

/-- The path is as it was sent; names of headers are in any case. -/
structure Call where
  verb : String
  path : String
  query : Option String
  headers : List (String × String)
  body : Text.Bytes

namespace Call

/-- A call for a target, which is a path and perhaps a query after a question mark. -/
def ofTarget (verb target : String) (headers : List (String × String)) (body : Text.Bytes) :
    Call :=
  let (front, _) := Net.Url.breakAt (· = '#') target.toList
  let (path, query) := Net.Url.breakAt (· = '?') front
  { verb, headers, body
    path := String.ofList path
    query := (Net.Url.after? '?' query).map String.ofList }

def header? (call : Call) (name : String) : Option String :=
  (call.headers.find? fun header => Remote.lowerName header.1 == name).map Prod.snd

/-- Whether a header value is plain text: visible characters of ASCII, blanks and tabs. -/
def isPlainText (value : String) : Bool :=
  value.toList.all fun c => c = '\t' || (0x20 ≤ c.toNat && c.toNat < 0x7F)

end Call

structure Answer where
  status : Nat
  contentType : Option String
  allow : Option String
  body : String
deriving DecidableEq

namespace Answer

def plainType : String :=
  "text/plain; charset=utf-8"

def empty (status : Nat) : Answer :=
  ⟨status, none, none, ""⟩

def text (status : Nat) (body : String) : Answer :=
  ⟨status, some plainType, none, body⟩

def json (status : Nat) (body : Json) : Answer :=
  ⟨status, some "application/json", none, body.render⟩

def notAllowed (verbs : String) : Answer :=
  ⟨405, none, some verbs, ""⟩

def withoutBody (answer : Answer) : Answer :=
  { answer with body := "" }

end Answer

structure Refusal where
  detail : String
deriving DecidableEq

namespace Refusal

def message (refusal : Refusal) : String :=
  "Invalid request: " ++ refusal.detail

def answer (refusal : Refusal) : Answer :=
  .json 400 (.ofMembers [("error", .text refusal.detail), ("code", .ofNat 400)])

end Refusal
end Service
end QueryGateway
