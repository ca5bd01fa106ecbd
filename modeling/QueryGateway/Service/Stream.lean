import QueryGateway.Journal.Feed
import QueryGateway.Service.Input
import QueryGateway.Text.LowerCase

/-!
# Streams of events

Operators may have events sent to them as they happen, those of one system or
all of them; that a batch of log entries was lost concerns everyone.  A stream
is opened by a call that asks for the connection to be upgraded.
-/

namespace QueryGateway
namespace Service

open Execution

/-- A stream for a listener, of the events of one system where that is named. -/
structure Stream where
  listener : Nat
  system : Option Uuid
deriving DecidableEq

namespace Stream

def accepts (stream : Stream) (event : Event) : Bool :=
  match stream.system, event with
  | none, _ => true
  | some wanted, .execution entry => entry.systemId == wanted
  | some wanted, .logDropped systemId _ => systemId == wanted
  | some _, .logFlushFailed _ _ => true

def forwarded (stream : Stream) (inbox : Inbox) : List Event :=
  inbox.waiting.filter stream.accepts

/-!
## Upgrades
-/

inductive Hindrance where
  | verb
  | connection
  | upgrade
  | key
  | version
  | notUpgradable
deriving DecidableEq, Repr

namespace Hindrance

def answer : Hindrance -> Answer
  | .verb => .text 405 "Request method must be `GET`"
  | .connection => .text 400 "Connection header did not include 'upgrade'"
  | .upgrade => .text 400 "`Upgrade` header did not include 'websocket'"
  | .key => .text 400 "`Sec-WebSocket-Key` header missing"
  | .version => .text 400 "`Sec-WebSocket-Version` header did not include '13'"
  | .notUpgradable =>
      .text 426 "WebSocket request couldn't be upgraded since no upgrade state was present"

end Hindrance

def headerIs (call : Call) (name value : String) : Bool :=
  (call.header? name).any fun text => Remote.lowerName text == value

def headerNames (call : Call) (name value : String) : Bool :=
  (call.header? name).any fun text =>
    Text.occursIn value.toList (Remote.lowerName text).toList

/-- What stands in the way of an upgrade; `upgradable` tells whether the connection permits it. -/
def hindrance (call : Call) (upgradable : Bool) : Option Hindrance :=
  if call.verb != "GET" then some .verb
  else if !headerNames call "connection" "upgrade" then some .connection
  else if !headerIs call "upgrade" "websocket" then some .upgrade
  else if (call.header? "sec-websocket-key").isNone then some .key
  else if !headerIs call "sec-websocket-version" "13" then some .version
  else if !upgradable then some .notUpgradable
  else none

def request (call : Call) (upgradable : Bool) : Except Answer (Option Uuid) :=
  match streamSystem call with
  | .error text => .error (.text 400 text)
  | .ok system =>
      match hindrance call upgradable with
      | some hindrance => .error hindrance.answer
      | none => .ok system

end Stream
end Service
end QueryGateway
