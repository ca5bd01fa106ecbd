import QueryGateway.Net.Ip.Reader

/-!
# Socket addresses

An internet address with a port, such as `127.0.0.1:80` or `[::1]:80`.  Ports
may have leading zeroes, and a zone may follow an address of eight groups.
-/

namespace QueryGateway
namespace Net

inductive Socket where
  | four (ip : Ipv4) (port : UInt16)
  | six (ip : Ipv6) (zone : UInt32) (port : UInt16)
deriving DecidableEq

namespace Socket

def render : Socket -> String
  | .four ip port => s!"{ip.render}:{port.toNat}"
  | .six ip zone port =>
      let suffix := if zone = 0 then "" else s!"%{zone.toNat}"
      s!"[{ip.renderMixed}{suffix}]:{port.toNat}"

def port : Scan UInt16 := fun text => do
  let (_, text) ← char ':' text
  let (value, text) ← number 10 65536 none true text
  pure (.ofNat value, text)

def zone (text : List Char) : UInt32 × List Char :=
  let read := (char '%' text).bind fun (_, rest) => number 10 UInt32.size none true rest
  match read with
  | some (value, rest) => (.ofNat value, rest)
  | none => (0, text)

def four? : Scan Socket := fun text => do
  let (ip, text) ← ipv4 text
  let (port, text) ← port text
  pure (.four ip port, text)

def six? : Scan Socket := fun text => do
  let (_, text) ← char '[' text
  let (ip, text) ← ipv6 text
  let (zone, text) := zone text
  let (_, text) ← char ']' text
  let (port, text) ← port text
  pure (.six ip zone port, text)

def parse? (text : String) : Option Socket :=
  match (four? text.toList).or (six? text.toList) with
  | some (socket, []) => some socket
  | _ => none

end Socket
end Net
end QueryGateway
