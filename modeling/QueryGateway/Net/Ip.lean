/-!
# Internet addresses

Addresses of four bytes and of eight groups of sixteen bits.  In the text of
the longer ones, the first of the longest runs of two or more zero groups is
left out.
-/

namespace QueryGateway
namespace Net

structure Ipv4 where
  a : UInt8
  b : UInt8
  c : UInt8
  d : UInt8
deriving DecidableEq, Repr

namespace Ipv4

def render (ip : Ipv4) : String :=
  s!"{ip.a.toNat}.{ip.b.toNat}.{ip.c.toNat}.{ip.d.toNat}"

def ofNat (n : Nat) : Ipv4 :=
  ⟨.ofNat (n >>> 24), .ofNat (n >>> 16), .ofNat (n >>> 8), .ofNat n⟩

def groups (ip : Ipv4) : List UInt16 :=
  [.ofNat (256 * ip.a.toNat + ip.b.toNat), .ofNat (256 * ip.c.toNat + ip.d.toNat)]

end Ipv4

/-- Eight groups; a shorter list stands for no address. -/
structure Ipv6 where
  groups : List UInt16
  size : groups.length = 8
deriving DecidableEq

namespace Ipv6

def ofParts (front back : List UInt16) : Option Ipv6 :=
  let groups := front ++ List.replicate (8 - front.length - back.length) 0 ++ back
  if h : groups.length = 8 then some ⟨groups, h⟩ else none

def zeroes (groups : List UInt16) : Nat :=
  (groups.takeWhile (· == 0)).length

/-- Where the first of the longest runs of zeroes starts, and its length. -/
def longestRun (groups : List UInt16) : Nat × Nat :=
  let runs := (List.range groups.length).map fun i => (i, zeroes (groups.drop i))
  runs.foldl (fun best run => if best.2 < run.2 then run else best) (0, 0)

def renderGroups (groups : List UInt16) : String :=
  ":".intercalate (groups.map fun group => String.ofList (Nat.toDigits 16 group.toNat))

def render (ip : Ipv6) : String :=
  let (start, length) := longestRun ip.groups
  if length < 2 then
    renderGroups ip.groups
  else
    renderGroups (ip.groups.take start) ++ "::" ++ renderGroups (ip.groups.drop (start + length))

def mapped? (ip : Ipv6) : Option Ipv4 :=
  match ip.groups with
  | [0, 0, 0, 0, 0, 0xFFFF, high, low] => some (Ipv4.ofNat (65536 * high.toNat + low.toNat))
  | _ => none

def renderMixed (ip : Ipv6) : String :=
  match ip.mapped? with
  | some short => "::ffff:" ++ short.render
  | none => ip.render

end Ipv6
end Net
end QueryGateway
