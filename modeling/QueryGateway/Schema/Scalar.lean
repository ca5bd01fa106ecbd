import QueryGateway.Schema.Fault

/-!
# Readers of scalars and plain collections

A reader that expects one kind of value names every other kind it is given.
The fault lies after a scalar that was read, and before a bracket or brace,
which is not.
-/

namespace QueryGateway
namespace Schema

open Json (Doc Key Scalar SyntaxFault)

def wrongKind (origin : Origin) (expected : String) : Doc -> Fault
  | .scalar value extent => origin.fault extent.stop (.invalidType (Found.ofScalar value) expected)
  | .array _ _ _ extent => origin.fault extent.start (.invalidType .sequence expected)
  | .object _ _ _ extent => origin.fault extent.start (.invalidType .map expected)
  | .unreadable fault _ _ => Origin.ofSyntax fault
  | .unreached fault => Origin.ofSyntax fault

/-!
## Scalars
-/

def readText (expected : String := "a string") : Reader String
  | _, .scalar (.text s) _ => .ok s
  | origin, doc => .error (wrongKind origin expected doc)

def readBool : Reader Bool
  | _, .scalar (.bool b) _ => .ok b
  | origin, doc => .error (wrongKind origin "a boolean" doc)

/-- A natural number below a bound; other integers are values out of range. -/
def readNatural (bound : Nat) (expected : String) : Reader Nat
  | origin, .scalar (.number (.integer n)) extent =>
      if 0 ≤ n && n < (bound : Int) then
        .ok n.toNat
      else
        .error (origin.fault extent.stop (.invalidValue (.number (.integer n)) expected))
  | origin, doc => .error (wrongKind origin expected doc)

def readUInt64 : Reader UInt64 :=
  fun origin doc => (readNatural (2 ^ 64) "u64" origin doc).map UInt64.ofNat

/-- A count of things, as wide as an address. -/
def readCount : Reader UInt64 :=
  fun origin doc => (readNatural (2 ^ 64) "usize" origin doc).map UInt64.ofNat

def readUInt32 : Reader UInt32 :=
  fun origin doc => (readNatural (2 ^ 32) "u32" origin doc).map UInt32.ofNat

def readUInt16 : Reader UInt16 :=
  fun origin doc => (readNatural (2 ^ 16) "u16" origin doc).map UInt16.ofNat

def readParsed {α : Type} (expected : String) (parse : String -> Except String α) : Reader α
  | origin, .scalar (.text s) extent =>
      match parse s with
      | .ok value => .ok value
      | .error reason => .error (origin.fault extent.stop (.unreadableText reason))
  | origin, doc => .error (wrongKind origin expected doc)

def readOption {α : Type} (reader : Reader α) : Reader (Option α)
  | _, .scalar .null _ => .ok none
  | origin, doc => (reader origin doc).map some

/-!
## Any value
-/

mutual

/-- Take in a value as it is; of members with one name the last one counts. -/
def takeIn : Doc -> Except Fault Json
  | .scalar .null _ => .ok .null
  | .scalar (.bool b) _ => .ok (.bool b)
  | .scalar (.number n) _ => .ok (.number n)
  | .scalar (.text s) _ => .ok (.text s)
  | .array items broken _ _ =>
      match takeInItems 0 items, broken with
      | .error fault, _ => .error fault
      | .ok _, some fault => .error (Origin.ofSyntax fault)
      | .ok values, none => .ok (.array values)
  | .object members broken _ _ =>
      match takeInMembers members, broken with
      | .error fault, _ => .error fault
      | .ok _, some fault => .error ((Origin.ofSyntax fault).below .unnamed)
      | .ok values, none => .ok (.object (Dictionary.ofList values))
  | .unreadable fault _ _ => .error (Origin.ofSyntax fault)
  | .unreached fault => .error (Origin.ofSyntax fault)

def takeInItems (index : Nat) : List Doc -> Except Fault (List Json)
  | [] => .ok []
  | item :: rest =>
      match takeIn item with
      | .error fault => .error (fault.below (.index index))
      | .ok value => (takeInItems (index + 1) rest).map (value :: ·)

def takeInMembers : List (Key × Doc) -> Except Fault (List (String × Json))
  | [] => .ok []
  | (key, value) :: rest =>
      match takeIn value with
      | .error fault => .error (fault.below (.key key.name))
      | .ok v => (takeInMembers rest).map ((key.name, v) :: ·)

end

def readJson : Reader Json :=
  fun _ doc => takeIn doc

/-!
## Collections
-/

def readItems {α : Type} (reader : Reader α) (origin : Origin) :
    Nat -> List Doc -> Except Fault (List α)
  | _, [] => .ok []
  | index, item :: rest =>
      match reader origin item with
      | .error fault =>
          .error ((origin.settle Origin.pastList item.stop fault).below (.index index))
      | .ok value => (readItems reader origin (index + 1) rest).map (value :: ·)

def readList {α : Type} (reader : Reader α) : Reader (List α)
  | origin, .array items broken _ _ =>
      match readItems reader origin 0 items, broken with
      | .error fault, _ => .error fault
      | .ok _, some fault => .error (Origin.ofSyntax fault)
      | .ok values, none => .ok values
  | origin, doc => .error (wrongKind origin "a sequence" doc)

def readEntries {α : Type} (reader : Reader α) (origin : Origin) :
    List (Key × Doc) -> Except Fault (List (String × α))
  | [] => .ok []
  | (key, value) :: rest =>
      match reader origin value with
      | .error fault =>
          .error ((origin.settle Origin.pastObject value.stop fault).below (.key key.name))
      | .ok v => (readEntries reader origin rest).map ((key.name, v) :: ·)

def readDictionary {α : Type} (reader : Reader α) : Reader (Dictionary α)
  | origin, .object members broken _ _ =>
      match readEntries reader origin members, broken with
      | .error fault, _ => .error fault
      | .ok _, some fault => .error ((Origin.ofSyntax fault).below .unnamed)
      | .ok entries, none => .ok (Dictionary.ofList entries)
  | origin, doc => .error (wrongKind origin "a map" doc)

def readMembers : Reader Members :=
  readDictionary readJson

end Schema
end QueryGateway
