import QueryGateway.Json.Reader
import QueryGateway.Text.Quoted

/-!
# Faults of reading typed values

Why a document is not a value of the type asked for: the cause, the place in
the text when there is a text, and the way from the whole value down to the
part at fault.
-/

namespace QueryGateway
namespace Schema

open Json (Doc SyntaxError SyntaxFault Scalar Position)

inductive Found where
  | null
  | bool (b : Bool)
  | number (n : Number)
  | text (s : String)
  | sequence
  | map

namespace Found

def describe : Found -> String
  | .null => "null"
  | .bool b => s!"boolean `{b}`"
  | .number (.integer n) => s!"integer `{n}`"
  | .number (.real x _) => "floating point `" ++ Binary64.render Binary64.jsonStyle x ++ "`"
  | .text s => "string " ++ Text.quoted s
  | .sequence => "sequence"
  | .map => "map"

def ofScalar : Scalar -> Found
  | .null => .null
  | .bool b => .bool b
  | .number n => .number n
  | .text s => .text s

end Found

inductive Cause where
  | malformed (error : SyntaxError)
  | invalidType (found : Found) (expected : String)
  | invalidValue (found : Found) (expected : String)
  | invalidLength (length : Nat) (expected : String)
  | missingField (name : String)
  | duplicateField (name : String)
  | unknownVariant (name : String) (known : List String)
  | unreadableText (reason : String)

namespace Cause

def oneOf (names : List String) : String :=
  match names.map fun name => "`" ++ name ++ "`" with
  | [] => "there are no variants"
  | [a] => "expected " ++ a
  | [a, b] => "expected " ++ a ++ " or " ++ b
  | many => "expected one of " ++ ", ".intercalate many

def message : Cause -> String
  | .malformed error => error.message
  | .invalidType found expected => "invalid type: " ++ found.describe ++ ", expected " ++ expected
  | .invalidValue found expected => "invalid value: " ++ found.describe ++ ", expected " ++ expected
  | .invalidLength n expected => s!"invalid length {n}, expected " ++ expected
  | .missingField name => "missing field `" ++ name ++ "`"
  | .duplicateField name => "duplicate field `" ++ name ++ "`"
  | .unknownVariant name known => "unknown variant `" ++ name ++ "`, " ++ oneOf known
  | .unreadableText reason => reason

/-- Whether the text itself is at fault and not what it says. -/
def isSyntax : Cause -> Bool
  | .malformed _ => true
  | _ => false

end Cause

/-- A step from a value to a part of it; a member whose key cannot be read has no name. -/
inductive Step where
  | key (name : String)
  | index (i : Nat)
  | unnamed
deriving DecidableEq, Repr

def Step.describe : Step -> String
  | .key name => name
  | .index i => s!"[{i}]"
  | .unnamed => "?"

structure Fault where
  cause : Cause
  offset : Option Nat
  path : List Step

namespace Fault

def below (step : Step) (fault : Fault) : Fault :=
  { fault with path := step :: fault.path }

def message (bytes : List UInt8) (fault : Fault) : String :=
  match fault.offset with
  | none => fault.cause.message
  | some offset => fault.cause.message ++ (Position.ofOffset bytes offset).describe

/-- Steps after the first; indices follow at once, and a point leads to anything else. -/
def describeRest : List Step -> String
  | [] => ""
  | .index i :: rest => Step.describe (.index i) ++ describeRest rest
  | step :: rest => "." ++ step.describe ++ describeRest rest

/-- The way to the part at fault, as in `a.b[2]`, unless nothing on it has a name. -/
def describePath (path : List Step) : Option String :=
  match path with
  | [] => none
  | first :: rest =>
      if path.all (· == .unnamed) then none else some (first.describe ++ describeRest rest)

end Fault

inductive Origin where
  /-- A value that never was text: faults have no place. -/
  | value
  /-- A text, given by its bytes. -/
  | text (bytes : List UInt8)
  /-- A part of a document that was taken in before it was known what to read it as. -/
  | buffered

namespace Origin

def isText : Origin -> Bool
  | .text _ => true
  | _ => false

/-- A fault at an offset, or one whose place is left open where there is no text. -/
def fault (origin : Origin) (offset : Nat) (cause : Cause) : Fault :=
  ⟨cause, if origin.isText then some offset else none, []⟩

/-- A fault whose place the container around it gives. -/
def openFault (cause : Cause) : Fault :=
  ⟨cause, none, []⟩

def ofSyntax (f : SyntaxFault) : Fault :=
  ⟨.malformed f.error, some f.offset, []⟩

/-- The place where a list that is left at `offset` gives its faults a place: past its end. -/
def pastList (bytes : List UInt8) (offset : Nat) : Nat :=
  let c := Json.Cursor.skipBlanks ⟨offset, bytes.drop offset⟩
  if c.nextIs (· = 0x5D) then c.offset + 1
  else if c.nextIs (· = 0x2C) then c.next.skipBlanks.offset
  else c.offset

def pastObject (bytes : List UInt8) (offset : Nat) : Nat :=
  let c := Json.Cursor.skipBlanks ⟨offset, bytes.drop offset⟩
  if c.nextIs (· = 0x7D) then c.offset + 1 else c.offset

/-- Place a fault, if it has none yet, at the end of a container left at `offset`. -/
def settle (origin : Origin) (past : List UInt8 -> Nat -> Nat) (offset : Nat)
    (fault : Fault) : Fault :=
  match origin, fault.offset with
  | .text bytes, none => { fault with offset := some (past bytes offset) }
  | _, _ => fault

def listEndFault (bytes : List UInt8) (offset : Nat) : Option SyntaxFault :=
  let c := Json.Cursor.skipBlanks ⟨offset, bytes.drop offset⟩
  match c.rest with
  | [] => some (c.peekFault .endInList)
  | b :: _ =>
      if b = 0x5D then
        none
      else if b = 0x2C then
        let c := c.next.skipBlanks
        some (c.peekFault (if c.nextIs (· = 0x5D) then .trailingComma else .trailingCharacters))
      else
        some (c.peekFault .trailingCharacters)

end Origin

abbrev Reader (α : Type) := Origin -> Doc -> Except Fault α

def Reader.ofJson {α : Type} (reader : Reader α) (value : Json) : Except Fault α :=
  reader .value value.toDoc

def Reader.ofText {α : Type} (reader : Reader α) (bytes : List UInt8) : Except Fault α :=
  match Doc.ofBytes bytes with
  | (doc, trailing) =>
      match reader (.text bytes) doc, trailing with
      | .ok value, none => .ok value
      | .ok _, some fault => .error (Origin.ofSyntax fault)
      | .error fault, _ => .error fault

end Schema
end QueryGateway
