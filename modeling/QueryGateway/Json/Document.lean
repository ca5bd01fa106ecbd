import QueryGateway.Json.Basic

/-!
# Documents

A document is a JSON text as far as it could be read: values in the order of
the text with repeated members kept, each with the offsets where it starts and
stops, and with the faults of the text in the places where a reader comes upon
them.  A reader that only skips a value is more lenient than one that takes it
in, so a fault says whether skipping passes it.  A value that never was text is
a document without faults whose offsets mean nothing.
-/

namespace QueryGateway
namespace Json

inductive SyntaxError where
  | endInValue
  | endInList
  | endInObject
  | endInString
  | expectedValue
  | expectedIdent
  | invalidNumber
  | numberOutOfRange
  | invalidEscape
  | endOfHexEscape
  | loneSurrogate
  | controlCharacter
  | trailingComma
  | trailingCharacters
  | expectedListEnd
  | expectedObjectEnd
  | expectedColon
  | keyNotString
  | recursionLimit
deriving DecidableEq, Repr

namespace SyntaxError

def message : SyntaxError -> String
  | .endInValue => "EOF while parsing a value"
  | .endInList => "EOF while parsing a list"
  | .endInObject => "EOF while parsing an object"
  | .endInString => "EOF while parsing a string"
  | .expectedValue => "expected value"
  | .expectedIdent => "expected ident"
  | .invalidNumber => "invalid number"
  | .numberOutOfRange => "number out of range"
  | .invalidEscape => "invalid escape"
  | .endOfHexEscape => "unexpected end of hex escape"
  | .loneSurrogate => "lone leading surrogate in hex escape"
  | .controlCharacter => "control character (\\u0000-\\u001F) found while parsing a string"
  | .trailingComma => "trailing comma"
  | .trailingCharacters => "trailing characters"
  | .expectedListEnd => "expected `,` or `]`"
  | .expectedObjectEnd => "expected `,` or `\x7d`"
  | .expectedColon => "expected `:`"
  | .keyNotString => "key must be a string"
  | .recursionLimit => "recursion limit exceeded"

end SyntaxError

/-- An error and the number of bytes before the place it is reported at. -/
structure SyntaxFault where
  error : SyntaxError
  offset : Nat
deriving DecidableEq, Repr

inductive Scalar where
  | null
  | bool (b : Bool)
  | number (n : Number)
  | text (s : String)

/-- Where a value starts, and where a reader stands after it. -/
structure Extent where
  start : Nat
  stop : Nat

structure Key where
  name : String
  stop : Nat

/--
`broken` is the fault a reader finds after the last item or member, `unskippable`
the one a skipping reader finds anywhere inside.  A member whose colon is at fault
has a value that is never reached.
-/
inductive Doc where
  | scalar (value : Scalar) (extent : Extent)
  | array (items : List Doc) (broken unskippable : Option SyntaxFault) (extent : Extent)
  | object (members : List (Key × Doc)) (broken unskippable : Option SyntaxFault) (extent : Extent)
  | unreadable (fault : SyntaxFault) (unskippable : Option SyntaxFault) (extent : Extent)
  | unreached (fault : SyntaxFault)

namespace Doc

def extent : Doc -> Extent
  | .scalar _ e => e
  | .array _ _ _ e => e
  | .object _ _ _ e => e
  | .unreadable _ _ e => e
  | .unreached fault => ⟨fault.offset, fault.offset⟩

def start (doc : Doc) : Nat :=
  doc.extent.start

def stop (doc : Doc) : Nat :=
  doc.extent.stop

def skipFault : Doc -> Option SyntaxFault
  | .scalar _ _ => none
  | .array _ _ u _ => u
  | .object _ _ u _ => u
  | .unreadable _ u _ => u
  | .unreached fault => some fault

end Doc

/-!
## Documents of values
-/

def nowhere : Extent :=
  ⟨0, 0⟩

mutual

def toDoc : Json -> Doc
  | .null => .scalar .null nowhere
  | .bool b => .scalar (.bool b) nowhere
  | .number n => .scalar (.number n) nowhere
  | .text s => .scalar (.text s) nowhere
  | .array items => .array (toDocs items) none none nowhere
  | .object members => .object (toMembers members) none none nowhere

def toDocs : List Json -> List Doc
  | [] => []
  | item :: rest => toDoc item :: toDocs rest

def toMembers : List (String × Json) -> List (Key × Doc)
  | [] => []
  | (name, value) :: rest => (⟨name, 0⟩, toDoc value) :: toMembers rest

end

/-!
## Positions
-/

structure Position where
  line : Nat
  column : Nat
deriving DecidableEq, Repr

def Position.ofOffset (bytes : List UInt8) (offset : Nat) : Position :=
  (bytes.take offset).foldl
    (fun p b => if b = 0x0A then ⟨p.line + 1, 0⟩ else ⟨p.line, p.column + 1⟩) ⟨1, 0⟩

def Position.describe (p : Position) : String :=
  s!" at line {p.line} column {p.column}"

end Json
end QueryGateway
