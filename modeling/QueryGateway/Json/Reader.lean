import QueryGateway.Json.Cursor

/-!
# From text to documents

`Doc.ofText` reads a whole text.  A value that cannot be taken in becomes an
unreadable node with its fault; when a reader that skips it would pass it, the
document goes on after it.  Skipping checks the form of a text but neither the
range of numbers, nor the pairing of surrogates, nor the depth of nesting, and
it names some faults differently, so it is a reading of its own.
-/

namespace QueryGateway
namespace Json

/-- The number of containers that may be open at once. -/
def depthLimit : Nat :=
  127

/-!
## Skipping
-/

namespace Cursor

def skipEscape (c : Cursor) : Except SyntaxFault Cursor :=
  match c.rest with
  | [] => .error (c.fault .endInString)
  | b :: _ =>
      if (simpleEscape? b).isSome then
        .ok c.next
      else if b = 0x75 then
        (hex4 c.next).map Prod.snd
      else
        .error (c.next.fault .invalidEscape)

def skipString : Nat -> Cursor -> Except SyntaxFault Cursor
  | 0, c => .error (c.fault .endInString)
  | fuel + 1, c =>
      match c.rest with
      | [] => .error (c.fault .endInString)
      | b :: _ =>
          if b = 0x22 then
            .ok c.next
          else if b = 0x5C then
            match skipEscape c.next with
            | .error fault => .error fault
            | .ok after => skipString fuel after
          else if b < 0x20 then
            .error (c.fault .controlCharacter)
          else
            skipString fuel c.next

def skipExponent (c : Cursor) : Except SyntaxFault Cursor :=
  let c := c.next
  let c := if c.nextIs (fun b => b = 0x2B || b = 0x2D) then c.next else c
  let (digits, after) := c.digits
  if digits.isEmpty then
    .error ((if c.rest.isEmpty then c else c.next).fault .invalidNumber)
  else
    .ok after

def skipFraction (c : Cursor) : Except SyntaxFault Cursor :=
  let (digits, after) := c.next.digits
  if digits.isEmpty then
    .error (after.peekFault .invalidNumber)
  else if after.nextIs isExponentMark then
    skipExponent after
  else
    .ok after

def skipNumber (c : Cursor) : Except SyntaxFault Cursor :=
  let (digits, after) := c.digits
  match digits with
  | [] => .error ((if c.rest.isEmpty then c else c.next).fault .invalidNumber)
  | 0 :: _ :: _ => .error (c.next.peekFault .invalidNumber)
  | _ =>
      if after.nextIs (· = 0x2E) then
        skipFraction after
      else if after.nextIs isExponentMark then
        skipExponent after
      else
        .ok after

def skipColon (c : Cursor) : Except SyntaxFault Cursor :=
  match c.rest with
  | [] => .error (c.peekFault .endInObject)
  | b :: _ => if b = 0x3A then .ok c.next else .error (c.peekFault .expectedColon)

def skipKey (c : Cursor) : Except SyntaxFault Cursor :=
  match c.rest with
  | [] => .error (c.peekFault .endInObject)
  | b :: _ =>
      if b = 0x22 then
        match skipString (c.rest.length + 1) c.next with
        | .error fault => .error fault
        | .ok after => skipColon after.skipBlanks
      else
        .error (c.peekFault .keyNotString)

mutual

def skipValue : Nat -> Cursor -> Except SyntaxFault Cursor
  | 0, c => .error (c.peekFault .endInValue)
  | fuel + 1, c =>
      let c := c.skipBlanks
      match c.rest with
      | [] => .error (c.peekFault .endInValue)
      | b :: _ =>
          match Char.ofNat b.toNat with
          | 'n' => expect "ull".toUTF8.toList c.next
          | 't' => expect "rue".toUTF8.toList c.next
          | 'f' => expect "alse".toUTF8.toList c.next
          | '-' => skipNumber c.next
          | '"' => skipString (c.rest.length + 1) c.next
          | '[' => skipItems fuel true c.next
          | '\x7b' => skipMembers fuel true c.next
          | _ => if isDigit b then skipNumber c else .error (c.peekFault .expectedValue)

def skipItems : Nat -> Bool -> Cursor -> Except SyntaxFault Cursor
  | 0, _, c => .error (c.peekFault .endInList)
  | fuel + 1, first, c =>
      let c := c.skipBlanks
      match c.rest with
      | [] => .error (c.peekFault .endInList)
      | b :: _ =>
          if b = 0x5D then
            .ok c.next
          else if !first && b != 0x2C then
            .error (c.peekFault .expectedListEnd)
          else
            match skipValue fuel (if first then c else c.next) with
            | .error fault => .error fault
            | .ok after => skipItems fuel false after

def skipMembers : Nat -> Bool -> Cursor -> Except SyntaxFault Cursor
  | 0, _, c => .error (c.peekFault .endInObject)
  | fuel + 1, first, c =>
      let c := c.skipBlanks
      match c.rest with
      | [] => .error (c.peekFault .endInObject)
      | b :: _ =>
          if b = 0x7D then
            .ok c.next
          else if !first && b != 0x2C then
            .error (c.peekFault .expectedObjectEnd)
          else
            match skipKey (if first then c else c.next.skipBlanks) with
            | .error fault => .error fault
            | .ok after =>
                match skipValue fuel after with
                | .error fault => .error fault
                | .ok after => skipMembers fuel false after

end

end Cursor

/-!
## Taking in
-/

namespace Doc

abbrev Reading := Doc × Option Cursor

def ofToken (c : Cursor) (token : Except SyntaxFault (Scalar × Cursor)) : Reading :=
  match token with
  | .ok (value, after) => (.scalar value ⟨c.offset, after.offset⟩, some after)
  | .error fault =>
      match Cursor.skipValue (2 * c.rest.length + 2) c with
      | .ok after => (.unreadable fault none ⟨c.offset, after.offset⟩, some after)
      | .error skipped => (.unreadable fault (some skipped) ⟨c.offset, c.offset⟩, none)

/--
The node for a container opened at `c`: `build` makes it from its faults and
extent, and `ended` is the place after it or the fault that broke it off.
-/
def ofContainer (c : Cursor)
    (build : Option SyntaxFault -> Option SyntaxFault -> Extent -> Doc)
    (ended : Except SyntaxFault Cursor) : Reading :=
  match ended with
  | .ok after => (build none none ⟨c.offset, after.offset⟩, some after)
  | .error fault =>
      match Cursor.skipValue (2 * c.rest.length + 2) c with
      | .ok after => (build (some fault) none ⟨c.offset, after.offset⟩, some after)
      | .error skipped => (build (some fault) (some skipped) ⟨c.offset, c.offset⟩, none)

def word (text : String) (value : Scalar) (c : Cursor) : Except SyntaxFault (Scalar × Cursor) :=
  (Cursor.expect text.toUTF8.toList c.next).map fun after => (value, after)

def readKey (first : Bool) (c : Cursor) : Except SyntaxFault (Key × Cursor) :=
  match c.rest with
  | [] => .error (c.peekFault .endInValue)
  | b :: _ =>
      if b = 0x22 then
        c.string.map fun (name, after) => (⟨name, after.offset⟩, after)
      else if !first && b = 0x7D then
        .error (c.peekFault .trailingComma)
      else
        .error (c.peekFault .keyNotString)

mutual

def readValue : Nat -> Nat -> Cursor -> Reading
  | 0, _, c => ofToken c (.error (c.peekFault .endInValue))
  | fuel + 1, depth, c =>
      let c := c.skipBlanks
      match c.rest with
      | [] => ofToken c (.error (c.peekFault .endInValue))
      | b :: _ =>
          match Char.ofNat b.toNat with
          | 'n' => ofToken c (word "ull" .null c)
          | 't' => ofToken c (word "rue" (.bool true) c)
          | 'f' => ofToken c (word "alse" (.bool false) c)
          | '"' => ofToken c (c.string.map fun (s, after) => (.text s, after))
          | '[' =>
              match depth with
              | 0 => ofToken c (.error (c.peekFault .recursionLimit))
              | depth + 1 =>
                  let (items, ended) := readItems fuel depth true c.next
                  ofContainer c (.array items) ended
          | '\x7b' =>
              match depth with
              | 0 => ofToken c (.error (c.peekFault .recursionLimit))
              | depth + 1 =>
                  let (members, ended) := readMembers fuel depth true c.next
                  ofContainer c (.object members) ended
          | _ =>
              if b = 0x2D || Cursor.isDigit b then
                ofToken c (c.number.map fun (n, after) => (.number n, after))
              else
                ofToken c (.error (c.peekFault .expectedValue))

def readItems : Nat -> Nat -> Bool -> Cursor -> List Doc × Except SyntaxFault Cursor
  | 0, _, _, c => ([], .error (c.peekFault .endInList))
  | fuel + 1, depth, first, c =>
      let c := c.skipBlanks
      match c.rest with
      | [] => ([], .error (c.peekFault .endInList))
      | b :: _ =>
          if b = 0x5D then
            ([], .ok c.next)
          else if !first && b != 0x2C then
            ([], .error (c.peekFault .expectedListEnd))
          else
            let c := if first then c else c.next.skipBlanks
            if !first && c.rest.isEmpty then
              ([], .error (c.peekFault .endInValue))
            else if !first && c.nextIs (· = 0x5D) then
              ([], .error (c.peekFault .trailingComma))
            else
              match readValue fuel depth c with
              | (item, none) => ([item], .error (item.skipFault.getD (c.peekFault .endInValue)))
              | (item, some after) =>
                  let (items, ended) := readItems fuel depth false after
                  (item :: items, ended)

def readMembers : Nat -> Nat -> Bool -> Cursor -> List (Key × Doc) × Except SyntaxFault Cursor
  | 0, _, _, c => ([], .error (c.peekFault .endInObject))
  | fuel + 1, depth, first, c =>
      let c := c.skipBlanks
      match c.rest with
      | [] => ([], .error (c.peekFault .endInObject))
      | b :: _ =>
          if b = 0x7D then
            ([], .ok c.next)
          else if !first && b != 0x2C then
            ([], .error (c.peekFault .expectedObjectEnd))
          else
            match readKey first (if first then c else c.next.skipBlanks) with
            | .error fault => ([], .error fault)
            | .ok (key, after) =>
                match Cursor.skipColon after.skipBlanks with
                | .error fault => ([(key, .unreached fault)], .error fault)
                | .ok after =>
                    match readValue fuel depth after with
                    | (value, none) =>
                        ([(key, value)], .error (value.skipFault.getD (c.peekFault .endInObject)))
                    | (value, some after) =>
                        let (members, ended) := readMembers fuel depth false after
                        ((key, value) :: members, ended)

end

/-- Read the value at a cursor, not counting the containers around it. -/
def readAt (c : Cursor) : Reading :=
  readValue (2 * c.rest.length + 2) depthLimit c

def ofBytes (bytes : List UInt8) : Doc × Option SyntaxFault :=
  match readAt ⟨0, bytes⟩ with
  | (doc, none) => (doc, none)
  | (doc, some after) =>
      let after := after.skipBlanks
      (doc, if after.rest.isEmpty then none else some (after.peekFault .trailingCharacters))

end Doc
end Json
end QueryGateway
