import QueryGateway.Rows.View

/-!
# Templates

A template is text with placeholders: a name between double braces, blanks
being allowed around the name.  Filling it in replaces each placeholder whose
name is a parameter by the text of that parameter and leaves the rest as it is;
what was filled in is not looked at again.
-/

namespace QueryGateway
namespace Template

inductive Piece where
  | literal (c : Char)
  | placeholder (name : String) (written : List Char)
deriving DecidableEq

def isNameChar (c : Char) : Bool :=
  c.isAlphanum || c = '_' || c = '.' || c = '-'

/-- The name of the placeholder that a text starts with, and the length of the placeholder. -/
def placeholder? (text : List Char) : Option (String × Nat) :=
  match text with
  | '\x7b' :: '\x7b' :: rest =>
      let fromName := Text.trimStart rest
      let name := fromName.takeWhile isNameChar
      match Text.trimStart (fromName.drop name.length) with
      | '\x7d' :: '\x7d' :: after =>
          if name.isEmpty then none else some (String.ofList name, text.length - after.length)
      | _ => none
  | _ => none

/-- The pieces of a text, of which the first `skip` characters belong to a piece already made. -/
def piecesFrom : Nat -> List Char -> List Piece
  | _, [] => []
  | skip + 1, _ :: rest => piecesFrom skip rest
  | 0, c :: rest =>
      match placeholder? (c :: rest) with
      | some (name, length) =>
          .placeholder name ((c :: rest).take length) :: piecesFrom (length - 1) rest
      | none => .literal c :: piecesFrom 0 rest

def pieces (template : String) : List Piece :=
  piecesFrom 0 template.toList

def Piece.fill (parameters : Members) : Piece -> List Char
  | .literal c => [c]
  | .placeholder name written =>
      match Dictionary.find? parameters name with
      | some value => (Rows.asText value).toList
      | none => written

def fillPieces (parameters : Members) (template : String) : String :=
  String.ofList ((pieces template).flatMap (Piece.fill parameters))

def hasBraces : List Char -> Bool
  | [] => false
  | c :: rest => ['\x7b', '\x7b'].isPrefixOf (c :: rest) || hasBraces rest

/-- Fill in a template; one without parameters or placeholders is not looked through. -/
def fill (parameters : Members) (template : String) : String :=
  if parameters.isEmpty || !hasBraces template.toList then
    template
  else
    fillPieces parameters template

end Template
end QueryGateway
