import QueryGateway.Remote.Request

/-!
# Media types

The type of a body, such as `application/json; charset=utf-8`: a kind, a
subtype, perhaps a suffix after the last plus sign, and parameters.
-/

namespace QueryGateway
namespace Service

structure MediaType where
  kind : String
  subtype : String
  suffix : Option String
deriving DecidableEq

namespace MediaType

def isTokenChar (c : Char) : Bool :=
  Remote.isTokenChar c && c != '*'

def isQuotable (c : Char) : Bool :=
  0x20 ≤ c.toNat && c.toNat != 0x7F

/-- What follows a quoted value, whose first character may even be a quote. -/
def afterQuoted? (text : List Char) : Option (List Char) :=
  match text with
  | [] => none
  | first :: rest =>
      if isQuotable first then
        match rest.dropWhile fun c => isQuotable c && c != '"' with
        | '"' :: tail => some (tail.dropWhile (· = ' '))
        | _ => none
      else
        none

def afterValue? (text : List Char) : Option (List Char) :=
  match text with
  | '"' :: quoted => afterQuoted? quoted
  | _ =>
      let rest := text.dropWhile isTokenChar
      if rest.isEmpty || isTokenChar (text.headD ';') then some rest else none

/-- Whether parameters are well formed, of which at most so many characters are looked at. -/
def parametersFit : Nat -> List Char -> Bool
  | _, [] => true
  | 0, _ => false
  | fuel + 1, text =>
      if text.head? == some ' ' then
        parametersFit fuel (text.drop 1)
      else
        match text.takeWhile isTokenChar, text.dropWhile isTokenChar with
        | _ :: _, '=' :: value =>
            match afterValue? value with
            | some [] => true
            | some (';' :: rest) => parametersFit fuel rest
            | _ => false
        | _, _ => false

/-- Subtype and suffix; a plus sign in front of everything is part of the subtype. -/
def splitSuffix (text : List Char) : List Char × Option (List Char) :=
  match Net.Url.splitLast '+' text with
  | (some (c :: front), suffix) => (c :: front, some suffix)
  | _ => (text, none)

def lowered (text : List Char) : String :=
  Remote.lowerName (String.ofList text)

def parse? (text : String) : Option MediaType :=
  let chars := text.toList
  match chars.takeWhile isTokenChar, chars.dropWhile isTokenChar with
  | kind@(_ :: _), '/' :: rest =>
      let sub := rest.takeWhile isTokenChar
      let (subtype, suffix) := splitSuffix sub
      let type : MediaType := ⟨lowered kind, lowered subtype, suffix.map lowered⟩
      match rest.dropWhile isTokenChar with
      | [] => some type
      | ';' :: parameters =>
          if !sub.isEmpty && parametersFit parameters.length parameters then some type else none
      | _ => none
  | _, _ => none

def isJson (type : MediaType) : Bool :=
  type.kind == "application" && (type.subtype == "json" || type.suffix == some "json")

end MediaType
end Service
end QueryGateway
