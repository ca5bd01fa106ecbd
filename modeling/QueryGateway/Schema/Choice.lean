import QueryGateway.Schema.Record

/-!
# Choices

Two ways to write one of several alternatives: by its name alone, or as an
object in which one member, the tag, names the alternative and the other
members are its fields.  A name may also stand as the only key of an object
whose value is null; a tagged alternative may also be a list that starts with
the tag.
-/

namespace QueryGateway
namespace Schema

open Json (Doc Key SyntaxFault Cursor)

/-- Alternatives by name; `fallback` is what any other name stands for. -/
structure Choice (α : Type) where
  names : List (String × α)
  fallback : Option α

namespace Choice

variable {α : Type}

def pick (choice : Choice α) (name : String) : Except Cause α :=
  match choice.names.find? (·.1 == name), choice.fallback with
  | some (_, value), _ => .ok value
  | none, some value => .ok value
  | none, none => .error (.unknownVariant name (choice.names.map Prod.fst))

def readName : Reader String :=
  readText "variant identifier"

def readPicked (choice : Choice α) : Reader α :=
  fun origin doc =>
    match readName origin doc with
    | .error fault => .error fault
    | .ok name => (choice.pick name).mapError (origin.fault doc.stop)

/-- The null beside a name, for which what was taken in also admits an empty object. -/
def readUnit : Reader Unit
  | _, .scalar .null _ => .ok ()
  | .buffered, .object [] _ _ _ => .ok ()
  | origin, doc => .error (wrongKind origin "unit" doc)

/-- An object with a name as its only key, read from its brace on. -/
def readKeyed (choice : Choice α) (bytes : List UInt8) (c : Cursor) : Except Fault α :=
  let origin := Origin.text bytes
  match Doc.readAt c.next with
  | (key, after) =>
      match choice.readPicked origin key, after with
      | .error fault, _ => .error fault
      | .ok _, none => .error (Origin.ofSyntax (c.fault .endInObject))
      | .ok value, some after =>
          match Cursor.skipColon after.skipBlanks with
          | .error fault => .error (Origin.ofSyntax fault)
          | .ok after =>
              match Doc.readAt after with
              | (unit, after) =>
                  match readUnit origin unit, after with
                  | .error fault, _ => .error fault
                  | .ok _, none => .error (Origin.ofSyntax (c.fault .endInObject))
                  | .ok _, some after =>
                      let after := after.skipBlanks
                      if after.nextIs (· = 0x7D) then
                        .ok value
                      else if after.rest.isEmpty then
                        .error (Origin.ofSyntax (after.fault .endInObject))
                      else
                        .error (Origin.ofSyntax (after.fault .expectedValue))

def readFromText (choice : Choice α) (bytes : List UInt8) : Doc -> Except Fault α
  | .unreached fault => .error (Origin.ofSyntax fault)
  | doc =>
      let c : Cursor := ⟨doc.start, bytes.drop doc.start⟩
      if c.nextIs (· = 0x22) then
        choice.readPicked (.text bytes) doc
      else if c.nextIs (· = 0x7B) then
        choice.readKeyed bytes c
      else
        .error (Origin.ofSyntax
          (c.peekFault (if c.rest.isEmpty then .endInValue else .expectedValue)))

def reader (choice : Choice α) : Reader α
  | .text bytes, doc => choice.readFromText bytes doc
  | origin, .object [(key, value)] _ _ _ =>
      match choice.pick key.name with
      | .error cause => .error (origin.fault key.stop cause)
      | .ok picked => (readUnit origin value).map fun _ => picked
  | origin, .object _ _ _ extent =>
      .error (origin.fault extent.start (.invalidValue .map "map with a single key"))
  | origin, .scalar (.text s) extent => (choice.pick s).mapError (origin.fault extent.stop)
  | origin, doc => .error (wrongKind origin "string or map" doc)

end Choice

/-!
## Tagged alternatives
-/

/-- Alternatives told apart by a tag; each reads the document without the tag. -/
structure Tagged (α : Type) where
  kind : String
  tag : String
  variants : List (String × Reader α)

namespace Tagged

variable {α : Type}

def choice (tagged : Tagged α) : Choice (Reader α) :=
  ⟨tagged.variants, none⟩

/-- Members up to the end of an object: the tag's reader, the other members, where it was left. -/
def collect (tagged : Tagged α) (origin : Origin) :
    Option (Reader α) -> Nat -> List (Key × Doc) ->
      Except Fault (Option (Reader α) × List (Key × Doc) × Nat)
  | found, left, [] => .ok (found, [], left)
  | found, _, (key, value) :: rest =>
      if key.name = tagged.tag then
        match found with
        | some _ =>
            .error (origin.settle Origin.pastObject key.stop
              (Origin.openFault (.duplicateField tagged.tag)))
        | none =>
            match tagged.choice.readPicked origin value with
            | .error fault => .error (fault.below (.key key.name))
            | .ok reader => collect tagged origin (some reader) value.stop rest
      else
        match takeIn value with
        | .error fault => .error (fault.below (.key key.name))
        | .ok _ =>
            (collect tagged origin found value.stop rest).map fun (reader, others, left) =>
              (reader, (key, value) :: others, left)

def reader (tagged : Tagged α) : Reader α
  | origin, .object members broken _ extent =>
      match tagged.collect origin none (extent.start + 1) members, broken with
      | .error fault, _ => .error fault
      | .ok _, some fault => .error ((Origin.ofSyntax fault).below .unnamed)
      | .ok (none, _, left), none =>
          .error (origin.settle Origin.pastObject left
            (Origin.openFault (.missingField tagged.tag)))
      | .ok (some reader, others, _), none => reader .buffered (.object others none none extent)
  | origin, .array [] broken _ extent =>
      match broken with
      | some fault => .error (Origin.ofSyntax fault)
      | none =>
          .error (origin.settle Origin.pastList (extent.start + 1)
            (Origin.openFault (.missingField tagged.tag)))
  | origin, .array (first :: rest) broken _ extent =>
      match tagged.choice.readPicked origin first with
      | .error fault => .error (fault.below (.index 0))
      | .ok reader =>
          match takeInItems 1 rest, broken with
          | .error fault, _ => .error fault
          | .ok _, some fault => .error (Origin.ofSyntax fault)
          | .ok _, none => reader .buffered (.array rest none none extent)
  | origin, doc => .error (wrongKindInside origin doc)
where
  wrongKindInside (origin : Origin) (doc : Doc) : Fault :=
    wrongKind origin ("internally tagged enum " ++ tagged.kind) doc

/-- An alternative without fields: members are ignored, list items are not. -/
def empty (value : α) : Reader α
  | origin, .array items _ _ extent =>
      if items.isEmpty then
        .ok value
      else
        .error (origin.fault extent.stop
          (.invalidLength items.length (Record.describeSize 0 ++ " in sequence")))
  | _, _ => .ok value

def fields {τ : Type} (kind : String) (record : Record τ) (build : τ -> α) : Reader α :=
  fun origin doc => (record.reader ("struct variant " ++ kind) origin doc).map build

end Tagged
end Schema
end QueryGateway
