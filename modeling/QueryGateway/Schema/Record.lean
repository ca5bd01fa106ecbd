import QueryGateway.Schema.Scalar

/-!
# Records

A record is a row of fields, each with a name, other names it goes by, a reader
and what it is when it is missing.  It is read from an object, members in the
order of the document, unknown ones skipped; or from a list of the values of
the fields in their order, of which the last ones may be missing.
-/

namespace QueryGateway
namespace Schema

open Json (Doc Key SyntaxFault)

/--
`absent` is the value when an object has no such member, `omitted` the value
when a list ends before it; without one the field is required.
-/
structure Field (α : Type) where
  name : String
  aliases : List String
  reader : Reader α
  absent : Option α
  omitted : Option α

namespace Field

variable {α : Type}

def required (name : String) (reader : Reader α) : Field α :=
  ⟨name, [], reader, none, none⟩

def withDefault (name : String) (reader : Reader α) (value : α) : Field α :=
  ⟨name, [], reader, some value, some value⟩

/-- A field that may be null, and is null when an object does not have it. -/
def nullable (name : String) (reader : Reader α) : Field (Option α) :=
  ⟨name, [], readOption reader, some none, none⟩

def optional (name : String) (reader : Reader α) : Field (Option α) :=
  withDefault name (readOption reader) none

def orNamed (field : Field α) (name : String) : Field α :=
  { field with aliases := field.aliases ++ [name] }

def answersTo (field : Field α) (name : String) : Bool :=
  field.name == name || field.aliases.contains name

end Field

/-- A row of fields; its value is the tuple of theirs. -/
inductive Record : Type -> Type 1 where
  | nil : Record Unit
  | cons {α β : Type} (field : Field α) (rest : Record β) : Record (α × β)

namespace Record

@[reducible] def Slots {τ : Type} : Record τ -> Type
  | .nil => Unit
  | @cons α _ _ rest => Option α × rest.Slots

def emptySlots : {τ : Type} -> (record : Record τ) -> record.Slots
  | _, .nil => ()
  | _, .cons _ rest => (none, rest.emptySlots)

def size : {τ : Type} -> Record τ -> Nat
  | _, .nil => 0
  | _, .cons _ rest => rest.size + 1

inductive Feeding (σ : Type) where
  | unknown
  | duplicate (name : String)
  | read (slots : Except Fault σ)

def Feeding.map {σ ρ : Type} (f : σ -> ρ) : Feeding σ -> Feeding ρ
  | .unknown => .unknown
  | .duplicate name => .duplicate name
  | .read slots => .read (slots.map f)

def feed (origin : Origin) (name : String) (value : Doc) :
    {τ : Type} -> (record : Record τ) -> record.Slots -> Feeding record.Slots
  | _, .nil, _ => .unknown
  | _, @cons α _ field rest, slots =>
      let (slot, others) : Option α × rest.Slots := slots
      if field.answersTo name then
        match slot with
        | some _ => .duplicate field.name
        | none => .read ((field.reader origin value).map fun v => (some v, others))
      else
        (feed origin name value rest others).map fun others => (slot, others)

def finish : {τ : Type} -> (record : Record τ) -> record.Slots -> Except Cause τ
  | _, .nil, _ => .ok ()
  | _, @cons α _ field rest, slots =>
      let (slot, others) : Option α × rest.Slots := slots
      match slot.or field.absent with
      | none => .error (.missingField field.name)
      | some value => (rest.finish others).map fun values => (value, values)

/-- Read members up to the end of an object, and tell where it was left. -/
def feedAll (origin : Origin) {τ : Type} (record : Record τ) :
    record.Slots -> Nat -> List (Key × Doc) -> Except Fault (record.Slots × Nat)
  | slots, left, [] => .ok (slots, left)
  | slots, _, (key, value) :: rest =>
      match feed origin key.name value record slots with
      | .unknown =>
          match value.skipFault with
          | some fault => .error ((Origin.ofSyntax fault).below (.key key.name))
          | none => feedAll origin record slots value.stop rest
      | .duplicate name =>
          .error (origin.settle Origin.pastObject key.stop (Origin.openFault (.duplicateField name)))
      | .read (.error fault) =>
          .error ((origin.settle Origin.pastObject value.stop fault).below (.key key.name))
      | .read (.ok slots) => feedAll origin record slots value.stop rest

def describeSize (n : Nat) : String :=
  if n = 1 then "1 element" else s!"{n} elements"

/--
Read fields from the items of a list: the values, the items left over and the
place where the list was left.
-/
def takeItems (origin : Origin) (expected : String) (broken : Option SyntaxFault) :
    {τ : Type} -> Record τ -> Nat -> Nat -> List Doc -> Except Fault (τ × List Doc × Nat)
  | _, .nil, _, left, items => .ok ((), items, left)
  | _, .cons field rest, index, _, item :: items =>
      match field.reader origin item with
      | .error fault =>
          .error ((origin.settle Origin.pastList item.stop fault).below (.index index))
      | .ok value =>
          match takeItems origin expected broken rest (index + 1) item.stop items with
          | .error fault => .error fault
          | .ok (values, left) => .ok ((value, values), left)
  | _, .cons field rest, index, left, [] =>
      match broken, field.omitted with
      | some fault, _ => .error (Origin.ofSyntax fault)
      | none, none =>
          .error (origin.settle Origin.pastList left
            (Origin.openFault (.invalidLength index expected)))
      | none, some value =>
          match takeItems origin expected none rest (index + 1) left [] with
          | .error fault => .error fault
          | .ok (values, left) => .ok ((value, values), left)

/-- The fault of a list of `total` items of which only `taken` were wanted. -/
def surplusFault (origin : Origin) (total taken left : Nat) : Option Fault :=
  match origin with
  | .text bytes => (Origin.listEndFault bytes left).map Origin.ofSyntax
  | .value =>
      if taken < total then
        some (Origin.openFault (.invalidLength total "fewer elements in array"))
      else
        none
  | .buffered =>
      if taken < total then
        some (Origin.openFault (.invalidLength total (describeSize taken ++ " in sequence")))
      else
        none

def reader {τ : Type} (record : Record τ) (kind : String) : Reader τ
  | origin, .array items broken _ extent =>
      let expected := kind ++ " with " ++ describeSize record.size
      match takeItems origin expected broken record 0 (extent.start + 1) items with
      | .error fault => .error fault
      | .ok (values, surplus, left) =>
          match surplusFault origin items.length (items.length - surplus.length) left with
          | some fault => .error fault
          | none => .ok values
  | origin, .object members broken _ extent =>
      match feedAll origin record record.emptySlots (extent.start + 1) members with
      | .error fault => .error fault
      | .ok (slots, left) =>
          match broken with
          | some fault => .error ((Origin.ofSyntax fault).below .unnamed)
          | none =>
              (record.finish slots).mapError fun cause =>
                origin.settle Origin.pastObject left (Origin.openFault cause)
  | origin, doc => .error (wrongKind origin kind doc)

end Record
end Schema
end QueryGateway
