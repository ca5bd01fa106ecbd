/-!
# Tables

A table holds at most one value under a key.  Setting a key that is there
replaces its value in place.
-/

namespace QueryGateway

structure Table (κ α : Type) where
  entries : List (κ × α)

namespace Table

variable {κ α : Type}

instance : EmptyCollection (Table κ α) :=
  ⟨⟨[]⟩⟩

instance : Inhabited (Table κ α) :=
  ⟨∅⟩

def size (table : Table κ α) : Nat :=
  table.entries.length

def isEmpty (table : Table κ α) : Bool :=
  table.entries.isEmpty

variable [DecidableEq κ]

def get? (table : Table κ α) (key : κ) : Option α :=
  (table.entries.find? fun entry => entry.1 = key).map Prod.snd

def contains (table : Table κ α) (key : κ) : Bool :=
  (table.get? key).isSome

def setEntry (key : κ) (value : α) : List (κ × α) -> List (κ × α)
  | [] => [(key, value)]
  | (other, v) :: rest =>
      if other = key then (key, value) :: rest else (other, v) :: setEntry key value rest

def set (table : Table κ α) (key : κ) (value : α) : Table κ α :=
  ⟨setEntry key value table.entries⟩

def filter (keep : κ -> α -> Bool) (table : Table κ α) : Table κ α :=
  ⟨table.entries.filter fun entry => keep entry.1 entry.2⟩

def erase (table : Table κ α) (key : κ) : Table κ α :=
  ⟨table.entries.filter fun entry => entry.1 ≠ key⟩

end Table
end QueryGateway
