/-!
# Dictionaries with names in order

A dictionary is a list of names and values in strictly ascending order of the
names.  `insert` keeps that order, so two dictionaries with the same entries
are the same list, whatever the order in which the entries came.
-/

namespace QueryGateway

abbrev Dictionary (α : Type) := List (String × α)

namespace Dictionary

variable {α : Type}

def find? (entries : Dictionary α) (name : String) : Option α :=
  (List.find? (fun entry => entry.1 == name) entries).map Prod.snd

def insert (name : String) (value : α) : Dictionary α -> Dictionary α
  | [] => [(name, value)]
  | (other, v) :: rest =>
      if name < other then
        (name, value) :: (other, v) :: rest
      else if name = other then
        (name, value) :: rest
      else
        (other, v) :: insert name value rest

/-- Set entries one after the other; a later one replaces an earlier one of its name. -/
def insertAll (entries : List (String × α)) (base : Dictionary α) : Dictionary α :=
  entries.foldl (fun built entry => insert entry.1 entry.2 built) base

def ofList (entries : List (String × α)) : Dictionary α :=
  insertAll entries []

/-- Names in strictly ascending order. -/
def Sorted (entries : Dictionary α) : Prop :=
  entries.Pairwise fun a b => a.1 < b.1

end Dictionary
end QueryGateway
