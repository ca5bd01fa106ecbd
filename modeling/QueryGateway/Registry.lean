import QueryGateway.Table
import QueryGateway.Remote.Headers

/-!
# The registry of systems

A system's definition is loaded when it is first asked for, and remembered with
the headers built from it until it is cleared.  What is inactive, or lacks a
credential, is not remembered.
-/

namespace QueryGateway

open Catalog

/-- A loaded system with the headers that every request to it carries. -/
structure Resolved where
  system : Backend
  headers : Remote.Headers

abbrev Registry := Table Uuid Resolved

namespace Registry

/-- What a store tells about a system: nothing when it has none of that id. -/
abbrev Loaded := Except Failure (Option Backend)

def vet (id : Uuid) (loaded : Loaded) : Except Failure Resolved := do
  match ← loaded with
  | none => throw (.notFound ("system " ++ id.render))
  | some system =>
      if system.isActive then
        let headers ← Remote.headersOf system
        pure ⟨system, headers⟩
      else
        throw (.systemInactive id)

def resolve (load : Uuid -> Loaded) (id : Uuid) (registry : Registry) :
    Except Failure Resolved × Registry :=
  match registry.get? id with
  | some resolved => (.ok resolved, registry)
  | none =>
      match vet id (load id) with
      | .ok resolved => (.ok resolved, registry.set id resolved)
      | .error failure => (.error failure, registry)

def clear (id : Option Uuid) (registry : Registry) : Registry :=
  match id with
  | some id => registry.erase id
  | none => ∅

end Registry
end QueryGateway
