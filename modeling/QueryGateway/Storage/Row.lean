import QueryGateway.Catalog.SavedQuery
import QueryGateway.Failure

/-!
# Rows of systems and saved queries

The columns of a row hold JSON documents, texts, numbers and so on, or nothing.
A row is decoded column by column: nothing in a column that must hold something
is a failure of the store, and a document that is not of the wanted form is a
fault of the configuration.
-/

namespace QueryGateway
namespace Storage

open Catalog

/-- A column is missing when it holds nothing; a document that is null is something. -/
abbrev Row := Dictionary Json

def databaseError (message : String) : String :=
  "error returned from database: " ++ message

namespace Row

def unexpectedNull (column : String) : Failure :=
  .store ("error occurred while decoding column " ++ Text.quoted column ++
    ": unexpected null; try decoding as an `Option`")

def required (row : Row) (column : String) : Except Failure Json :=
  match Dictionary.find? row column with
  | some value => .ok value
  | none => .error (unexpectedNull column)

def mistyped (column : String) : Failure :=
  .store ("error occurred while decoding column " ++ Text.quoted column ++ ": mismatched types")

def plain {α : Type} (reader : Schema.Reader α) (row : Row) (column : String) :
    Except Failure α := do
  let value ← row.required column
  (reader.ofJson value).mapError fun _ => mistyped column

def plainOption {α : Type} (reader : Schema.Reader α) (row : Row) (column : String) :
    Except Failure (Option α) :=
  match Dictionary.find? row column with
  | none => .ok none
  | some _ => (plain reader row column).map some

def texts (row : Row) (column : String) : Except Failure (List String) := do
  match ← row.required column with
  | .array items =>
      if items.any Json.isNull then throw (unexpectedNull column)
      else row.plain (Schema.readList Schema.readText) column
  | _ => throw (mistyped column)

def misconfigured (column : String) (fault : Schema.Fault) : Failure :=
  .configuration ("invalid " ++ column ++ " configuration: " ++ fault.message [])

def document {α : Type} (reader : Schema.Reader α) (row : Row) (column : String) :
    Except Failure α := do
  let value ← row.required column
  (reader.ofJson value).mapError (misconfigured column)

def documentOption {α : Type} (reader : Schema.Reader α) (row : Row) (column : String) :
    Except Failure (Option α) :=
  match Dictionary.find? row column with
  | none => .ok none
  | some value => ((reader.ofJson value).mapError (misconfigured column)).map some

def integer (row : Row) (column : String) : Except Failure Int := do
  match ← row.required column with
  | .number (.integer n) => pure n
  | _ => throw (mistyped column)

/-- A count in a column of signed numbers; a negative one counts as zero. -/
def count (row : Row) (column : String) : Except Failure Nat :=
  (row.integer column).map Int.toNat

def countOption (row : Row) (column : String) : Except Failure (Option Nat) :=
  match Dictionary.find? row column with
  | none => .ok none
  | some _ => (row.count column).map some

def decodeSystem (row : Row) : Except Failure Backend := do
  let id ← row.plain Schema.readUuid "id"
  let name ← row.plain Schema.readText "name"
  let baseUrl ← row.plain Schema.readText "base_url"
  let isActive ← row.plain Schema.readBool "is_active"
  let auth ← row.document Credentials.reader "auth"
  let headers ← row.document (Schema.readDictionary Schema.readText) "headers"
  let methods ← row.document (Schema.readList Method.reader) "methods"
  let transforms ← row.document (Schema.readDictionary Rows.Transform.reader) "transforms"
  let healthCheck ← row.documentOption HealthCheck.reader "health_check"
  let timeoutMs ← row.countOption "timeout_ms"
  let retries ← row.count "retries"
  pure
    { id, name, baseUrl, isActive, auth, headers, methods, transforms, healthCheck
      timeoutMs := timeoutMs.map UInt64.ofNat
      retries := .ofNat retries }

def decodeQuery (row : Row) : Except Failure SavedQuery := do
  let visibility ← row.plain Schema.readText "visibility"
  let id ← row.plain Schema.readUuid "id"
  let ownerId ← row.plain Schema.readUuid "owner_id"
  let systemId ← row.plain Schema.readUuid "system_id"
  let method ← row.plainOption Schema.readText "method"
  let queryText ← row.plain Schema.readText "query_text"
  let parameters ← row.document Schema.readMembers "parameters"
  let transformations ← row.texts "transformations"
  let refreshIntervalSecs ← row.count "refresh_interval_secs"
  let cacheEnabled ← row.plain Schema.readBool "cache_enabled"
  let tags ← row.texts "tags"
  let isActive ← row.plain Schema.readBool "is_active"
  pure
    { id, ownerId, systemId, method, queryText, parameters, transformations, cacheEnabled, tags,
      isActive
      refreshIntervalSecs := .ofNat refreshIntervalSecs
      visibility := if visibility = "public" then .everyone else .ownerOnly }

end Row
end Storage
end QueryGateway
