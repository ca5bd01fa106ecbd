import QueryGateway.Schema.Choice

/-!
# Query methods

A method is a named way of talking to one external system: a protocol, the
endpoint it goes to, and how query text, parameters and result are laid out.
-/

namespace QueryGateway
namespace Catalog

open Schema

inductive Protocol where
  | httpGet
  | httpPost
  | graphql
  | rest
  | sql
  | custom
deriving DecidableEq, Repr

namespace Protocol

def name : Protocol -> String
  | .httpGet => "http_get"
  | .httpPost => "http_post"
  | .graphql => "graphql"
  | .rest => "rest"
  | .sql => "sql"
  | .custom => "custom"

def all : List Protocol :=
  [.httpGet, .httpPost, .graphql, .rest, .sql, .custom]

def choice : Choice Protocol :=
  ⟨all.map fun protocol => (protocol.name, protocol), none⟩

def reader : Reader Protocol :=
  choice.reader

def toJson (protocol : Protocol) : Json :=
  .text protocol.name

end Protocol

/--
`queryParam` and `queryField` name the place of the query text in a query
string or body, `paramsField` that of the parameters in a body; `resultPath`
leads to the payload inside a response.
-/
structure Method where
  name : String
  protocol : Protocol
  endpoint : String
  queryParam : Option String
  queryField : Option String
  paramsField : Option String
  resultPath : Option String
  defaultPayload : Option Members
  customEndpoint : Option String
  timeoutMs : Option UInt64

namespace Method

def plain (name : String) (protocol : Protocol) (endpoint : String) : Method :=
  ⟨name, protocol, endpoint, none, none, none, none, none, none, none⟩

def record :
    Record (String × Protocol × String × Option String × Option String × Option String ×
      Option String × Option Members × Option String × Option UInt64 × Unit) :=
  .cons (.required "name" readText)
    (.cons ((Field.required "protocol" Protocol.reader).orNamed "type")
      (.cons (.withDefault "endpoint" readText "")
        (.cons (.optional "query_param" readText)
          (.cons (.optional "query_field" readText)
            (.cons (.optional "params_field" readText)
              (.cons (.optional "result_path" readText)
                (.cons (.optional "default_payload" readMembers)
                  (.cons (.optional "custom_endpoint" readText)
                    (.cons (.optional "timeout_ms" readUInt64) .nil)))))))))

def reader : Reader Method := fun origin doc =>
  (record.reader "struct QueryMethod" origin doc).map
    fun (name, protocol, endpoint, queryParam, queryField, paramsField, resultPath,
        defaultPayload, customEndpoint, timeoutMs, _) =>
      ⟨name, protocol, endpoint, queryParam, queryField, paramsField, resultPath,
        defaultPayload, customEndpoint, timeoutMs⟩

def toJson (m : Method) : Json :=
  .ofMembers
    [("name", .text m.name), ("protocol", m.protocol.toJson), ("endpoint", .text m.endpoint),
     ("query_param", .ofOption (m.queryParam.map .text)),
     ("query_field", .ofOption (m.queryField.map .text)),
     ("params_field", .ofOption (m.paramsField.map .text)),
     ("result_path", .ofOption (m.resultPath.map .text)),
     ("default_payload", .ofOption (m.defaultPayload.map .object)),
     ("custom_endpoint", .ofOption (m.customEndpoint.map .text)),
     ("timeout_ms", .ofOption (m.timeoutMs.map fun n => .ofNat n.toNat))]

end Method
end Catalog
end QueryGateway
