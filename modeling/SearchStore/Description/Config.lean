import SearchStore.Config.Connector
import SearchStore.Config.Finder
import SearchStore.Description.Basic

/-!
# Descriptions of values and configurations

Credentials are described without passwords and tokens.
-/

namespace SearchStore

mutual
/-- The description of a JSON value. -/
def Json.description : Json → Description
  | .null => .word "Null"
  | .bool b => .applied "Bool" (.bool b)
  | .number n => .applied "Number" (.word n.render)
  | .string s => .applied "String" (.quoted s)
  | .array items => .labelled "Array" (.list (itemDescriptions items))
  | .object fields => .labelled "Object" (.map (fieldDescriptions fields))

/-- The descriptions of items. -/
def Json.itemDescriptions : List Json → List Description
  | [] => []
  | item :: rest => item.description :: itemDescriptions rest

/-- The descriptions of entries. -/
def Json.fieldDescriptions : List (String × Json) → List (String × Description)
  | [] => []
  | (key, value) :: rest => (key, value.description) :: fieldDescriptions rest
end

/-- The description of a duration. -/
def Duration.description (d : Duration) : Description := .word d.briefText

/-- The description of a selection. -/
def Selection.description (s : Selection) : Description :=
  .applied "IndexSelection" (.texts s.names)

/-- The description of parameters by method. -/
def MethodParameters.description (p : MethodParameters) : Description :=
  .applied "MethodParameters"
    (.map (Assoc.mapValues (fun fields => .map (Json.fieldDescriptions fields)) p.methods))

/-- The description of credentials, without what is secret. -/
def Auth.description : Auth → Description
  | .basic username _ => .record "Basic" [("username", .quoted username)] true
  | .bearer _ => .record "Bearer" [] true

/-- The description of a state. -/
def ConnectorState.description : ConnectorState → Description
  | .working => .word "Working"
  | .failing => .word "Failing"
  | .unknown => .word "Unknown"

/-- The description of a connector's configuration. -/
def ConnectorConfig.description (c : ConnectorConfig) : Description :=
  .record "ConnectorConfig"
    [("nodes", .texts c.nodes),
      ("request_timeout", c.requestTimeout.description),
      ("auth", .option Auth.description c.auth),
      ("disable_certificate_validation", .bool c.disableCertificateValidation),
      ("index", .option Selection.description c.index),
      ("doc_type", .option Selection.description c.docType),
      ("fake_status", .option ConnectorState.description c.fakeStatus)]
    false

/-- The description of a finder's configuration. -/
def FinderConfig.description (c : FinderConfig) : Description :=
  .record "FinderConfig"
    [("index", .option Selection.description c.index),
      ("doc_type", .option Selection.description c.docType),
      ("parameters", c.parameters.description),
      ("log_get_query", .bool c.logGetQuery),
      ("log_mget_query", .bool c.logMgetQuery),
      ("log_search_query", .bool c.logSearchQuery),
      ("log_result_data", .bool c.logResultData),
      ("scroll_timeout", .quoted c.scrollTimeout)]
    false

end SearchStore
