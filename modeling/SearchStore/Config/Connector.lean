import SearchStore.Config.Validation
import SearchStore.Duration.Parser

/-!
# Configuration of connectors

Where the engine is, how long to wait for it, how to sign in, and which index and type to use when
finders and storage name none.
-/

namespace SearchStore

/-- How requests are signed. -/
inductive Auth where
  | basic (username password : String)
  | bearer (token : String)
deriving DecidableEq, Repr

namespace Auth

/-- The field for a required string. -/
def textField (name : String) : Json.Field String :=
  { name, decode := Json.Decoder.string, fallback := none }

/-- The fields of signing in by name and password. -/
def basicShape : Json.RecordShape :=
  ⟨"variant ElasticsearchAuth::Basic", [(textField "username").rule, (textField "password").rule]⟩

/-- The field of signing in by token. -/
def bearerShape : Json.RecordShape :=
  ⟨"variant ElasticsearchAuth::Bearer", [(textField "token").rule]⟩

/-- What belongs to the name of a way of signing in. -/
def credentials : Option Json → Except Json.DecodeError Json
  | some (.object fields) => .ok (.object fields)
  | some found => .error (.invalidType found "struct variant")
  | none => .error (.fault "invalid type: unit variant, expected struct variant")

/-- Reads an object whose only key names the way of signing in. -/
def decode : Json.Decoder Auth := fun found => do
  let (kind, content) ← Json.Decoder.tagged found
  if kind = "basic" then do
    let entries ← basicShape.entries (← credentials content)
    .ok (.basic (← (textField "username").read entries) (← (textField "password").read entries))
  else if kind = "bearer" then do
    let entries ← bearerShape.entries (← credentials content)
    .ok (.bearer (← (textField "token").read entries))
  else .error (.unknownVariant kind ["basic", "bearer"])

/-- The form that `decode` reads. -/
def toJson : Auth → Json
  | .basic username password =>
    .object [("basic", .object [("username", .string username), ("password", .string password)])]
  | .bearer token => .object [("bearer", .object [("token", .string token)])]

end Auth

/-- The health of a connector. -/
inductive ConnectorState where
  | working
  | failing
  | unknown
deriving DecidableEq, Repr

namespace ConnectorState

/-- The name of a state. -/
def name : ConnectorState → String
  | .working => "working"
  | .failing => "failing"
  | .unknown => "unknown"

/-- Reads the name of a state. -/
def decode : Json.Decoder ConnectorState :=
  Json.Decoder.oneOf ([working, failing, unknown].map fun state => (state.name, state))

end ConnectorState

/-- The configuration of a connector. -/
structure ConnectorConfig where
  nodes : List String := ["http://localhost:9200"]
  requestTimeout : Duration := ⟨30, 0⟩
  auth : Option Auth := none
  disableCertificateValidation : Bool := false
  index : Option Selection := none
  docType : Option Selection := none
  /-- Reported in place of asking the engine. -/
  fakeStatus : Option ConnectorState := none
deriving DecidableEq, Repr

/-- Reads the text of a duration. -/
def Duration.decode : Json.Decoder Duration := fun value => do
  match Duration.parse (← Json.Decoder.string value) with
  | .ok d => .ok d
  | .error fault => .error (.fault fault.message)

namespace ConnectorConfig

/-- The URLs of the nodes. -/
def nodesField : Json.Field (List String) :=
  { name := "nodes"
    decode := Json.Decoder.list Json.Decoder.string
    fallback := some ["http://localhost:9200"] }

/-- How long to wait for an answer. -/
def timeoutField : Json.Field Duration :=
  { name := "request_timeout", decode := Duration.decode, fallback := some ⟨30, 0⟩ }

/-- How to sign in. -/
def authField : Json.Field (Option Auth) :=
  { name := "auth", decode := Json.Decoder.optional Auth.decode, fallback := some none }

/-- Whether certificates are trusted without a check. -/
def certificateField : Json.Field Bool :=
  { name := "disable_certificate_validation"
    decode := Json.Decoder.bool
    fallback := some false }

/-- The state to report. -/
def fakeStatusField : Json.Field (Option ConnectorState) :=
  { name := "fake_status"
    decode := Json.Decoder.optional ConnectorState.decode
    fallback := some none }

/-- The fields in order. -/
def shape : Json.RecordShape :=
  ⟨"ConnectorConfig",
    [nodesField.rule, timeoutField.rule, authField.rule, certificateField.rule,
      (Selection.field "index").rule, (Selection.field "type").rule, fakeStatusField.rule]⟩

/-- Reads a configuration. -/
def decode : Json.Decoder ConnectorConfig := fun value => do
  let entries ← shape.entries value
  .ok
    { nodes := ← nodesField.read entries
      requestTimeout := ← timeoutField.read entries
      auth := ← authField.read entries
      disableCertificateValidation := ← certificateField.read entries
      index := ← (Selection.field "index").read entries
      docType := ← (Selection.field "type").read entries
      fakeStatus := ← fakeStatusField.read entries }

/-- The form that `decode` reads, with all fields. -/
def toJson (c : ConnectorConfig) : Json :=
  .object
    [("nodes", Json.strings c.nodes),
      ("request_timeout", .string c.requestTimeout.render),
      ("auth", Json.ofOption Auth.toJson c.auth),
      ("disable_certificate_validation", .bool c.disableCertificateValidation),
      ("index", Json.ofOption Selection.toJson c.index),
      ("type", Json.ofOption Selection.toJson c.docType),
      ("fake_status", Json.ofOption (fun state => .string state.name) c.fakeStatus)]

end ConnectorConfig

end SearchStore
