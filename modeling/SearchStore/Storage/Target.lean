import SearchStore.Argument
import SearchStore.Config.Storage
import SearchStore.Connector
import SearchStore.Json.Merge

/-!
# Targets of storage

The index and the type in which documents are kept, and the parameters that address them.
-/

namespace SearchStore

/-- The index and the type of stored documents. -/
structure Target where
  index : Selection
  docType : Selection
deriving DecidableEq, Repr

namespace Target

/-- The selection of a storage, else that of its connector; one of them must be given. -/
def choose (key : String) (own shared : Option Selection) : Except Error Selection :=
  match own <|> shared with
  | some selection => .ok selection
  | none => .error (.validation (.config key "not configured for storage or connector"))

/-- The target of a storage configuration behind a connector. -/
def resolve (config : StorageConfig) (connector : Connector) : Except Error Target := do
  let index ← choose "index" config.index connector.config.index
  let docType ← choose "type" config.docType connector.config.docType
  .ok { index, docType }

/-- The target of a valid configuration. -/
def ofConfig (config : StorageConfig) (connector : Connector) : Except Error Target := do
  config.validate
  resolve config connector

/-- The parameters that address the target. -/
def params (t : Target) : Fields :=
  [("index", .string t.index.render), ("type", .string t.docType.render)]

/-- The parameters that address a document. -/
def address (t : Target) (identifier : String) : Fields :=
  t.params ++ [("id", .string identifier)]

/-- The target in a message. -/
def render (t : Target) : String := t.index.render ++ "/" ++ t.docType.render

end Target

end SearchStore
