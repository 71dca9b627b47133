import SearchStore.Config.Finder

/-!
# Configuration of storage

Where writers and readers store documents, with which parameters, and the size of the pages in which all
documents are read.
-/

namespace SearchStore

/-- The size of a page unless another one is configured. -/
def defaultPageSize : UInt64 := 10

/-- The configuration of a writer or reader. -/
structure StorageConfig where
  index : Option Selection := none
  docType : Option Selection := none
  parameters : MethodParameters := {}
  limit : UInt64 := defaultPageSize
deriving DecidableEq, Repr

namespace StorageConfig

/-- The size of a page. -/
def limitField : Json.Field UInt64 :=
  { name := "limit", decode := Json.Decoder.natural, fallback := some defaultPageSize }

/-- The fields in order. -/
def shape : Json.RecordShape :=
  ⟨"StorageConfig",
    [(Selection.field "index").rule, (Selection.field "type").rule, MethodParameters.field.rule,
      limitField.rule]⟩

/-- Reads a configuration. -/
def decode : Json.Decoder StorageConfig := fun value => do
  let entries ← shape.entries value
  .ok
    { index := ← (Selection.field "index").read entries
      docType := ← (Selection.field "type").read entries
      parameters := ← MethodParameters.field.read entries
      limit := ← limitField.read entries }

/-- The form that `decode` reads, with all fields. -/
def toJson (c : StorageConfig) : Json :=
  .object
    [("index", Json.ofOption Selection.toJson c.index),
      ("type", Json.ofOption Selection.toJson c.docType),
      ("parameters", c.parameters.toJson),
      ("limit", .natural c.limit)]

/-- Checks that pages are not empty and that selections name something. -/
def validate (c : StorageConfig) : Except Error Unit := do
  if c.limit = 0 then .error (.validation (.config "limit" "must be greater than zero"))
  else
    checkSelection "index" c.index
    checkSelection "type" c.docType

end StorageConfig

/-- The settings of one call that reads all documents. -/
structure PageSettings where
  /-- The size of the page, instead of the configured one. -/
  limit : Option UInt64 := none
  /-- Whether the call starts over, or goes on where the last one stopped. -/
  first : Bool := true
deriving DecidableEq, Repr

end SearchStore
