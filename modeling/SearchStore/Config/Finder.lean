import SearchStore.Config.MethodParameters
import SearchStore.Config.Validation
import SearchStore.Duration.Parser

/-!
# Configuration of finders

What a finder searches, with which parameters, and what it writes to the log.
-/

namespace SearchStore

/-- The configuration of a finder. -/
structure FinderConfig where
  index : Option Selection := none
  docType : Option Selection := none
  parameters : MethodParameters := {}
  logGetQuery : Bool := false
  logMgetQuery : Bool := false
  logSearchQuery : Bool := false
  logResultData : Bool := false
  /-- How long the engine keeps a scroll open, passed on as it is. -/
  scrollTimeout : String := "1m"
deriving DecidableEq, Repr

namespace FinderConfig

/-- A switch that is off unless it is set. -/
def switchField (name : String) : Json.Field Bool :=
  { name, decode := Json.Decoder.bool, fallback := some false }

/-- How long the engine keeps a scroll open. -/
def scrollTimeoutField : Json.Field String :=
  { name := "scroll_timeout", decode := Json.Decoder.string, fallback := some "1m" }

/-- The fields in order. -/
def shape : Json.RecordShape :=
  ⟨"FinderConfig",
    [(Selection.field "index").rule, (Selection.field "type").rule, MethodParameters.field.rule,
      (switchField "log_get_query").rule, (switchField "log_mget_query").rule,
      (switchField "log_search_query").rule, (switchField "log_result_data").rule,
      scrollTimeoutField.rule]⟩

/-- Reads a configuration. -/
def decode : Json.Decoder FinderConfig := fun value => do
  let entries ← shape.entries value
  .ok
    { index := ← (Selection.field "index").read entries
      docType := ← (Selection.field "type").read entries
      parameters := ← MethodParameters.field.read entries
      logGetQuery := ← (switchField "log_get_query").read entries
      logMgetQuery := ← (switchField "log_mget_query").read entries
      logSearchQuery := ← (switchField "log_search_query").read entries
      logResultData := ← (switchField "log_result_data").read entries
      scrollTimeout := ← scrollTimeoutField.read entries }

/-- The form that `decode` reads, with all fields. -/
def toJson (c : FinderConfig) : Json :=
  .object
    [("index", Json.ofOption Selection.toJson c.index),
      ("type", Json.ofOption Selection.toJson c.docType),
      ("parameters", c.parameters.toJson),
      ("log_get_query", .bool c.logGetQuery),
      ("log_mget_query", .bool c.logMgetQuery),
      ("log_search_query", .bool c.logSearchQuery),
      ("log_result_data", .bool c.logResultData),
      ("scroll_timeout", .string c.scrollTimeout)]

/-- Checks that the scroll timeout is a duration and that selections name something. -/
def validate (c : FinderConfig) : Except Error Unit := do
  match Duration.parse c.scrollTimeout with
  | .error fault => .error (.validation (.config "scroll_timeout" fault.message))
  | .ok _ =>
    checkSelection "index" c.index
    checkSelection "type" c.docType

end FinderConfig

end SearchStore
