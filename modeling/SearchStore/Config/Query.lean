import SearchStore.Json.Decode

/-!
# Configuration of queries

How criteria become clauses of the engine: filters that every query gets, attributes with sub-fields,
types for sorting, settings of phrase searches, and the pattern that tells suggestions from phrases.
-/

namespace SearchStore

/-- The pattern of suggestions: `suggest:`, the path of an attribute, `=` and the text to complete. -/
def suggestionPattern : String := "^suggest:([\\.\\w]+)=(.+)"

/-- The configuration of criteria queries. -/
structure CriteriaConfig where
  /-- Values by attribute that every query is restricted to, in order. -/
  queryFilters : Fields := []
  /-- The attributes that have `.filter` and `.sort` sub-fields. -/
  multiFields : List String := []
  /-- The types by which attributes are sorted where an index does not map them, in key order. -/
  dynamicMappings : List (String × String) := []
  /-- Settings of phrase searches. -/
  searchQuerySettings : Fields := []
  suggestPattern : String := suggestionPattern
deriving DecidableEq, Repr

namespace CriteriaConfig

/-- Whether an attribute has sub-fields. -/
def hasSubfields (c : CriteriaConfig) (path : String) : Bool :=
  c.multiFields.contains path

/-- Values by attribute that every query is restricted to. -/
def queryFiltersField : Json.Field Fields :=
  { name := "query_filters", decode := Json.Decoder.object, fallback := some [] }

/-- The attributes that have sub-fields. -/
def multiFieldsField : Json.Field (List String) :=
  { name := "multi_fields"
    decode := Json.Decoder.list Json.Decoder.string
    fallback := some [] }

/-- Types for sorting; they are kept in key order. -/
def dynamicMappingsField : Json.Field (List (String × String)) :=
  { name := "dynamic_mappings"
    decode := fun value => (Json.Decoder.map Json.Decoder.string value).map Assoc.sorted
    fallback := some [] }

/-- Settings of phrase searches. -/
def searchQuerySettingsField : Json.Field Fields :=
  { name := "search_query_settings", decode := Json.Decoder.object, fallback := some [] }

/-- The pattern of suggestions. -/
def suggestPatternField : Json.Field String :=
  { name := "suggest_pattern"
    decode := Json.Decoder.string
    fallback := some suggestionPattern }

/-- The fields in order. -/
def shape : Json.RecordShape :=
  ⟨"TranslationConfig",
    [queryFiltersField.rule, multiFieldsField.rule, dynamicMappingsField.rule,
      searchQuerySettingsField.rule, suggestPatternField.rule]⟩

/-- Reads a configuration. -/
def decode : Json.Decoder CriteriaConfig := fun value => do
  let entries ← shape.entries value
  .ok
    { queryFilters := ← queryFiltersField.read entries
      multiFields := ← multiFieldsField.read entries
      dynamicMappings := ← dynamicMappingsField.read entries
      searchQuerySettings := ← searchQuerySettingsField.read entries
      suggestPattern := ← suggestPatternField.read entries }

/-- The form that `decode` reads, with all fields. -/
def toJson (c : CriteriaConfig) : Json :=
  .object
    [("query_filters", .object c.queryFilters),
      ("multi_fields", Json.strings c.multiFields),
      ("dynamic_mappings", .object (Assoc.mapValues .string c.dynamicMappings)),
      ("search_query_settings", .object c.searchQuerySettings),
      ("suggest_pattern", .string c.suggestPattern)]

end CriteriaConfig

/-- Where the template of a stored query lies. -/
inductive TemplateSource where
  /-- Registered on the engine under its name. -/
  | id
  /-- A file on the nodes of the engine. -/
  | file
deriving DecidableEq, Repr

/-- The request key that selects a template. -/
def TemplateSource.name : TemplateSource → String
  | .id => "id"
  | .file => "file"

/-- Reads the name of a source. -/
def TemplateSource.decode : Json.Decoder TemplateSource :=
  Json.Decoder.oneOf ([id, file].map fun source => (source.name, source))

/-- The configuration of stored queries. -/
structure TemplateConfig where
  method : TemplateSource := .id
deriving DecidableEq, Repr

namespace TemplateConfig

/-- Where templates lie. -/
def methodField : Json.Field TemplateSource :=
  { name := "method", decode := TemplateSource.decode, fallback := some .id }

/-- The only field. -/
def shape : Json.RecordShape := ⟨"StoredQueryConfig", [methodField.rule]⟩

/-- Reads a configuration. -/
def decode : Json.Decoder TemplateConfig := fun value => do
  let entries ← shape.entries value
  .ok { method := ← methodField.read entries }

/-- The form that `decode` reads. -/
def toJson (c : TemplateConfig) : Json :=
  .object [("method", .string c.method.name)]

end TemplateConfig

end SearchStore
