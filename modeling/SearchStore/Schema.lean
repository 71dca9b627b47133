import SearchStore.Argument
import SearchStore.Engine.Access
import SearchStore.Json.Decode
import SearchStore.Text.List
import SearchStore.Time.Moment

/-!
# Index schemas

An index is created under a name that ends in the time of its creation, and is reached by an alias with its
logical name, so that a later index can take the alias over. Creation looks whether the logical name is taken
first; another client may still be faster, and then only the mappings are updated.
-/

namespace SearchStore

/-- The definition of an index. -/
structure IndexSchema where
  /-- The logical name. -/
  index : String
  /-- Settings and other parts of the body of creation. -/
  settings : Option Json := none
  /-- The mappings by type, in the order of types. -/
  mappings : Fields := []
deriving DecidableEq, Repr

namespace IndexSchema

/-- The schema with other settings. -/
def setSettings (s : IndexSchema) (settings : Json) : IndexSchema :=
  { s with settings := some settings }

/-- The schema with the mapping of a type. -/
def addMapping (s : IndexSchema) (type : String) (mapping : Json) : IndexSchema :=
  { s with mappings := Assoc.insertSorted type mapping s.mappings }

/-! ### Encoding -/

/-- The logical name. -/
def indexField : Json.Field String :=
  { name := "index", decode := Json.Decoder.string, fallback := none }

/-- The settings. -/
def settingsField : Json.Field (Option Json) :=
  { name := "settings"
    decode := Json.Decoder.optional Json.Decoder.value
    fallback := some none }

/-- The mappings by type. -/
def mappingsField : Json.Field Fields :=
  { name := "mappings", decode := Json.Decoder.object, fallback := some [] }

/-- The fields in order. -/
def shape : Json.RecordShape :=
  ⟨"IndexSchema", [indexField.rule, settingsField.rule, mappingsField.rule]⟩

/-- Reads a schema. -/
def decode : Json.Decoder IndexSchema := fun value => do
  let entries ← shape.entries value
  .ok
    { index := ← indexField.read entries
      settings := ← settingsField.read entries
      mappings := Assoc.sorted (← mappingsField.read entries) }

/-- The form that `decode` reads. -/
def toJson (s : IndexSchema) : Json :=
  .object
    [("index", .string s.index), ("settings", s.settings.getD .null),
      ("mappings", .object s.mappings)]

/-! ### Creation -/

/-- The object at a key with entries written into it; a value of another kind stays as it is. -/
def extend (key : String) (entries body : Fields) : Fields :=
  Assoc.alter key (.object entries)
    (fun value =>
      match value with
      | .object fields => .object (Assoc.insertAll fields entries)
      | other => other)
    body

/-- The body of creation: the settings with the alias, and with the mappings if they are wanted. -/
def creationBody (s : IndexSchema) (includeMappings : Bool) : Json :=
  let settings := (s.settings.bind Json.asObject?).getD []
  let aliased := extend "aliases" [(s.index, .empty)] settings
  .object
    (if includeMappings && !s.mappings.isEmpty then extend "mappings" s.mappings aliased
    else aliased)

/-- Checks that the logical name can be seen. -/
def validate (s : IndexSchema) : Except Error Unit := checkText "index" s.index

end IndexSchema

/-- The name of an index with the time of its creation, given in digits. -/
def stampedIndexName (index stamp : String) : String := index ++ "_" ++ stamp

/-- The name of an index that is created at a moment. -/
def versionedIndexName (index : String) (moment : Moment) : String :=
  stampedIndexName index moment.stampText

namespace IndexSchema

/-- Creates the index under the time `stamp` and says its name. -/
def create (s : IndexSchema) (includeMappings : Bool) (stamp : String) : Action String := do
  s.validate
  let name := stampedIndexName s.index stamp
  let _ ← Action.send .createIndex
    (.object [("index", .string name), ("body", s.creationBody includeMappings)])
  Action.info
    ("Created Elasticsearch index '" ++ name ++ "' aliased as '" ++ s.index ++ "'")
  return name

/-- Puts the mapping of every type. -/
def updateMappings (s : IndexSchema) : Action Unit :=
  s.mappings.forM fun (type, mapping) => do
    let _ ← Action.send .putMapping
      (.object
        [("index", .string s.index), ("type", .string type),
          ("body", .object [(type, mapping)])])
    Action.debug ("Updated mapping of '" ++ s.index ++ "/" ++ type ++ "'")

end IndexSchema

/-! ### Indices and aliases -/

/-- Whether an index of a name is there. -/
def indexExists (index : String) : Action Bool := do
  return (← Action.send .indexExists (.object [("index", .string index)])) = .bool true

/-- The indices behind an alias, by their names. -/
def aliasMapping (name : String) : Action Fields := do
  match ← Action.ask .getAlias (.object [("name", .string name)]) with
  | .ok answer => return answer.asObject?.getD []
  | .error (.notFound _) => return []
  | .error e => throw (.engine e)

/-- Whether a name is taken by an index, or else by an alias. -/
def isTaken (name : String) : Action Bool := do
  if ← indexExists name then return true
  return !(← aliasMapping name).isEmpty

/-- Deletes an index if it is there. -/
def deleteIndex (index : String) : Action Unit := do
  if ← indexExists index then
    let _ ← Action.send .deleteIndex (.object [("index", .string index)])
    Action.info ("Deleted Elasticsearch index '" ++ index ++ "'")
  else
    Action.debug ("Index '" ++ index ++ "' does not exist, nothing to delete")

/-- The part of a definition in an answer by index names; the first index is the one. -/
def definitionPart (key : String) (answer : Json) : Json :=
  let definition := (answer.asObject?.bind List.head?).map fun entry => entry.2
  (definition.bind (Json.get? key)).getD .empty

/-- The settings and mappings of an index, keyed as in the body of creation. -/
def indexDefinition (index : String) : Action Json := do
  let params : Json := .object [("index", .string index)]
  let settings ← Action.send .getSettings params
  let mappings ← Action.send .getMapping params
  return .object
    [("settings", definitionPart "settings" settings),
      ("mappings", definitionPart "mappings" mappings)]

/-- Moves an alias between indices in one request. -/
def switchAlias (name old new : String) : Action Unit := do
  let move (action index : String) : Json :=
    .object [(action, .object [("alias", .string name), ("index", .string index)])]
  let actions : Json := .array [move "remove" old, move "add" new]
  let _ ← Action.send .updateAliases (.object [("body", .object [("actions", actions)])])
  Action.info
    ("Switched alias '" ++ name ++ "' from '" ++ old ++ "' to '" ++ new ++ "'")

/-- Puts index templates in the order of their names. -/
def putIndexTemplates (templates : Fields) : Action Unit :=
  (Assoc.sorted templates).forM fun (name, template) => do
    let _ ← Action.send .putTemplate
      (.object [("name", .string name), ("body", template)])
    Action.info ("Put Elasticsearch index template '" ++ name ++ "'")

namespace IndexSchema

/-- Whether an error says that the index is there already. -/
def isAlreadyThere : Error → Bool
  | .engine (.status 400 body) => Text.contains body "resource_already_exists_exception"
  | _ => false

/-- Creates the index, or updates the mappings if another client was faster. -/
def createOrUpdate (s : IndexSchema) (includeMappings : Bool) (stamp : String) : Action Unit := do
  try
    let _ ← s.create includeMappings stamp
  catch e =>
    if isAlreadyThere e then
      Action.debug ("Index '" ++ s.index ++ "' was created concurrently")
      s.updateMappings
    else throw e

/-- Creates the index if its name is free, else updates the mappings. -/
def ensure (s : IndexSchema) (includeMappings : Bool) (stamp : String) : Action Unit := do
  s.validate
  if ← isTaken s.index then s.updateMappings else s.createOrUpdate includeMappings stamp

end IndexSchema

end SearchStore
