import SearchStore.Mapping.Registry
import SearchStore.Storage.Writer
import SearchStore.Time.Reading

/-!
# Structure versions

The structure of an index or a type changes by migrations. A list of versions holds those that were applied
to one target, oldest first, and is stored as a document of its own, without a type name.
-/

namespace SearchStore

/-- One applied migration. -/
structure StructureVersion where
  /-- The index or type it was applied to. -/
  targetName : String
  version : String
  /-- When it was applied. -/
  createdDate : Moment
deriving DecidableEq

/-- Reads date and time in the relaxed form of RFC 3339. -/
def Moment.decode : Json.Decoder Moment
  | .string text =>
    match Time.relaxed text with
    | .ok moment => .ok moment
    | .error fault => .error (.fault fault.message)
  | found =>
    .error (.invalidType found "an RFC 3339 formatted date and time string")

namespace StructureVersion

/-- A text of a version. -/
def textField (name : String) : Json.Field String :=
  { name, decode := Json.Decoder.string, fallback := none }

/-- When it was applied. -/
def dateField : Json.Field Moment :=
  { name := "created_date", decode := Moment.decode, fallback := none }

/-- The fields in order. -/
def shape : Json.RecordShape :=
  ⟨"StructureVersion",
    [(textField "target_name").rule, (textField "version").rule, dateField.rule]⟩

/-- Reads a version. -/
def decode : Json.Decoder StructureVersion := fun value => do
  let entries ← shape.entries value
  .ok
    { targetName := ← (textField "target_name").read entries
      version := ← (textField "version").read entries
      createdDate := ← dateField.read entries }

/-- The form that `decode` reads. -/
def toJson (v : StructureVersion) : Json :=
  .object
    [("target_name", .string v.targetName), ("version", .string v.version),
      ("created_date", .string v.createdDate.zuluText)]

end StructureVersion

/-- The migrations of one target, oldest first. -/
structure VersionList where
  identifier : String
  versions : List StructureVersion := []
deriving DecidableEq

namespace VersionList

/-- The list with one more migration. -/
def push (list : VersionList) (version : StructureVersion) : VersionList :=
  { list with versions := list.versions ++ [version] }

/-- The migration that was applied last. -/
def last? (list : VersionList) : Option StructureVersion := list.versions.getLast?

/-- Whether nothing was applied. -/
def isEmpty (list : VersionList) : Bool := list.versions.isEmpty

/-- The migrations of a list. -/
def versionsField : Json.Field (List StructureVersion) :=
  { name := "versions"
    decode := Json.Decoder.list StructureVersion.decode
    fallback := some [] }

/-- The fields in order. -/
def shape : Json.RecordShape :=
  ⟨"StructureVersionList",
    [(StructureVersion.textField "identifier").rule, versionsField.rule]⟩

/-- Reads a list. -/
def decode : Json.Decoder VersionList := fun value => do
  let entries ← shape.entries value
  .ok
    { identifier := ← (StructureVersion.textField "identifier").read entries
      versions := ← versionsField.read entries }

/-- The form that `decode` reads, which is the body of the stored document. -/
def toJson (list : VersionList) : Json :=
  .object
    [("identifier", .string list.identifier),
      ("versions", .array (list.versions.map StructureVersion.toJson))]

/-- The document under which the list is stored. -/
def document (list : VersionList) : Document :=
  { identifier := list.identifier, body := .ok list.toJson }

/-- Reads lists back from stored documents. -/
def mapper : Mapper VersionList where
  document document :=
    (decode ((document.get? "_source").getD .null)).mapError fun fault =>
      .mapping (.invalidDocument (identifierOf document) fault.message)

end VersionList

end SearchStore
