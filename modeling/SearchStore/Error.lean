import SearchStore.Json.Printer
import SearchStore.Query.Basic
import SearchStore.Text.List

/-!
# Errors

Errors are grouped by their cause: calls and configurations that are not valid, queries that no request
expresses, targets a request cannot address, documents that cannot be mapped, and what the engine or
the way to it reports. `message` gives the text of each.
-/

namespace SearchStore

/-- A call or a configuration that is not valid. -/
inductive ValidationError where
  | argument (name text : String)
  | config (key text : String)
deriving DecidableEq, Repr

/-- The compilers of queries. -/
inductive Compiler where
  | criteria
  | stored
  | custom
  /-- The one that opens a scroll. -/
  | scroll
deriving DecidableEq, Repr

/-- The name under which a compiler reports errors. -/
def Compiler.name : Compiler → String
  | .criteria => "CriteriaQueryTranslation"
  | .stored => "StoredQueryTranslation"
  | .custom => "CustomQueryTranslation"
  | .scroll => "scroll"

/-- The kinds of queries a compiler takes. -/
def Compiler.accepted : Compiler → List QueryKind
  | .criteria => [.criteria]
  | .stored => [.stored]
  | .custom => [.custom]
  | .scroll => [.criteria, .custom]

/-- Why a comparand does not suit a criterion. -/
inductive GeometryFault where
  /-- A shape in a comparison of an attribute. -/
  | spatialOnly
  /-- Something else than a shape in a spatial comparison. -/
  | noGeometry
deriving DecidableEq, Repr

/-- The text of a fault. -/
def GeometryFault.text : GeometryFault → String
  | .spatialOnly => "geometries require a spatial criteria"
  | .noGeometry => "comparand is not a geometry"

/-- A query that no request expresses. -/
inductive QueryError where
  | unsupportedQuery (compiler : Compiler) (actual : QueryKind)
  /-- A criterion that cannot stand in a filter. -/
  | unsupportedFilter (kind : CriteriaKind)
  /-- A first search criterion that is no phrase. -/
  | unsupportedSearch (kind : CriteriaKind)
  | spatialOperator (path : String) (operator : Comparator)
  | geometry (path : String) (fault : GeometryFault)
deriving DecidableEq, Repr

/-- A document that cannot be mapped. -/
inductive MappingError where
  | missingType (id : String)
  | unknownType (name : String)
  | unsupportedFormat (data : Json)
  | invalidDocument (id text : String)
deriving DecidableEq, Repr

/-- What the engine answered instead of a result, or why there is no answer. -/
inductive EngineError where
  | notFound (resource : String)
  | status (code : UInt16) (body : String)
  | connectionFailed (backend text : String)
  | internal (backend text : String)
  | serialization (text : String)
  /-- An answer whose body is not JSON. -/
  | unreadableBody
deriving DecidableEq, Repr

/-- Any error of the library. -/
inductive Error where
  | validation (error : ValidationError)
  | query (error : QueryError)
  /-- Several indices where a request addresses a single one. -/
  | multipleIndices (text : String)
  | mapping (error : MappingError)
  | engine (error : EngineError)
deriving DecidableEq, Repr

/-! ### Texts -/

/-- The text of a validation error. -/
def ValidationError.message : ValidationError → String
  | .argument name text => "invalid argument '" ++ name ++ "': " ++ text
  | .config key text => "invalid configuration '" ++ key ++ "': " ++ text

/-- The kinds a compiler takes, in words. -/
def Compiler.expectation (compiler : Compiler) : String :=
  Text.join " or " (compiler.accepted.map QueryKind.name)

/-- The text of a query error. -/
def QueryError.message : QueryError → String
  | .unsupportedQuery compiler actual =>
    "unsupported query type '" ++ actual.name ++ "', " ++ compiler.name ++ " expects a " ++
      compiler.expectation ++ " query"
  | .unsupportedFilter kind =>
    "invalid criteria type '" ++ kind.name ++ "' given to filter translation"
  | .unsupportedSearch kind =>
    "only search criteria are supported as search-criteria, got '" ++ kind.name ++ "'"
  | .spatialOperator path operator =>
    "invalid spatial query comparator '" ++ operator.name ++ "' on '" ++ path ++ "'"
  | .geometry path fault => "invalid spatial comparand on '" ++ path ++ "': " ++ fault.text

/-- The text of a mapping error. -/
def MappingError.message : MappingError → String
  | .missingType id =>
    "invalid or corrupt type information within document data for _id: " ++ id
  | .unknownType name => "no type registered for discriminator '" ++ name ++ "'"
  | .unsupportedFormat data => "unsupported result data format: " ++ data.render
  | .invalidDocument id text => "invalid document '" ++ id ++ "': " ++ text

/-- The text of an engine error. -/
def EngineError.message : EngineError → String
  | .notFound resource => "not found: " ++ resource
  | .status code body => "engine returned status " ++ toString code.toNat ++ ": " ++ body
  | .connectionFailed backend text => "connection failed to " ++ backend ++ ": " ++ text
  | .internal backend text => "internal error in " ++ backend ++ ": " ++ text
  | .serialization text => "serialization error: " ++ text
  | .unreadableBody => "serialization error: Failed to parse ES response"

/-- The text of an error. -/
def Error.message : Error → String
  | .validation error => error.message
  | .query error => error.message
  | .multipleIndices text => text
  | .mapping error => error.message
  | .engine error => error.message

/-- Whether the engine reported what a request addresses as missing. -/
def Error.isNotFound : Error → Bool
  | .engine (.notFound _) => true
  | _ => false

end SearchStore
