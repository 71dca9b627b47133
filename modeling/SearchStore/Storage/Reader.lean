import SearchStore.Mapping.Basic
import SearchStore.Storage.Target

/-!
# Reading documents

A reader fetches single documents, and reads all documents page by page. It keeps the offset at which the next
page starts; the offset zero says that nothing is left, or that nothing was read yet.
-/

namespace SearchStore

/-- The sum, or the largest word if it does not fit. -/
def saturatingAdd (a b : UInt64) : UInt64 :=
  UInt64.ofNat (min (a.toNat + b.toNat) (UInt64.size - 1))

/-- A reader of items. -/
structure Reader (ι : Type) where
  connector : Connector
  config : StorageConfig
  target : Target
  mapper : Mapper ι
  /-- Where the next page starts. -/
  offset : UInt64 := 0

namespace Reader

variable {ι : Type}

/-- The reader of a valid configuration. -/
def create (connector : Connector) (config : StorageConfig) (mapper : Mapper ι) :
    Except Error (Reader ι) := do
  let target ← Target.ofConfig config connector
  .ok { connector, config, target, mapper }

/-! ### Requests -/

/-- The request for one document. -/
def getRequest (r : Reader ι) (identifier : String) : Json :=
  Json.layers
    [r.config.parameters.layer "get", .object (r.target.address identifier)]

/-- The request for the first page of all documents. -/
def firstRequest (r : Reader ι) (limit : UInt64) : Json :=
  let body : Json := .object [("query", .object [("match_all", .empty)])]
  Json.layers
    [r.config.parameters.layer "search", .object r.target.params,
      .object [("size", .natural limit), ("body", body)]]

/-- The request for the page at the offset. -/
def nextRequest (r : Reader ι) (limit : UInt64) : Json :=
  (r.firstRequest limit).set "from" (.natural r.offset)

/-! ### Operations -/

/-- The document with an identifier, none if it is not there. -/
def read (r : Reader ι) (identifier : String) : Action (Option ι) := do
  checkText "identifier" identifier
  Action.connect
  match ← Action.ask .get (r.getRequest identifier) with
  | .ok answer =>
    if answer.get? "found" = some (.bool false) then return none
    return some (← r.mapper.document answer)
  | .error (.notFound _) =>
    Action.debug ("Document '" ++ identifier ++ "' not found")
    return none
  | .error e => throw (.engine e)

/-- The items of a page and the number of all documents. -/
def fetch (r : Reader ι) (request : Json) : Action (List ι × UInt64) := do
  Action.connect
  let answer ← Action.send .search request
  let items ← r.mapper.answer answer
  return (items, hitCount answer)

/-- The reader behind a page of `limit` documents, of `total` in all. -/
def advance (r : Reader ι) (limit total : UInt64) : Reader ι :=
  let next := saturatingAdd r.offset limit
  { r with offset := if total ≤ next then 0 else next }

/-- Fetches a page and moves behind it; a failure leaves the reader where it is. -/
def turn (r : Reader ι) (limit : UInt64) (request : Json) :
    Access (Except Error (List ι) × Reader ι) := do
  match ← (r.fetch request).run with
  | .ok (items, total) => pure (.ok items, r.advance limit total)
  | .error e => pure (.error e, r)

/-- Reads one page of all documents: the first one, or the one at the offset, which is empty and costs no
request if nothing is left. -/
def readAll (r : Reader ι) (settings : PageSettings) :
    Access (Except Error (List ι) × Reader ι) :=
  let limit := settings.limit.getD r.config.limit
  if settings.first then
    let start := { r with offset := 0 }
    start.turn limit (start.firstRequest limit)
  else if r.offset = 0 then pure (.ok [], r)
  else r.turn limit (r.nextRequest limit)

end Reader

end SearchStore
