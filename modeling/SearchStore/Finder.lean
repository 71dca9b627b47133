import SearchStore.Argument
import SearchStore.Config.Finder
import SearchStore.Connector
import SearchStore.Json.Merge
import SearchStore.Mapping.Basic
import SearchStore.Page

/-!
# Finders

A finder fetches and searches documents of its indices and types and maps them to items. A request is made of
layers: the configured parameters of the method, the query of the caller, and the target of the finder on top.
A document that is not there is no error: it is fetched as an empty page, and a scroll that is already released
ends well.
-/

namespace SearchStore

/-- A finder of items. -/
structure Finder (ι : Type) where
  connector : Connector
  config : FinderConfig
  mapper : Mapper ι

namespace Finder

variable {ι : Type}

/-- The finder of a valid configuration. -/
def create (connector : Connector) (config : FinderConfig) (mapper : Mapper ι) :
    Except Error (Finder ι) := do
  config.validate
  .ok { connector, config, mapper }

/-! ### Targets -/

/-- The first selection that is given, if it names something, else everything. -/
def resolve (own shared : Option Selection) : Selection :=
  ((own <|> shared).filter fun selection => !selection.isEmpty).getD Selection.all

/-- The indices of the finder: its own, else those of the connector, else all. -/
def index (f : Finder ι) : Selection :=
  resolve f.config.index f.connector.config.index

/-- The types of the finder: its own, else those of the connector, else all. -/
def docType (f : Finder ι) : Selection :=
  resolve f.config.docType f.connector.config.docType

/-- The parameters that address the target. -/
def target (f : Finder ι) : Fields :=
  [("index", f.index.toJson), ("type", f.docType.toJson)]

/-- Refuses targets that requests for single documents cannot address. -/
def checkSingleIndex (index docType : Selection) : Except Error Unit :=
  if 1 < index.size then
    .error (.multipleIndices ("Elasticsearch single index API does not support multiple indices, \"" ++
      index.render ++ "\" given."))
  else if 1 < docType.size && !index.isAll then
    .error (.multipleIndices ("Elasticsearch multiple type single index API only supports index \"" ++
      allName ++ "\", \"" ++ index.render ++ "\" given."))
  else .ok ()

/-! ### Requests -/

/-- The request for one document. -/
def getRequest (f : Finder ι) (identifier : String) : Json :=
  Json.layers
    [f.config.parameters.layer "get", .object (f.target ++ [("id", .string identifier)])]

/-- The size that requests for a list of documents name; the list itself bounds the answer. -/
def mgetSize : UInt64 := 100000

/-- The request for a list of documents. -/
def mgetRequest (f : Finder ι) (identifiers : List String) : Json :=
  let body : Json :=
    .object [("ids", Json.strings identifiers), ("size", .natural mgetSize)]
  Json.layers [f.config.parameters.layer "mget", .object (f.target ++ [("body", body)])]

/-- The request for a search. -/
def searchRequest (f : Finder ι) (query : Json) : Json :=
  Json.layers [f.config.parameters.layer "search", query, .object f.target]

/-- How long the engine keeps a scroll open, as a parameter. -/
def scrollEntry (f : Finder ι) : String × Json := ("scroll", .string f.config.scrollTimeout)

/-- The order of scrolls: that of the index, which is the cheapest. -/
def scrollSort : Json := Json.strings ["_doc"]

/-- The request that opens a scroll. -/
def scrollStartRequest (f : Finder ι) (query : Json) : Json :=
  Json.layers
    [f.config.parameters.layer "search", query,
      .object (f.target ++ [f.scrollEntry, ("sort", scrollSort)])]

/-- The request for the next page of a scroll. -/
def scrollNextRequest (f : Finder ι) (cursor : String) : Json :=
  .object [("scroll_id", .string cursor), f.scrollEntry]

/-- The request that releases a scroll. -/
def scrollEndRequest (cursor : String) : Json := .object [("scroll_id", .string cursor)]

/-! ### Answers -/

/-- The items of an answer. -/
def items (f : Finder ι) (answer : Json) : Action (List ι) := do
  if f.config.logResultData then Action.debug ("Raw result = " ++ answer.render)
  f.mapper.answer answer

/-- The page of a search that starts at `offset`. -/
def page (f : Finder ι) (offset : UInt64) (answer : Json) : Action (Page ι) := do
  let items ← f.items answer
  pure { items, total := hitCount answer, offset }

/-- Where a scroll goes on. -/
def cursorOf (answer : Json) : Except Error String :=
  match answer.get? "_scroll_id" with
  | some (.string id) => .ok id
  | _ => .error (.engine (.internal "elasticsearch" "scroll response without _scroll_id"))

/-- The page of a scroll. -/
def scrollPage (f : Finder ι) (answer : Json) : Action (Page ι) := do
  let page ← f.page 0 answer
  let cursor ← cursorOf answer
  pure { page with cursor := some cursor }

/-- The position at a chain of keys of a request, zero if there is none. -/
def position (keys : List String) (request : Json) : UInt64 :=
  ((request.path? keys).bind Json.asNatural?).getD 0

/-! ### Operations -/

/-- Logs a search if searches are logged. -/
def noteSearch (f : Finder ι) (text : String) : Action Unit :=
  if f.config.logSearchQuery then Action.debug text else pure ()

/-- The document with an identifier, an empty page if there is none. -/
def getByIdentifier (f : Finder ι) (identifier : String) : Action (Page ι) := do
  checkText "identifier" identifier
  checkSingleIndex f.index f.docType
  let request := f.getRequest identifier
  if f.config.logGetQuery then Action.debug ("Get query = " ++ request.render)
  Action.connect
  match ← Action.ask .get request with
  | .ok answer => return Page.whole (← f.items answer)
  | .error (.notFound resource) =>
    Action.debug ("Document '" ++ identifier ++ "' not found at " ++ resource)
    return {}
  | .error e => throw (.engine e)

/-- The documents with identifiers of a list, without those that are not there. -/
def getByIdentifiers (f : Finder ι) (identifiers : List String) : Action (Page ι) := do
  if identifiers.isEmpty then invalidArgument "identifiers" "must not be empty"
  checkSingleIndex f.index f.docType
  let request := f.mgetRequest identifiers
  if f.config.logMgetQuery then Action.debug ("Mget query = " ++ request.render)
  Action.connect
  let answer ← Action.send .mget request
  return Page.whole (← f.items answer)

/-- Runs a compiled search. -/
def find (f : Finder ι) (query : Json) : Action (Page ι) := do
  checkObject query
  let request := f.searchRequest query
  f.noteSearch ("Search query = " ++ request.render)
  Action.connect
  let answer ← Action.send .search request
  f.page (position ["from"] request) answer

/-- Runs a compiled search by a stored template. -/
def findByStored (f : Finder ι) (query : Json) : Action (Page ι) := do
  checkObject query
  let request := f.searchRequest query
  f.noteSearch ("Stored query = " ++ request.render)
  Action.connect
  let answer ← Action.send .searchTemplate request
  f.page (position ["body", "params", "from"] request) answer

/-- Opens a scroll over a compiled search; the page says where it goes on. -/
def scrollStart (f : Finder ι) (query : Json) : Action (Page ι) := do
  checkObject query
  let request := f.scrollStartRequest query
  f.noteSearch ("Scroll start query = " ++ request.render)
  Action.connect
  let answer ← Action.send .search request
  f.scrollPage answer

/-- The next page of a scroll. -/
def scrollNext (f : Finder ι) (cursor : String) : Action (Page ι) := do
  checkText "cursor" cursor
  let request := f.scrollNextRequest cursor
  f.noteSearch ("Scroll next query = " ++ request.render)
  Action.connect
  let answer ← Action.send .scroll request
  f.scrollPage answer

/-- Releases a scroll. -/
def scrollEnd (f : Finder ι) (cursor : String) : Action Unit := do
  checkText "cursor" cursor
  f.noteSearch ("Scroll end " ++ cursor)
  Action.connect
  match ← Action.ask .clearScroll (scrollEndRequest cursor) with
  | .ok _ => pure ()
  | .error (.notFound _) => Action.debug ("Scroll '" ++ cursor ++ "' already released")
  | .error e => throw (.engine e)

end Finder

end SearchStore
