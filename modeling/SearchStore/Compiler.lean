import SearchStore.Log
import SearchStore.Clause.Filter
import SearchStore.Clause.Search
import SearchStore.Pattern.Parser

/-!
# Requests of queries

Each kind of query has a compiler, which turns it into the parameters of a request and refuses the other
kinds. A criteria query becomes `{from, size, body: {query, sort}}`; its filters, with the configured ones
behind them, go into the `filter` part of a `bool` clause, where they do not affect the ranking.
-/

namespace SearchStore

/-- A query of another kind than the compiler takes. -/
def Compiler.refuse {α : Type} (compiler : Compiler) (query : Query) :
    Except QueryError α :=
  .error (.unsupportedQuery compiler query.kind)

/-- A compiler of criteria queries: its configuration and the pattern of suggestions. -/
structure CriteriaCompiler where
  config : CriteriaConfig
  pattern : Pattern

namespace CriteriaCompiler

/-- The compiler of a configuration whose pattern can be read. -/
def ofConfig (config : CriteriaConfig) : Except Pattern.Fault CriteriaCompiler :=
  (Pattern.parse config.suggestPattern).map fun pattern => { config, pattern }

/-- The types of attributes that every document has. -/
def builtinMappings : List (String × String) :=
  [("identifier", "string"), ("referenced_identifier", "string"), ("uuid", "string"),
    ("language", "string"), ("version", "long"), ("revision", "long"), ("short_id", "long"),
    ("created_at", "date"), ("modified_at", "date"), ("workflow_state", "string")]

/-- The type by which an attribute is sorted where an index does not map it. -/
def unmappedType? (c : CriteriaCompiler) (path : String) : Option String :=
  Assoc.get? path c.config.dynamicMappings <|> Assoc.get? path builtinMappings

/-- The order of results along one attribute. -/
def sortEntry (c : CriteriaCompiler) (sort : SortCriteria) : Json :=
  let options : Fields :=
    ("order", .string sort.direction.name) ::
      ((c.unmappedType? sort.path).map fun kind => ("unmapped_type", Json.string kind)).toList
  let field := if c.config.hasSubfields sort.path then sort.path ++ ".sort" else sort.path
  .object [(field, .object options)]

/-- The configured filters as criteria. -/
def configuredFilters (config : CriteriaConfig) : List Criteria :=
  config.queryFilters.map fun (path, value) => .attribute path (.equals value)

/-- The filters of a query with the configured ones behind them. -/
def allFilters (c : CriteriaCompiler) (query : CriteriaQuery) : CriteriaList :=
  { query.filters with items := query.filters.items ++ configuredFilters c.config }

/-- A search restricted by a filter; an empty filter restricts nothing. -/
def restrict (search filter : Json) : Json :=
  if filter = Json.empty then search
  else .object [("bool", .object [("must", search), ("filter", filter)])]

/-- The body of the request. -/
def body (c : CriteriaCompiler) (query : CriteriaQuery) : Except QueryError Json := do
  let filter ← Clause.filter c.config (c.allFilters query)
  let search ← Clause.searchClause c.config c.pattern query.search.items
  .ok
    (.object [("query", restrict search filter), ("sort", .array (query.sort.map c.sortEntry))])

/-- The parameters of the request for a criteria query. -/
def compile (c : CriteriaCompiler) : Query → Except QueryError Json
  | .criteria query => do
    let body ← c.body query
    .ok
      (.object
        [("from", .natural query.offset), ("size", .natural query.limit), ("body", body)])
  | query => Compiler.criteria.refuse query

/-- What a compiler reports: search criteria behind the first are passed over. A query whose filters have no
clause is not looked at any further. -/
def notices (c : CriteriaCompiler) : Query → List Event
  | .criteria query =>
    match Clause.filter c.config (c.allFilters query), query.search.items with
    | .ok _, _ :: second :: rest =>
      [{ level := .debug
         message := "Only the first search criteria is translated"
         fields := [("ignored", .natural (UInt64.ofNat (second :: rest).length))] }]
    | _, _ => []
  | _ => []

end CriteriaCompiler

/-- The parameters of the request for a stored query. Its page overrides parameters of the same
names. -/
def TemplateConfig.compile (config : TemplateConfig) :
    Query → Except QueryError Json
  | .stored query =>
    let params :=
      Assoc.insert "size" (.natural query.limit)
        (Assoc.insert "from" (.natural query.offset) query.parameters)
    .ok
      (.object
        [("body",
          .object [(config.method.name, .string query.name), ("params", .object params)])])
  | query => Compiler.stored.refuse query

/-- The native query of a custom query. -/
def CustomQuery.compile : Query → Except QueryError Json
  | .custom query => .ok query.query
  | query => Compiler.custom.refuse query

end SearchStore
