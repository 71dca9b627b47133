import SearchStore.Query.Criteria

/-!
# Queries

A query asks for one page of documents: by criteria, by the name of a template that is stored on the
engine, or by a native query that is passed on as it is.
-/

namespace SearchStore

/-- The order of results along one attribute. -/
inductive SortDirection where
  | ascending
  | descending
deriving DecidableEq, Repr

/-- The engine's word for a direction. -/
def SortDirection.name : SortDirection → String
  | .ascending => "asc"
  | .descending => "desc"

/-- Sorts by one attribute. -/
structure SortCriteria where
  path : String
  direction : SortDirection := .ascending
deriving DecidableEq, Repr

/-- A query by criteria: phrases to search for, filters, and an order. -/
structure CriteriaQuery where
  search : CriteriaList := {}
  filters : CriteriaList := {}
  sort : List SortCriteria := []
  offset : UInt64
  limit : UInt64
deriving Repr

/-- A query by the name of a stored template, with the parameters to fill in. -/
structure StoredQuery where
  name : String
  parameters : Fields := []
  offset : UInt64
  limit : UInt64
deriving Repr

/-- A native query. -/
structure CustomQuery where
  query : Json
  offset : UInt64
  limit : UInt64
deriving Repr

/-- The kinds of queries. -/
inductive QueryKind where
  | criteria
  | stored
  | custom
deriving DecidableEq, Repr

/-- The name of a kind of queries. -/
def QueryKind.name : QueryKind → String
  | .criteria => "criteria"
  | .stored => "stored"
  | .custom => "custom"

/-- Any query. -/
inductive Query where
  | criteria (query : CriteriaQuery)
  | stored (query : StoredQuery)
  | custom (query : CustomQuery)
deriving Repr

namespace Query

/-- The kind of a query. -/
def kind : Query → QueryKind
  | .criteria _ => .criteria
  | .stored _ => .stored
  | .custom _ => .custom

/-- The index of the first result. -/
def offset : Query → UInt64
  | .criteria q => q.offset
  | .stored q => q.offset
  | .custom q => q.offset

/-- The largest number of results. -/
def limit : Query → UInt64
  | .criteria q => q.limit
  | .stored q => q.limit
  | .custom q => q.limit

end Query

end SearchStore
