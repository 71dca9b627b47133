import SearchStore.Finder
import SearchStore.Compiler

/-!
# Running queries

A query service compiles queries by their kind and runs them with a finder. Criteria and custom queries are
searches, stored queries are searches by template. Scrolls take criteria and custom queries.
-/

namespace SearchStore

/-- Compilers and the finder that runs what they make. -/
structure QueryService (ι : Type) where
  criteria : CriteriaCompiler
  stored : TemplateConfig
  finder : Finder ι

namespace QueryService

variable {ι : Type}

/-- The service of a configuration whose pattern of suggestions can be read. A fault of the pattern is passed on in
the words of the engine that reads patterns, which `explain` gives for a pattern and what is wrong with it. Where the
engine is not at hand, the fault alone is named. -/
def create (criteria : CriteriaConfig) (stored : TemplateConfig) (finder : Finder ι)
    (explain : String → Pattern.Fault → String := fun _ fault => fault.text) : Except Error (QueryService ι) :=
  match CriteriaCompiler.ofConfig criteria with
  | .ok compiler => .ok { criteria := compiler, stored, finder }
  | .error fault => .error (.validation (.config "suggest_pattern" (explain criteria.suggestPattern fault)))

/-- The outcome of a compiler as an operation. -/
def compiled {α : Type} (result : Except QueryError α) : Action α :=
  ExceptT.mk (.done (result.mapError Error.query))

/-- Compiles a criteria query, and logs what its compiler reports. -/
def compileCriteria (s : QueryService ι) (query : Query) : Action Json := do
  (s.criteria.notices query).forM Action.report
  compiled (s.criteria.compile query)

/-- Runs a query. -/
def find (s : QueryService ι) (query : Query) : Action (Page ι) := do
  match query with
  | .criteria _ => s.finder.find (← s.compileCriteria query)
  | .stored _ => s.finder.findByStored (← compiled (s.stored.compile query))
  | .custom _ => s.finder.find (← compiled (CustomQuery.compile query))

/-- Opens a scroll over a query. -/
def scrollStart (s : QueryService ι) (query : Query) : Action (Page ι) := do
  match query with
  | .criteria _ => s.finder.scrollStart (← s.compileCriteria query)
  | .stored _ => compiled (Compiler.scroll.refuse query)
  | .custom _ => s.finder.scrollStart (← compiled (CustomQuery.compile query))

/-- The next page of a scroll. -/
def scrollNext (s : QueryService ι) (cursor : String) : Action (Page ι) :=
  s.finder.scrollNext cursor

/-- Releases a scroll. -/
def scrollEnd (s : QueryService ι) (cursor : String) : Action Unit :=
  s.finder.scrollEnd cursor

end QueryService

end SearchStore
