import SearchStore.Engine.Script
import SearchStore.Proofs.Filter.Compiled
import SearchStore.Proofs.Finder.Calls
import SearchStore.Proofs.Json.Layers
import SearchStore.QueryService

/-!
# Pages of queries

A service compiles a query without the engine and then does what its finder does (`asks_find_criteria`,
`asks_find_stored`). The page of the query, its offset and limit, is compiled to atoms, which no configured
parameter can displace: they arrive in the request, and the offset is read back from there into the result
(`find_keeps_page`).
-/

namespace SearchStore

open SearchStore.Action (Asks Settles)

variable {ι σ : Type}

/-! ### Compilers without the engine -/

/-- A query is refused, or becomes a request for its page. -/
theorem CriteriaCompiler.compile_cases (c : CriteriaCompiler) (q : CriteriaQuery) :
    (∃ e, c.compile (.criteria q) = .error e) ∨
      ∃ query, c.compile (.criteria q) = .ok (c.request q query) := by
  rw [c.compile_eq]
  cases Clause.filter c.config (c.allFilters q) with
  | error e => exact .inl ⟨e, rfl⟩
  | ok filter =>
    cases Clause.searchClause c.config c.pattern q.search.items with
    | error e => exact .inl ⟨e, rfl⟩
    | ok search => exact .inr ⟨restrict search filter, rfl⟩

theorem CriteriaCompiler.compile_of_isEmpty {c : CriteriaCompiler} {q : CriteriaQuery}
    (hsearch : q.search.items = []) (hfilters : q.filters.items = []) (hconfigured : c.config.queryFilters = []) :
    c.compile (.criteria q) = .ok (c.request q (.object [("match_all", .empty)])) := by
  have hall : (c.allFilters q).items = [] := by
    simp [allFilters, configuredFilters, hfilters, hconfigured]
  have hfilter : Clause.filter c.config (c.allFilters q) = .ok Json.empty := by
    rw [Clause.filter, hall, Clause.gather]
    rfl
  rw [c.compile_eq, hfilter, hsearch]
  rfl

namespace QueryService

variable (s : QueryService ι)

theorem settles_compiled {α : Type} (result : Except QueryError α) :
    Settles (compiled result) (result.mapError .query) := by
  intro σ engine state
  exact ⟨[], rfl⟩

theorem settles_compileCriteria {query : Query} {result : Except QueryError Json}
    (h : s.criteria.compile query = result) :
    Settles (s.compileCriteria query) (result.mapError .query) := by
  have hnotices : ∀ events : List Event, Settles (events.forM Action.report) (.ok ()) := by
    intro events
    induction events with
    | nil => exact Action.settles_pure ()
    | cons event rest ih => exact (Action.settles_report event).bind_ok ih
  unfold compileCriteria
  rw [h]
  exact (hnotices _).bind_ok (settles_compiled _)

/-! ### Operations of services -/

theorem settles_find_criteria {q : CriteriaQuery} {e : QueryError}
    (h : s.criteria.compile (.criteria q) = .error e) :
    Settles (s.find (.criteria q)) (.error (.query e)) :=
  (s.settles_compileCriteria h).bind_error s.finder.find

theorem asks_find_criteria {q : CriteriaQuery} {query : Json}
    (h : s.criteria.compile (.criteria q) = .ok (s.criteria.request q query)) :
    let request := s.finder.searchRequest (s.criteria.request q query)
    Asks (s.find (.criteria q)) ⟨.search, request⟩
      (fun reply => (reply.mapError .engine).bind
        (s.finder.searched (Finder.position ["from"] request))) :=
  (s.settles_compileCriteria h).asks (s.finder.asks_find _)

/-- The parameters of a template: those of the query, and its page in place of others of the same names. -/
def templateParams (q : StoredQuery) : Fields :=
  Assoc.insert "size" (.natural q.limit) (Assoc.insert "from" (.natural q.offset) q.parameters)

/-- The compiled form of a stored query, an object. -/
def templateFields (config : TemplateConfig) (q : StoredQuery) : Fields :=
  [("body", .object [(config.method.name, .string q.name), ("params", .object (templateParams q))])]

theorem asks_find_stored (q : StoredQuery) :
    let request := s.finder.searchRequest (.object (templateFields s.stored q))
    Asks (s.find (.stored q)) ⟨.searchTemplate, request⟩
      (fun reply => (reply.mapError .engine).bind
        (s.finder.searched (Finder.position ["body", "params", "from"] request))) := by
  have hcompiled : Settles (compiled (s.stored.compile (.stored q))) (.ok _) := settles_compiled _
  exact hcompiled.asks (s.finder.asks_findByStored (templateFields s.stored q))

end QueryService

/-! ### Pages in compiled queries -/

open Json (Carries)

section
variable (c : CriteriaCompiler) (q : CriteriaQuery) (query : Json)

theorem CriteriaCompiler.carries_offset : Carries (.natural q.offset) ["from"] (c.request q query) :=
  .there (by simp [Assoc.keys]) rfl .here

theorem CriteriaCompiler.carries_limit : Carries (.natural q.limit) ["size"] (c.request q query) :=
  .there (by simp [Assoc.keys]) rfl .here

end

namespace QueryService

variable (config : TemplateConfig) {q : StoredQuery}

/-- Neither way to name a template is the key of its parameters. -/
theorem nodup_templateKeys (name params : Json) :
    (Assoc.keys [(config.method.name, name), ("params", params)]).Nodup := by
  cases config.method <;> simp [Assoc.keys, TemplateSource.name]

theorem carries_template (q : StoredQuery) :
    Carries (.string q.name) ["body", config.method.name] (.object (templateFields config q)) := by
  refine .there (by simp [templateFields, Assoc.keys]) rfl (.there (nodup_templateKeys config _ _) ?_ .here)
  rw [Assoc.get?, if_pos rfl]

theorem carries_templateParams (hunique : (Assoc.keys q.parameters).Nodup) {key : String} {value : Json}
    (hkey : Assoc.get? key (templateParams q) = some value) :
    Carries value ["body", "params", key] (.object (templateFields config q)) := by
  have hparams : (Assoc.keys (templateParams q)).Nodup :=
    Assoc.nodup_keys_insert _ _ (Assoc.nodup_keys_insert _ _ hunique)
  have hentry : Assoc.get? "params"
      [(config.method.name, Json.string q.name), ("params", .object (templateParams q))] =
        some (.object (templateParams q)) := by
    cases config.method <;> rfl
  refine .there (by simp [templateFields, Assoc.keys]) rfl ?_
  exact .there (nodup_templateKeys config _ _) hentry (.there hparams hkey .here)

theorem get?_templateParams_offset (q : StoredQuery) :
    Assoc.get? "from" (templateParams q) = some (.natural q.offset) := by
  rw [templateParams, Assoc.get?_insert, if_neg (by decide), Assoc.get?_insert, if_pos rfl]

theorem get?_templateParams_limit (q : StoredQuery) :
    Assoc.get? "size" (templateParams q) = some (.natural q.limit) := by
  rw [templateParams, Assoc.get?_insert, if_pos rfl]

end QueryService

/-! ### Pages in requests -/

/-- The call searches for the page of a criteria query. -/
structure CriteriaQuery.Paged (q : CriteriaQuery) (call : Call) : Prop where
  method : call.method = .search
  offset : call.params.path? ["from"] = some (.natural q.offset)
  limit : call.params.path? ["size"] = some (.natural q.limit)

/-- The call searches for the page of a stored query, by its template. -/
structure StoredQuery.Paged (q : StoredQuery) (config : TemplateConfig) (call : Call) : Prop where
  method : call.method = .searchTemplate
  offset : call.params.path? ["body", "params", "from"] = some (.natural q.offset)
  limit : call.params.path? ["body", "params", "size"] = some (.natural q.limit)
  template : call.params.path? ["body", config.method.name] = some (.string q.name)

namespace Finder

variable (f : Finder ι)

/-- An atom of a query arrives in the request, unless the target is at its key. -/
theorem path?_searchRequest {value : Json} (hvalue : value.IsAtom) {key : String} {rest : List String}
    {query : Fields} (h : Carries value (key :: rest) (.object query)) (hkey : key ∉ ["index", "type"]) :
    (f.searchRequest (.object query)).path? (key :: rest) = some value := by
  have hown : Assoc.get? key f.target = none := by
    rw [Assoc.get?_eq_none_iff]
    exact hkey
  exact (Json.path?_layers_of_absent hown [_, query] rest).trans (Json.path?_layers_atom hvalue h _)

theorem paged_criteria (c : CriteriaCompiler) (q : CriteriaQuery) (query : Json) :
    q.Paged ⟨.search, f.searchRequest (c.request q query)⟩ where
  method := rfl
  offset := f.path?_searchRequest (Json.isAtom_natural _) (c.carries_offset q query) (by decide)
  limit := f.path?_searchRequest (Json.isAtom_natural _) (c.carries_limit q query) (by decide)

theorem paged_stored (config : TemplateConfig) {q : StoredQuery} (hunique : (Assoc.keys q.parameters).Nodup) :
    q.Paged config
      ⟨.searchTemplate, f.searchRequest (.object (QueryService.templateFields config q))⟩ where
  method := rfl
  offset := by
    have hoffset := QueryService.get?_templateParams_offset q
    exact f.path?_searchRequest (Json.isAtom_natural _)
      (QueryService.carries_templateParams config hunique hoffset) (by decide)
  limit := by
    have hlimit := QueryService.get?_templateParams_limit q
    exact f.path?_searchRequest (Json.isAtom_natural _)
      (QueryService.carries_templateParams config hunique hlimit) (by decide)
  template :=
    f.path?_searchRequest (Json.isAtom_string _) (QueryService.carries_template config q) (by decide)

/-! ### Pages of results -/

theorem position_eq {keys : List String} {request : Json} {n : UInt64}
    (h : request.path? keys = some (.natural n)) : position keys request = n := by
  rw [position, h]
  rfl

theorem offset_of_searched {offset : UInt64} {reply : Reply} {page : Page ι}
    (h : (reply.mapError .engine).bind (f.searched offset) = .ok page) : page.offset = offset := by
  cases reply with
  | error e => cases h
  | ok answer =>
    unfold searched at h
    simp only [Action.mapError_ok, Except.bind] at h
    cases hitems : f.mapper.answer answer with
    | error e =>
      rw [hitems] at h
      cases h
    | ok items =>
      rw [hitems] at h
      cases h
      rfl

/-- The offset of a result is read from the request, where the page of the query arrived. -/
theorem offset_of_asks {a : Action (Page ι)} {call : Call} {keys : List String} {n : UInt64}
    (ha : Asks a call fun reply => (reply.mapError .engine).bind (f.searched (position keys call.params)))
    (hkeys : call.params.path? keys = some (.natural n)) {engine : Engine σ} {state : σ} {page : Page ι}
    (h : (a.execute engine state).value = .ok page) : page.offset = n := by
  obtain ⟨reply, hreply⟩ := ha.exists_of_ok h
  rw [f.offset_of_searched hreply, position_eq hkeys]

end Finder

namespace QueryService

variable (s : QueryService ι) (engine : Engine σ) (state : σ)

theorem find_criteria_paged (q : CriteriaQuery) :
    let run := (s.find (.criteria q)).execute engine state
    (∀ call ∈ run.calls, q.Paged call) ∧ ∀ page, run.value = .ok page → page.offset = q.offset := by
  obtain ⟨e, hrefused⟩ | ⟨query, hcompiled⟩ := s.criteria.compile_cases q
  · obtain ⟨events, hrun⟩ := s.settles_find_criteria hrefused σ engine state
    rw [hrun]
    exact ⟨nofun, nofun⟩
  · have hasks := s.asks_find_criteria hcompiled
    have hpaged := s.finder.paged_criteria s.criteria q query
    constructor
    · intro call hcall
      rw [hasks.eq_of_mem_calls hcall]
      exact hpaged
    · intro page hpage
      exact s.finder.offset_of_asks hasks hpaged.offset hpage

theorem find_stored_paged {q : StoredQuery} (hunique : (Assoc.keys q.parameters).Nodup) :
    let run := (s.find (.stored q)).execute engine state
    (∀ call ∈ run.calls, q.Paged s.stored call) ∧
      ∀ page, run.value = .ok page → page.offset = q.offset := by
  have hasks := s.asks_find_stored q
  have hpaged := s.finder.paged_stored s.stored hunique
  constructor
  · intro call hcall
    rw [hasks.eq_of_mem_calls hcall]
    exact hpaged
  · intro page hpage
    exact s.finder.offset_of_asks hasks hpaged.offset hpage

end QueryService

/-- **Paging survives compiling and merging.** Whatever is configured, also at the keys of the page, the request of a
criteria query and the request of a stored query ask for the page of the query, and the offset of a result is the
offset of the query. The parameters of a stored query may have the names of the page. -/
theorem find_keeps_page (s : QueryService ι) (engine : Engine σ) (state : σ) :
    (∀ q : CriteriaQuery,
      let run := (s.find (.criteria q)).execute engine state
      (∀ call ∈ run.calls, q.Paged call) ∧ ∀ page, run.value = .ok page → page.offset = q.offset) ∧
    ∀ q : StoredQuery, (Assoc.keys q.parameters).Nodup →
      let run := (s.find (.stored q)).execute engine state
      (∀ call ∈ run.calls, q.Paged s.stored call) ∧
        ∀ page, run.value = .ok page → page.offset = q.offset := by
  constructor
  · intro q
    exact s.find_criteria_paged engine state q
  · intro q hunique
    exact s.find_stored_paged engine state hunique

/-- A stored query with a parameter `from`, over configured parameters of templates with a page of their own. -/
theorem find_keeps_page_shadowed :
    let params : Fields := [("from", Json.strings ["first"]), ("size", .natural 1)]
    let parameters : MethodParameters :=
      ⟨[("search", [("from", .natural 7), ("body", .object [("params", .object params)])])]⟩
    let s : QueryService Json :=
      { criteria := ⟨{}, .never⟩, stored := {}
        finder := { connector := {}, mapper := .source, config := { parameters } } }
    let q : StoredQuery :=
      { name := "recent", parameters := [("from", .string "2024-01-01")], offset := 20, limit := 10 }
    (Assoc.keys q.parameters).Nodup ∧
    ∃ call page, (s.find (.stored q)).execute Script.engine {} =
        { value := .ok page, state := { connected := true }, calls := [call] } ∧
      q.Paged s.stored call ∧ page.offset = 20 := by
  intro params parameters s q
  have hunique : (Assoc.keys q.parameters).Nodup := by decide
  obtain ⟨call, page, hrun⟩ : ∃ call page, (s.find (.stored q)).execute Script.engine {} =
      { value := .ok page, state := { connected := true }, calls := [call] } := ⟨_, _, rfl⟩
  have hkept := (find_keeps_page s Script.engine {}).2 q hunique
  simp only [hrun] at hkept
  refine ⟨hunique, call, page, hrun, ?_, ?_⟩
  · exact hkept.1 call (List.mem_singleton_self call)
  · exact hkept.2 page rfl

end SearchStore
