import SearchStore.Proofs.Finder.Service
import SearchStore.Proofs.Finder.Target

/-!
# The order of scrolls

The fixed sort lies on top of the layers of a request that opens a scroll, but it is a list: it stands behind the
sorts that the configured parameters and the query bring as lists. It also leaves the body alone, and that is where
a criteria query has its sort. `inIndexOrder_iff` says of all ways to open a scroll when the fixed sort is the only
one.
-/

namespace SearchStore

variable {ι σ : Type}

/-- A sort that orders nothing: there is none, or it lists no clause. -/
def NoClauses (sort : Option Json) : Prop := sort = none ∨ sort = some (.array [])

/-- The parameters of a search in index order: the fixed sort is the only one. -/
structure InIndexOrder (params : Json) : Prop where
  sort : params.get? "sort" = some Finder.scrollSort
  body : NoClauses (params.path? ["body", "sort"])

/-- Layers of parameters that bring no sort: no items under `sort`, and no clauses in their body. -/
structure Unsorted (layers : List Fields) : Prop where
  sort : Json.itemsBelow "sort" layers = []
  body : NoClauses ((Json.layers (layers.map .object)).path? ["body", "sort"])

/-! ### Scrolls of finders -/

namespace Finder

variable (f : Finder ι)

theorem get?_sort_scrollStartRequest {query : Fields} (hconfigured : (Assoc.keys (f.configured "search")).Nodup)
    (hquery : (Assoc.keys query).Nodup) :
    (f.scrollStartRequest (.object query)).get? "sort" =
      some (.array (Json.itemsBelow "sort" [f.configured "search", query] ++ [.string "_doc"])) := by
  have hlayers : ∀ layer ∈ [f.configured "search", query], (Assoc.keys layer).Nodup := by
    intro layer hlayer
    simp only [List.mem_cons, List.not_mem_nil, or_false] at hlayer
    rcases hlayer with rfl | rfl
    · exact hconfigured
    · exact hquery
  have hown := (FinderCall.openScroll query).nodup_keys_own f
  exact Json.get?_layers_array hlayers hown rfl

theorem path?_body_scrollStartRequest (query : Fields) (rest : List String) :
    (f.scrollStartRequest (.object query)).path? ("body" :: rest) =
      (Json.layers ([f.configured "search", query].map .object)).path? ("body" :: rest) := by
  have hown : Assoc.get? "body" ((FinderCall.openScroll query).own f) = none := rfl
  exact Json.path?_layers_of_absent hown [f.configured "search", query] rest

theorem inIndexOrder_scrollStartRequest_iff {query : Fields}
    (hconfigured : (Assoc.keys (f.configured "search")).Nodup) (hquery : (Assoc.keys query).Nodup) :
    InIndexOrder (f.scrollStartRequest (.object query)) ↔ Unsorted [f.configured "search", query] := by
  have hsort := f.get?_sort_scrollStartRequest hconfigured hquery
  have hbody := f.path?_body_scrollStartRequest query ["sort"]
  constructor
  · intro hordered
    have hsame := hordered.sort.symm.trans hsort
    simp only [scrollSort, Json.strings, List.map_cons, List.map_nil, Option.some.injEq, Json.array.injEq,
      List.self_eq_append_left] at hsame
    have hclauses := hordered.body
    rw [hbody] at hclauses
    exact ⟨hsame, hclauses⟩
  · intro hunsorted
    rw [hunsorted.sort, List.nil_append] at hsort
    have hclauses := hunsorted.body
    rw [← hbody] at hclauses
    exact ⟨hsort, hclauses⟩

theorem eq_of_mem_calls_scrollStart {query : Json} {engine : Engine σ} {state : σ} {call : Call}
    (h : call ∈ ((f.scrollStart query).execute engine state).calls) :
    ∃ fields, query = .object fields ∧ call = ⟨.search, f.scrollStartRequest query⟩ := by
  cases hobject : query.asObject? with
  | none =>
    have hrefused : ∃ e, checkObject query = .error e := by
      cases query with
      | object fields => cases hobject
      | _ => exact ⟨_, rfl⟩
    obtain ⟨e, he⟩ := hrefused
    have hsettles : Action.Settles (f.scrollStart query) (.error e) := by
      unfold scrollStart
      rw [he]
      exact (Action.settles_lift (.error e)).bind_error _
    rw [hsettles.calls_eq_nil] at h
    cases h
  | some fields =>
    obtain rfl := Json.eq_object_of_asObject? hobject
    exact ⟨fields, rfl, (f.asks_scrollStart fields).eq_of_mem_calls h⟩

end Finder

/-! ### Scrolls of services -/

namespace QueryService

variable (s : QueryService ι) (engine : Engine σ) (state : σ)

theorem calls_scrollStart_custom (q : CustomQuery) :
    ((s.scrollStart (.custom q)).execute engine state).calls =
      ((s.finder.scrollStart q.query).execute engine state).calls := by
  have hcompiled : Action.Settles (compiled (CustomQuery.compile (.custom q))) (.ok q.query) :=
    settles_compiled _
  exact hcompiled.calls_bind s.finder.scrollStart engine state

theorem settles_scrollStart_criteria {q : CriteriaQuery} {e : QueryError}
    (h : s.criteria.compile (.criteria q) = .error e) :
    Action.Settles (s.scrollStart (.criteria q)) (.error (.query e)) :=
  (s.settles_compileCriteria h).bind_error s.finder.scrollStart

theorem calls_scrollStart_criteria {q : CriteriaQuery} {request : Json}
    (h : s.criteria.compile (.criteria q) = .ok request) :
    ((s.scrollStart (.criteria q)).execute engine state).calls =
      ((s.finder.scrollStart request).execute engine state).calls :=
  (s.settles_compileCriteria h).calls_bind s.finder.scrollStart engine state

end QueryService

namespace CriteriaCompiler

open Json (Carries)

variable (c : CriteriaCompiler) (q : CriteriaQuery) (query : Json)

theorem carries_sort : Carries (.array (q.sort.map c.sortEntry)) ["body", "sort"] (c.request q query) := by
  have hkeys : (Assoc.keys [("from", Json.natural q.offset), ("size", .natural q.limit),
      ("body", .object [("query", query), ("sort", .array (q.sort.map c.sortEntry))])]).Nodup := by
    simp [Assoc.keys]
  have hbody : (Assoc.keys [("query", query), ("sort", .array (q.sort.map c.sortEntry))]).Nodup := by
    simp [Assoc.keys]
  exact .there hkeys rfl (.there hbody rfl .here)

/-- The sort of a criteria query goes behind a configured list in the body, and displaces any other value there. -/
theorem unsorted_request_iff {configured fields : Fields} (hconfigured : (Assoc.keys configured).Nodup)
    (hfields : c.request q query = .object fields) :
    Unsorted [configured, fields] ↔
      q.sort = [] ∧ Json.listItems (Assoc.get? "sort" configured) = [] ∧
        Json.listItems ((Json.object configured).path? ["body", "sort"]) = [] := by
  have hcarries := c.carries_sort q query
  rw [hfields] at hcarries
  have hbody := Json.path?_layers_array hcarries (.object configured)
  rw [Json.path?_layer hconfigured] at hbody
  -- The request has no `sort` beside its body, so the configured one is all there is.
  have hlayers : Json.itemsBelow "sort" [configured, fields] =
      Json.listItems (Assoc.get? "sort" configured) := by
    obtain rfl := Json.object.inj hfields
    unfold Json.itemsBelow
    rw [List.foldl_cons, List.foldl_cons, List.foldl_nil, Json.itemsUnder, Json.itemsUnder]
    simp only [Assoc.get?, Json.listItems]
    cases Assoc.get? "sort" configured with
    | none => rfl
    | some value => cases value <;> simp [Json.asArray?]
  constructor
  · intro hunsorted
    have hclauses := hunsorted.body
    rw [show (Json.layers ([configured, fields].map .object)).path? ["body", "sort"] = _ from hbody]
      at hclauses
    simp only [NoClauses, reduceCtorEq, Option.some.injEq, Json.array.injEq, List.append_eq_nil_iff,
      List.map_eq_nil_iff, false_or] at hclauses
    exact ⟨hclauses.2, hlayers ▸ hunsorted.sort, hclauses.1⟩
  · rintro ⟨hsort, htop, hlower⟩
    rw [hsort, hlower] at hbody
    exact ⟨hlayers.trans htop, .inr hbody⟩

end CriteriaCompiler

/-- **When scrolls run in index order.** A scroll over a native query, of the finder or of the service, does exactly
if neither the configured parameters nor the query bring a sort: no items under `sort`, and no clauses in the body
that the two make together. A scroll over a criteria query does exactly if the query has no sort, and the configured
parameters have no list of sorts, neither under `sort` nor in their body. -/
theorem inIndexOrder_iff (s : QueryService ι) (hconfigured : (Assoc.keys (s.finder.configured "search")).Nodup)
    (engine : Engine σ) (state : σ) :
    (∀ (query : Json) (offset limit : UInt64), query.HasUniqueKeys →
      ∀ a ∈ [s.finder.scrollStart query, s.scrollStart (.custom { query, offset, limit })],
        ∀ call ∈ (a.execute engine state).calls, ∃ fields, query = .object fields ∧
          (InIndexOrder call.params ↔ Unsorted [s.finder.configured "search", fields])) ∧
    ∀ q : CriteriaQuery, ∀ call ∈ ((s.scrollStart (.criteria q)).execute engine state).calls,
      (InIndexOrder call.params ↔
        q.sort = [] ∧ Json.listItems (Assoc.get? "sort" (s.finder.configured "search")) = [] ∧
          Json.listItems ((Json.object (s.finder.configured "search")).path? ["body", "sort"]) = []) := by
  constructor
  · intro query offset limit hunique a ha call hcall
    have hmem : call ∈ ((s.finder.scrollStart query).execute engine state).calls := by
      simp only [List.mem_cons, List.not_mem_nil, or_false] at ha
      rcases ha with rfl | rfl
      · exact hcall
      · rw [s.calls_scrollStart_custom] at hcall
        exact hcall
    obtain ⟨fields, rfl, rfl⟩ := s.finder.eq_of_mem_calls_scrollStart hmem
    rw [Json.HasUniqueKeys] at hunique
    exact ⟨fields, rfl, s.finder.inIndexOrder_scrollStartRequest_iff hconfigured hunique.1⟩
  · intro q call hcall
    obtain ⟨e, hrefused⟩ | ⟨query, hcompiled⟩ := s.criteria.compile_cases q
    · rw [(s.settles_scrollStart_criteria hrefused).calls_eq_nil] at hcall
      cases hcall
    · rw [s.calls_scrollStart_criteria engine state hcompiled] at hcall
      obtain ⟨fields, hfields, rfl⟩ := s.finder.eq_of_mem_calls_scrollStart hcall
      have hunique : (Assoc.keys fields).Nodup := by
        obtain rfl := Json.object.inj hfields
        simp [Assoc.keys]
      rw [hfields, s.finder.inIndexOrder_scrollStartRequest_iff hconfigured hunique]
      exact s.criteria.unsorted_request_iff q query hconfigured hfields

/-- Configured sorts that are no lists are displaced, by the fixed sort and by empty lists in the body. -/
theorem inIndexOrder_displaced :
    let configured : Fields := [("sort", .string "title"), ("body", .object [("sort", .string "title")])]
    let s : QueryService Json :=
      { criteria := ⟨{}, .never⟩, stored := {}
        finder :=
          { connector := {}, mapper := .source, config := { parameters := ⟨[("search", configured)]⟩ } } }
    let q : CriteriaQuery := { offset := 0, limit := 10 }
    let native : Json := .object [("body", .object [("sort", .array [])])]
    (Assoc.keys (s.finder.configured "search")).Nodup ∧ native.HasUniqueKeys ∧
    (∃ call, ((s.scrollStart (.criteria q)).execute Script.engine {}).calls = [call] ∧
      InIndexOrder call.params) ∧
    ∃ call, ((s.finder.scrollStart native).execute Script.engine {}).calls = [call] ∧
      InIndexOrder call.params := by
  intro configured s q native
  have hconfigured : (Assoc.keys (s.finder.configured "search")).Nodup := by decide
  have hunique : native.HasUniqueKeys := by
    simp [native, Json.HasUniqueKeys, Json.UniqueInFields, Json.UniqueInItems, Assoc.keys]
  obtain ⟨first, hfirst⟩ : ∃ call,
      ((s.scrollStart (.criteria q)).execute Script.engine {}).calls = [call] := by
    rw [s.calls_scrollStart_criteria Script.engine {} (CriteriaCompiler.compile_of_isEmpty rfl rfl rfl)]
    exact ⟨_, rfl⟩
  obtain ⟨second, hsecond⟩ : ∃ call,
      ((s.finder.scrollStart native).execute Script.engine {}).calls = [call] := ⟨_, rfl⟩
  have hordered := inIndexOrder_iff s hconfigured Script.engine {}
  have hcriteria := hordered.2 q first (by rw [hfirst]; exact List.mem_singleton_self first)
  obtain ⟨fields, hfields, hnative⟩ := hordered.1 native 0 10 hunique _ List.mem_cons_self second
    (by rw [hsecond]; exact List.mem_singleton_self second)
  obtain rfl := Json.object.inj hfields
  refine ⟨hconfigured, hunique, ⟨first, hfirst, ?_⟩, second, hsecond, ?_⟩
  · exact hcriteria.mpr ⟨rfl, rfl, rfl⟩
  · exact hnative.mpr ⟨by decide +kernel, .inr (by decide +kernel)⟩

/-- A criteria query keeps its sort in the body of the request, and a native query has its list of sorts in front of
the fixed one, as has a configured list. -/
theorem not_inIndexOrder_title :
    let sorts : Fields := [("sort", Json.strings ["title"])]
    let f : Finder Json := { connector := {}, mapper := .source, config := {} }
    let g : Finder Json := { f with config := { parameters := ⟨[("search", sorts)]⟩ } }
    let s : QueryService Json := { criteria := ⟨{}, .never⟩, stored := {}, finder := f }
    let q : CriteriaQuery := { sort := [{ path := "title" }], offset := 0, limit := 10 }
    (∃ call ∈ ((s.scrollStart (.criteria q)).execute Script.engine {}).calls,
      call.params.path? ["body", "sort"] =
        some (.array [.object [("title", .object [("order", .string "asc")])]]) ∧
      ¬ InIndexOrder call.params) ∧
    (∃ call ∈ ((f.scrollStart (.object sorts)).execute Script.engine {}).calls,
      call.params.get? "sort" = some (Json.strings ["title", "_doc"]) ∧ ¬ InIndexOrder call.params) ∧
    ∃ call ∈ ((g.scrollStart .empty).execute Script.engine {}).calls,
      call.params.get? "sort" = some (Json.strings ["title", "_doc"]) ∧ ¬ InIndexOrder call.params := by
  intro sorts f g s q
  have hlisted : ∀ {params : Json}, params.get? "sort" = some (Json.strings ["title", "_doc"]) →
      ¬ InIndexOrder params := by
    intro params hparams hordered
    have hsame := hordered.sort.symm.trans hparams
    revert hsame
    decide
  have hsorted : ∀ {params clause : Json}, params.path? ["body", "sort"] = some (.array [clause]) →
      ¬ InIndexOrder params := by
    intro params clause hparams hordered
    have hclauses := hordered.body
    rw [hparams] at hclauses
    simp [NoClauses] at hclauses
  rw [s.calls_scrollStart_criteria Script.engine {} (CriteriaCompiler.compile_of_isEmpty rfl rfl rfl)]
  refine ⟨⟨_, List.mem_singleton_self _, ?_⟩, ⟨_, List.mem_singleton_self _, ?_⟩,
    _, List.mem_singleton_self _, ?_⟩
  · exact ⟨rfl, hsorted rfl⟩
  · exact ⟨rfl, hlisted rfl⟩
  · exact ⟨rfl, hlisted rfl⟩

end SearchStore
