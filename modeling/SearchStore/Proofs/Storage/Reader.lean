import SearchStore.Proofs.Engine.Action
import SearchStore.Proofs.Json.Merge
import SearchStore.Storage.Reader

/-!
# Requests and runs of readers

`firstRequest` and `nextRequest` ask for all documents with the size of the page, and for the place of the
page in `from`, unless the configured parameters have a body or a place of their own. `turn_run` says what
reading a page leads to on any engine: a failure leaves the reader as it is, a page moves it.
-/

namespace SearchStore

/-- The body of a request for all documents. -/
def matchAllBody : Json := .object [("query", .object [("match_all", .empty)])]

/-- A request for the documents from `start` on, `size` of them. -/
structure PageRequest (request : Json) (start size : UInt64) : Prop where
  body : request.get? "body" = some matchAllBody
  size : request.get? "size" = some (.natural size)
  start : request.get? "from" = some (.natural start) ∨ request.get? "from" = none ∧ start = 0

namespace Reader

variable {σ ι : Type} (r : Reader ι)

/-! ### Requests -/

theorem firstRequest_eq (limit : UInt64) : ∃ configured,
    r.config.parameters.layer "search" = .object configured ∧
    r.firstRequest limit = .object
      (Json.mergeFields (Json.mergeFields (Json.mergeFields [] configured) r.target.params)
        [("size", .natural limit), ("body", matchAllBody)]) := by
  refine ⟨_, rfl, ?_⟩
  exact Json.layers_objects [_, r.target.params, [("size", .natural limit), ("body", matchAllBody)]]

/-- Without a body and a place of its own, the configuration leaves the request for the first page alone. -/
theorem pageRequest_first (hbody : (r.config.parameters.layer "search").get? "body" = none)
    (hfrom : (r.config.parameters.layer "search").get? "from" = none) (limit : UInt64) :
    PageRequest (r.firstRequest limit) 0 limit := by
  obtain ⟨configured, hconfigured, hrequest⟩ := r.firstRequest_eq limit
  rw [hconfigured] at hbody hfrom
  -- Neither the configured parameters nor the target have a body or a place.
  have habsent : ∀ key, Assoc.get? key configured = none → key ≠ "index" → key ≠ "type" →
      Assoc.get? key (Json.mergeFields (Json.mergeFields [] configured) r.target.params) = none := by
    intro key hkey hindex htype
    rw [Json.get?_mergeFields_of_absent, Json.get?_mergeFields_of_absent hkey]
    · rfl
    · simp [Target.params, Assoc.get?, Ne.symm hindex, Ne.symm htype]
  have hb := habsent "body" hbody (by decide) (by decide)
  have hf := habsent "from" hfrom (by decide) (by decide)
  rw [hrequest]
  refine ⟨?_, ?_, .inr ⟨?_, rfl⟩⟩
  · simp [Json.get?, Json.mergeFields, Assoc.get?_alter, hb]
  · exact Json.get?_mergeFields_atom (Json.isAtom_natural limit) _ (by simp [Assoc.keys]) rfl
  · simp [Json.get?, Json.mergeFields, Assoc.get?_alter, hf]

theorem pageRequest_next (hbody : (r.config.parameters.layer "search").get? "body" = none)
    (hfrom : (r.config.parameters.layer "search").get? "from" = none) (limit : UInt64) :
    PageRequest (r.nextRequest limit) r.offset limit := by
  have hfirst := r.pageRequest_first hbody hfrom limit
  obtain ⟨configured, _, hrequest⟩ := r.firstRequest_eq limit
  rw [hrequest] at hfirst
  rw [nextRequest, hrequest, Json.set]
  refine ⟨?_, ?_, .inl ?_⟩
  · rw [Json.get?, Assoc.get?_insert, if_neg (by decide)]
    exact hfirst.body
  · rw [Json.get?, Assoc.get?_insert, if_neg (by decide)]
    exact hfirst.size
  · rw [Json.get?, Assoc.get?_insert, if_pos rfl]

/-! ### Runs -/

/-- Fetching a page fails, or the engine gives an answer with its items. -/
theorem execute_fetch (engine : Engine σ) (state : σ) (request : Json) :
    (∃ e, ((r.fetch request).execute engine state).value = .error e) ∨
    ∃ s answer page, (engine.answer ⟨.search, request⟩ s).1 = .ok answer ∧
      r.mapper.answer answer = .ok page ∧
      ((r.fetch request).execute engine state).value = .ok (page, hitCount answer) := by
  rw [fetch, Action.execute_bind]
  cases hconnect : (engine.connect state).1 with
  | error e =>
      refine .inl ⟨.engine e, Run.value_andThen_error ?_ _⟩
      rw [Action.execute_connect, hconnect]
      rfl
  | ok _ =>
      have hconnected : (Action.connect.execute engine state).value = .ok () := by
        rw [Action.execute_connect, hconnect]
        rfl
      rw [Run.value_andThen_ok hconnected, Action.execute_connect, Action.execute_bind]
      cases hanswer : (engine.answer ⟨.search, request⟩ (engine.connect state).2).1 with
      | error e =>
          refine .inl ⟨.engine e, Run.value_andThen_error ?_ _⟩
          rw [Action.execute_send, hanswer]
          rfl
      | ok answer =>
          have hsent : ((Action.send .search request).execute engine (engine.connect state).2).value =
              .ok answer := by
            rw [Action.execute_send, hanswer]
            rfl
          rw [Run.value_andThen_ok hsent, Action.execute_bind, Action.execute_lift]
          cases hpage : r.mapper.answer answer with
          | error e => exact .inl ⟨e, Run.value_andThen_error rfl _⟩
          | ok page =>
              refine .inr ⟨_, answer, page, hanswer, hpage, ?_⟩
              rw [Run.value_andThen_ok rfl, Action.execute_pure]

/-- Reading a page fails and leaves the reader where it is, or the engine gives an answer with the items
of the page, and the reader moves behind it. -/
theorem run_turn (engine : Engine σ) (state : σ) (limit : UInt64) (request : Json) :
    (∃ e, ((r.turn limit request).run engine state).value = (.error e, r)) ∨
    ∃ s answer page, (engine.answer ⟨.search, request⟩ s).1 = .ok answer ∧
      r.mapper.answer answer = .ok page ∧
      ((r.turn limit request).run engine state).value =
        (.ok page, r.advance limit (hitCount answer)) := by
  rw [turn, Access.run_bind, ← Action.execute]
  obtain ⟨e, he⟩ | ⟨s, answer, page, hanswer, hpage, hfetch⟩ := r.execute_fetch engine state request
  · refine .inl ⟨e, ?_⟩
    simp only [he]
    rfl
  · refine .inr ⟨s, answer, page, hanswer, hpage, ?_⟩
    simp only [hfetch]
    rfl

end Reader

end SearchStore
