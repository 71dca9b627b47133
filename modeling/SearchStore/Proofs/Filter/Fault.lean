import SearchStore.Proofs.Filter.Compiled
import SearchStore.Proofs.Results

/-!
# Criteria without a clause

A criterion that is no list has a clause unless it is a phrase to search for, the comparison of an attribute with a
shape, or a spatial comparison that is not `in` or not with a shape. `Criteria.Fault` names these cases, each with
its error; it knows neither a configuration nor clauses.

A traversal of a forest fails with the first failure among its leaves (`failure?_traverse`), so the filter of a list
fails with the first fault at any depth (`filter_eq_error_iff`), and nothing that is gathered, merged or left out on
the way hides or adds one. `compile_eq_error_iff` says the same of whole queries, where the first criterion of the
search is looked at behind the filters.
-/

namespace SearchStore

/-- What keeps a criterion that is no list from having a clause. A spatial comparison is asked for its comparator
first. -/
inductive Criteria.Fault : Criteria → QueryError → Prop where
  | phrase (phrase path : String) : Fault (.search phrase path) (.unsupportedFilter .search)
  | shape (path : String) {comparison : Comparison} {shape : Geometry} :
      comparison.comparand = .geometry shape →
      Fault (.attribute path comparison) (.geometry path .spatialOnly)
  | comparator (path : String) {comparison : Comparison} :
      comparison.operator ≠ .isIn →
      Fault (.spatial path comparison) (.spatialOperator path comparison.operator)
  | comparand (path : String) {comparison : Comparison} :
      comparison.operator = .isIn → (∀ shape, comparison.comparand ≠ .geometry shape) →
      Fault (.spatial path comparison) (.geometry path .noGeometry)

/-- The criteria of a list that are no lists, at any depth, from left to right. -/
def CriteriaList.leaves (list : CriteriaList) : List Criteria :=
  (Forest.leaves list.forest).map (·.2)

/-- One of the criteria has a fault, and none in front of it has any. -/
def FirstFault (criteria : List Criteria) (e : QueryError) : Prop :=
  ∃ before leaf after, criteria = before ++ leaf :: after ∧ leaf.Fault e ∧
    ∀ other ∈ before, ∀ e', ¬ other.Fault e'

/-- **A traversal fails with its first leaf that fails.** -/
theorem failure?_traverse {α β ε : Type} (f : α → Except ε β) (ts : Forest α) :
    failure? (Forest.traverse f ts) = ((Forest.leaves ts).map (·.2)).findSome? fun a => failure? (f a) := by
  induction ts using Forest.induction with
  | nil => simp [Forest.traverse, Forest.leaves, failure?]
  | leaf a rest ih =>
    have hleaf := failure?_both (f a) (Forest.traverse f rest) fun b us => Tree.leaf b :: us
    rw [Forest.traverse, Forest.leaves, List.map_cons, List.findSome?_cons, ← ih]
    refine hleaf.trans ?_
    cases f a <;> rfl
  | node operator children rest ihc ih =>
    have hnode := failure?_both (Forest.traverse f children) (Forest.traverse f rest) fun ds us =>
      Tree.node operator ds :: us
    rw [Forest.traverse, Forest.leaves, List.map_append, List.findSome?_append, ← ih]
    refine hnode.trans ?_
    rw [ihc, List.map_map]
    rfl

/-! ### Faults of criteria -/

theorem Criteria.kind_ne_of_mem_leaves {items : List Criteria} :
    ∀ leaf ∈ (Forest.leaves (Forest.ofCriteria items)).map (·.2), leaf.kind ≠ .container := by
  induction items using Forest.ofCriteria.induct with
  | case1 => simp [Forest.ofCriteria, Forest.leaves]
  | case2 operator items rest ihc ih =>
    intro leaf hleaf
    rw [Forest.ofCriteria, Forest.leaves, List.map_append, List.map_map, List.mem_append] at hleaf
    rcases hleaf with hbelow | hbehind
    · exact ihc leaf hbelow
    · exact ih leaf hbehind
  | case3 first rest hfirst ih =>
    intro leaf hleaf
    rw [Forest.ofCriteria_leaf rest hfirst, Forest.leaves, List.map_cons, List.mem_cons] at hleaf
    rcases hleaf with rfl | hbehind
    · intro hkind
      cases leaf with
      | container operator items => exact hfirst operator items rfl
      | _ => cases hkind
    · exact ih leaf hbehind

theorem Clause.attributeClause_eq_error_iff (config : CriteriaConfig) (path : String) (comparison : Comparison)
    (e : QueryError) :
    Clause.attributeClause config path comparison = .error e ↔ (Criteria.attribute path comparison).Fault e := by
  obtain ⟨operator, comparand, inverted⟩ := comparison
  constructor
  · intro h
    cases comparand with
    | geometry shape =>
      cases h
      exact .shape path rfl
    | scalar value => cases h
    | list values => cases h
  · intro h
    cases h with
    | shape _ hshape =>
      cases hshape
      rfl

theorem Clause.spatialClause_eq_error_iff (path : String) (comparison : Comparison) (e : QueryError) :
    Clause.spatialClause path comparison = .error e ↔ (Criteria.spatial path comparison).Fault e := by
  obtain ⟨operator, comparand, inverted⟩ := comparison
  unfold spatialClause
  by_cases hin : operator = .isIn
  · rw [if_neg (not_not.mpr hin)]
    constructor
    · intro h
      cases comparand with
      | geometry shape => cases h
      | scalar value =>
        cases h
        exact .comparand path hin nofun
      | list values =>
        cases h
        exact .comparand path hin nofun
    · intro h
      cases h with
      | comparator _ hne => exact absurd hin hne
      | comparand _ _ hshape =>
        cases comparand with
        | geometry shape => exact absurd rfl (hshape shape)
        | scalar value => rfl
        | list values => rfl
  · rw [if_pos hin]
    constructor
    · intro h
      cases h
      exact .comparator path hin
    · intro h
      cases h with
      | comparator _ _ => rfl
      | comparand _ heq _ => exact absurd heq hin

theorem Clause.leafClause_eq_error_iff (config : CriteriaConfig) (e : QueryError) :
    ∀ leaf : Criteria, leaf.kind ≠ .container → (Clause.leafClause config leaf = .error e ↔ leaf.Fault e)
  | .attribute path comparison, _ => Clause.attributeClause_eq_error_iff config path comparison e
  | .spatial path comparison, _ => Clause.spatialClause_eq_error_iff path comparison e
  | .search phrase path, _ => by
    constructor
    · intro h
      cases h
      exact .phrase phrase path
    · intro h
      cases h
      rfl
  | .range _ _, _ => ⟨nofun, nofun⟩
  | .custom _, _ => ⟨nofun, nofun⟩
  | .container _ _, hkind => absurd rfl hkind

/-! ### Faults of lists -/

section
variable (config : CriteriaConfig)

theorem firstFault_iff {criteria : List Criteria} (hleaf : ∀ leaf ∈ criteria, leaf.kind ≠ .container)
    (e : QueryError) :
    (criteria.findSome? fun leaf => failure? (Clause.leafClause config leaf)) = some e ↔ FirstFault criteria e := by
  have hfault : ∀ leaf ∈ criteria, ∀ e',
      failure? (Clause.leafClause config leaf) = some e' ↔ leaf.Fault e' := by
    intro leaf hmem e'
    rw [failure?_eq_some_iff, Clause.leafClause_eq_error_iff config e' leaf (hleaf leaf hmem)]
  rw [List.findSome?_eq_some_iff]
  unfold FirstFault
  constructor
  · rintro ⟨before, leaf, after, rfl, hfails, hbefore⟩
    refine ⟨before, leaf, after, rfl, (hfault leaf (by simp) e).mp hfails, ?_⟩
    intro other hother e' hother'
    have hsome := (hfault other (by simp [hother]) e').mpr hother'
    rw [hbefore other hother] at hsome
    cases hsome
  · rintro ⟨before, leaf, after, rfl, hleaf', hbefore⟩
    refine ⟨before, leaf, after, rfl, (hfault leaf (by simp) e).mpr hleaf', ?_⟩
    intro other hother
    rw [Option.eq_none_iff_forall_ne_some]
    intro e' hsome
    exact hbefore other hother e' ((hfault other (by simp [hother]) e').mp hsome)

theorem failure?_filter (list : CriteriaList) :
    failure? (Clause.filter config list) =
      list.leaves.findSome? fun leaf => failure? (Clause.leafClause config leaf) := by
  rw [Clause.filter_eq_group, failure?_map, failure?_traverse]
  rfl

/-- The filter of a list fails with the first fault in it. -/
theorem filter_eq_error_iff (list : CriteriaList) (e : QueryError) :
    Clause.filter config list = .error e ↔ FirstFault list.leaves e := by
  have hleaf : ∀ leaf ∈ list.leaves, leaf.kind ≠ .container := Criteria.kind_ne_of_mem_leaves
  rw [← failure?_eq_some_iff, failure?_filter, firstFault_iff config hleaf]

end

theorem exists_firstFault_iff (criteria : List Criteria) :
    (∃ e, FirstFault criteria e) ↔ ∃ leaf ∈ criteria, ∃ e, leaf.Fault e := by
  constructor
  · rintro ⟨e, before, leaf, after, rfl, hfault, -⟩
    exact ⟨leaf, by simp, e, hfault⟩
  · rintro ⟨leaf, hmem, hfault⟩
    induction criteria with
    | nil => cases hmem
    | cons first rest ih =>
      by_cases hfirst : ∃ e, first.Fault e
      · obtain ⟨e, he⟩ := hfirst
        exact ⟨e, [], first, rest, rfl, he, nofun⟩
      · have hrest : leaf ∈ rest := by
          rcases List.mem_cons.mp hmem with rfl | hrest
          · exact absurd hfault hfirst
          · exact hrest
        obtain ⟨e, before, other, after, rfl, hother, hbefore⟩ := ih hrest
        refine ⟨e, first :: before, other, after, rfl, hother, ?_⟩
        rintro another (_ | ⟨_, hanother⟩) e' hfault'
        · exact hfirst ⟨e', hfault'⟩
        · exact hbefore another hanother e' hfault'

/-! ### Faults of queries -/

/-- The configured filters always have clauses, so a query has the faults of its own filters. -/
theorem failure?_allFilters (c : CriteriaCompiler) (q : CriteriaQuery) :
    failure? (Clause.filter c.config (c.allFilters q)) = failure? (Clause.filter c.config q.filters) := by
  have hleaves : (c.allFilters q).leaves = q.filters.leaves ++ CriteriaCompiler.configuredFilters c.config := by
    have hconfigured : ∀ criteria : List Criteria,
        (Forest.leaves (criteria.map .leaf)).map (·.2) = criteria := by
      intro criteria
      induction criteria with
      | nil => simp [Forest.leaves]
      | cons first rest ih => simpa [Forest.leaves] using ih
    unfold CriteriaList.leaves CriteriaList.forest CriteriaCompiler.allFilters
    rw [Forest.ofCriteria_append, CriteriaCompiler.ofCriteria_configuredFilters, Forest.leaves_append,
      List.map_append, hconfigured]
  have hnone : (CriteriaCompiler.configuredFilters c.config).findSome?
      (fun leaf => failure? (Clause.leafClause c.config leaf)) = none := by
    rw [List.findSome?_eq_none_iff]
    intro leaf hleaf
    obtain ⟨⟨path, value⟩, -, rfl⟩ := List.mem_map.mp hleaf
    obtain ⟨clause, hclause⟩ := CriteriaCompiler.leafClause_equals c.config path value
    rw [hclause]
    rfl
  rw [failure?_filter, failure?_filter, hleaves, List.findSome?_append, hnone, Option.or_none]

theorem searchClause_eq_error_iff (config : CriteriaConfig) (pattern : Pattern) (items : List Criteria)
    (e : QueryError) :
    Clause.searchClause config pattern items = .error e ↔
      ∃ first rest, items = first :: rest ∧ first.kind ≠ .search ∧ e = .unsupportedSearch first.kind := by
  cases items with
  | nil => exact ⟨nofun, nofun⟩
  | cons first rest =>
    cases first with
    | search phrase path =>
      constructor
      · nofun
      · rintro ⟨_, _, hitems, hkind, -⟩
        cases hitems
        exact absurd rfl hkind
    | _ =>
      constructor
      · intro h
        cases h
        exact ⟨_, rest, rfl, nofun, rfl⟩
      · rintro ⟨_, _, hitems, -, rfl⟩
        cases hitems
        rfl

/-- **Why a query is refused.** The filter of a list fails exactly if some criterion in it, at any depth, has a
fault, and the error is that of the first one from left to right. A query fails with the first fault of its own
filters; without any, it fails exactly if its search starts with a criterion that is no phrase. -/
theorem compile_eq_error_iff (c : CriteriaCompiler) :
    (∀ list : CriteriaList,
      ((∃ e, Clause.filter c.config list = .error e) ↔ ∃ leaf ∈ list.leaves, ∃ e, leaf.Fault e) ∧
      ∀ e, Clause.filter c.config list = .error e ↔ FirstFault list.leaves e) ∧
    ∀ (q : CriteriaQuery) (e : QueryError), c.compile (.criteria q) = .error e ↔
      FirstFault q.filters.leaves e ∨
        (¬ ∃ leaf ∈ q.filters.leaves, ∃ e', leaf.Fault e') ∧
          ∃ first rest, q.search.items = first :: rest ∧ first.kind ≠ .search ∧
            e = .unsupportedSearch first.kind := by
  have hfilter := filter_eq_error_iff c.config
  constructor
  · intro list
    refine ⟨?_, hfilter list⟩
    rw [← exists_firstFault_iff]
    simp only [hfilter]
  · intro q e
    have hparts := failure?_both (Clause.filter c.config (c.allFilters q))
      (Clause.searchClause c.config c.pattern q.search.items) fun filter search =>
        c.request q (CriteriaCompiler.restrict search filter)
    have hcompile : failure? (c.compile (.criteria q)) =
        (failure? (Clause.filter c.config q.filters)).or
          (failure? (Clause.searchClause c.config c.pattern q.search.items)) := by
      rw [← failure?_allFilters, c.compile_eq]
      exact hparts
    rw [← failure?_eq_some_iff, hcompile, Option.or_eq_some_iff, failure?_eq_some_iff, failure?_eq_some_iff, hfilter,
      searchClause_eq_error_iff, ← exists_firstFault_iff]
    have hnone : failure? (Clause.filter c.config q.filters) = none ↔ ¬ ∃ e', FirstFault q.filters.leaves e' := by
      simp only [Option.eq_none_iff_forall_ne_some, ne_eq, failure?_eq_some_iff, hfilter, not_exists]
    rw [hnone]

-- The comparison below the alternatives comes before the phrase, and its comparator before its comparand.
example :
    Clause.filter {}
      ⟨.and,
        [.container .or [.custom .null, .spatial "place" ⟨.equals, .scalar .null, false⟩],
          .search "dune" ""]⟩ =
      .error (.spatialOperator "place" .equals) := by cbv

end SearchStore
