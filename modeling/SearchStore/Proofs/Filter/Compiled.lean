import SearchStore.Compiler
import SearchStore.Proofs.Filter.Grouping

/-!
# Compiled queries

The configured filters stand behind those of a query in one list, and always have clauses, so they are the
last entries of its filter. `compile_ok_iff` says what a compiled query is in terms of the grouped forest of
its own filters, and `queryClause` is its query: a `bool` clause as soon as there is any entry, and the
clause of the search otherwise, which is no `bool` clause itself (`get?_bool_searchClause`).

`filter_grouped` puts this together with `leavesAt_group`.
-/

namespace SearchStore

open Clause (joined joinedOrEmpty leafClause)
open Forest (group hasLeaf leaves leavesAt Replaced)

namespace CriteriaCompiler

/-! ### Configured filters -/

theorem leafClause_equals (config : CriteriaConfig) (path : String) (value : Json) :
    ∃ clause, leafClause config (.attribute path (.equals value)) = .ok clause := by
  cases value <;> exact ⟨_, rfl⟩

/-- The clauses are those of the configured filters, in order. -/
def Configured (config : CriteriaConfig) (clauses : List Json) : Prop :=
  List.Forall₂ (fun filter clause => leafClause config filter = .ok clause) (configuredFilters config)
    clauses

theorem exists_configured (config : CriteriaConfig) : ∃ clauses, Configured config clauses := by
  simp only [Configured, configuredFilters]
  induction config.queryFilters with
  | nil => exact ⟨[], .nil⟩
  | cons entry rest ih =>
    obtain ⟨path, value⟩ := entry
    obtain ⟨clause, hclause⟩ := leafClause_equals config path value
    obtain ⟨clauses, hclauses⟩ := ih
    exact ⟨clause :: clauses, .cons hclause hclauses⟩

theorem Configured.eq_nil_iff {config : CriteriaConfig} {clauses : List Json}
    (h : Configured config clauses) : clauses = [] ↔ config.queryFilters = [] := by
  have hlength := h.length_eq
  rw [configuredFilters, List.length_map] at hlength
  rw [← List.length_eq_zero_iff, ← hlength, List.length_eq_zero_iff]

theorem ofCriteria_configuredFilters (config : CriteriaConfig) :
    Forest.ofCriteria (configuredFilters config) = (configuredFilters config).map .leaf := by
  rw [configuredFilters]
  induction config.queryFilters with
  | nil => simp [Forest.ofCriteria]
  | cons entry rest ih => simpa [Forest.ofCriteria] using ih

theorem filter_allFilters_ok_iff (c : CriteriaCompiler) (q : CriteriaQuery) (f : Json) :
    Clause.filter c.config (c.allFilters q) = .ok f ↔
      ∃ ts statics, Forest.traverse (leafClause c.config) q.filters.forest = .ok ts ∧
        Configured c.config statics ∧
        f = joinedOrEmpty q.filters.operator ((group ts).clauses ++ statics) := by
  have hforest : (c.allFilters q).forest =
      q.filters.forest ++ (configuredFilters c.config).map .leaf := by
    rw [CriteriaList.forest, allFilters, Forest.ofCriteria_append, ofCriteria_configuredFilters]
    rfl
  have hclauses : ∀ (ts : Forest Json) (statics : List Json),
      (group (ts ++ statics.map .leaf)).clauses = (group ts).clauses ++ statics := by
    intro ts statics
    rw [Forest.group_append_leaves, Forest.clauses_append, Forest.clauses_leaves]
  rw [Clause.filter_eq_ok_iff, hforest]
  simp only [Forest.traverse_eq_ok_iff]
  constructor
  · rintro ⟨us, hus, rfl⟩
    obtain ⟨ts, vs, rfl, hts, hvs⟩ := hus.of_append
    obtain ⟨statics, rfl, hstatics⟩ := Replaced.leaves_iff.mp hvs
    exact ⟨ts, statics, hts, hstatics, by rw [hclauses]; rfl⟩
  · rintro ⟨ts, statics, hts, hstatics, rfl⟩
    refine ⟨ts ++ statics.map .leaf, hts.append (Replaced.leaves_iff.mpr ⟨statics, rfl, hstatics⟩), ?_⟩
    rw [hclauses]
    rfl

/-! ### Compiled queries -/

/-- The `query` of a request whose filters have the entries `entries`. -/
def queryClause (operator : Connective) (search : Json) (entries : List Json) : Json :=
  if entries.isEmpty then search
  else .object [("bool", .object [("must", search), ("filter", joined operator entries)])]

theorem restrict_joinedOrEmpty (operator : Connective) (search : Json) (entries : List Json) :
    restrict search (joinedOrEmpty operator entries) = queryClause operator search entries := by
  rw [restrict, joinedOrEmpty, queryClause]
  by_cases h : entries.isEmpty
  · simp [h]
  · simp [h, Clause.joined_ne_empty]

/-- The keys of search clauses. -/
def searchKeys : List String := ["match_all", "match", "match_phrase_prefix"]

theorem searchClause_entry {config : CriteriaConfig} {pattern : Pattern} {items : List Criteria}
    {search : Json} (h : Clause.searchClause config pattern items = .ok search) :
    ∃ key ∈ searchKeys, ∃ value, search = .object [(key, value)] := by
  match items, h with
  | [], h =>
    cases h
    exact ⟨"match_all", by simp [searchKeys], _, rfl⟩
  | .search phrase path :: _, h =>
    cases h
    rw [Clause.phraseClause]
    split
    · exact ⟨"match_phrase_prefix", by simp [searchKeys], _, rfl⟩
    · exact ⟨"match", by simp [searchKeys], _, rfl⟩

theorem get?_bool_searchClause {config : CriteriaConfig} {pattern : Pattern} {items : List Criteria}
    {search : Json} (h : Clause.searchClause config pattern items = .ok search) :
    search.get? "bool" = none := by
  obtain ⟨key, hkey, value, rfl⟩ := searchClause_entry h
  have hne : key ≠ "bool" := by
    rintro rfl
    simp [searchKeys] at hkey
  simp [Json.get?, Assoc.get?, hne]

/-- The request for a page of a query. -/
def request (c : CriteriaCompiler) (q : CriteriaQuery) (query : Json) : Json :=
  .object
    [("from", .natural q.offset), ("size", .natural q.limit),
      ("body", .object [("query", query), ("sort", .array (q.sort.map c.sortEntry))])]

theorem path?_request (c : CriteriaCompiler) (q : CriteriaQuery) (query : Json) :
    (c.request q query).path? ["body", "query"] = some query := by
  simp [request, Json.path?, Json.get?, Assoc.get?]

theorem compile_eq (c : CriteriaCompiler) (q : CriteriaQuery) :
    c.compile (.criteria q) =
      (Clause.filter c.config (c.allFilters q)).bind fun filter =>
        (Clause.searchClause c.config c.pattern q.search.items).map fun search =>
          c.request q (restrict search filter) := by
  rw [compile, body]
  cases Clause.filter c.config (c.allFilters q) with
  | error e => rfl
  | ok filter =>
      cases Clause.searchClause c.config c.pattern q.search.items with
      | error e => rfl
      | ok search => rfl

theorem compile_ok_iff (c : CriteriaCompiler) (q : CriteriaQuery) (p : Json) :
    c.compile (.criteria q) = .ok p ↔
      ∃ ts statics search, Forest.traverse (leafClause c.config) q.filters.forest = .ok ts ∧
        Configured c.config statics ∧
        Clause.searchClause c.config c.pattern q.search.items = .ok search ∧
        p = c.request q (queryClause q.filters.operator search ((group ts).clauses ++ statics)) := by
  rw [compile_eq]
  constructor
  · intro h
    cases hf : Clause.filter c.config (c.allFilters q) with
    | error e => simp [hf, Except.bind] at h
    | ok f =>
        cases hs : Clause.searchClause c.config c.pattern q.search.items with
        | error e => simp [hf, hs, Except.bind, Except.map] at h
        | ok search =>
            obtain ⟨ts, statics, hts, hstatics, rfl⟩ := (c.filter_allFilters_ok_iff q f).mp hf
            simp only [hf, hs, Except.bind, Except.map, Except.ok.injEq, restrict_joinedOrEmpty] at h
            exact ⟨ts, statics, search, hts, hstatics, rfl, h.symm⟩
  · rintro ⟨ts, statics, search, hts, hstatics, hs, rfl⟩
    have hf := (c.filter_allFilters_ok_iff q _).mpr ⟨ts, statics, hts, hstatics, rfl⟩
    simp only [hf, hs, Except.bind, Except.map, restrict_joinedOrEmpty]

theorem compile_leaf (c : CriteriaCompiler) (q : CriteriaQuery) {leaf : Criteria}
    {clause search : Json} {statics : List Json} (hitems : q.filters.items = [leaf])
    (hleaf : leafClause c.config leaf = .ok clause) (hstatics : Configured c.config statics)
    (hs : Clause.searchClause c.config c.pattern q.search.items = .ok search) :
    c.compile (.criteria q) =
      .ok (c.request q (queryClause q.filters.operator search (clause :: statics))) := by
  have hts : Replaced (leafClause c.config) q.filters.forest [.leaf clause] := by
    rw [CriteriaList.forest, hitems, Clause.ofCriteria_cons hleaf, Forest.ofCriteria]
    exact .leaf hleaf .nil
  have hgroup : (group [.leaf clause]).clauses = [clause] := by
    simp [group, Forest.groupBelow, Forest.collect, Forest.clauses]
  rw [c.compile_ok_iff q]
  exact ⟨_, statics, search, Forest.traverse_eq_ok_iff.mpr hts, hstatics, hs, by rw [hgroup]; rfl⟩

theorem queryClause_append_eq {config : CriteriaConfig} {ts : Forest Json} {statics : List Json}
    (h : Configured config statics) (operator : Connective) (search : Json) :
    queryClause operator search ((group ts).clauses ++ statics) =
      if hasLeaf ts ∨ config.queryFilters ≠ [] then
        .object
          [("bool",
            .object
              [("must", search), ("filter", joined operator ((group ts).clauses ++ statics))])]
      else search := by
  have hempty : ((group ts).clauses ++ statics).isEmpty ↔
      ¬ (hasLeaf ts ∨ config.queryFilters ≠ []) := by
    simp [Forest.clauses_eq_nil_iff, Forest.group_eq_nil_iff, h.eq_nil_iff]
  rw [queryClause]
  by_cases hentry : hasLeaf ts ∨ config.queryFilters ≠ []
  · rw [if_pos hentry, if_neg (fun he => hempty.mp he hentry)]
  · rw [if_neg hentry, if_pos (hempty.mpr hentry)]

end CriteriaCompiler

open CriteriaCompiler

/-- **Filters are grouped forests.** The filter of a list has the entries of its grouped forest, in which
each leaf stands once, below the operators that it stands below in the list, and behind the same leaves of
those operators. In a compiled query the entries of the configured filters are the last ones, in order,
and there is a `bool` clause exactly if there is a leaf or a configured filter. -/
theorem filter_grouped (c : CriteriaCompiler) :
    (∀ (list : CriteriaList) (f : Json), Clause.filter c.config list = .ok f →
      ∃ ts, Forest.traverse (leafClause c.config) list.forest = .ok ts ∧
        (f = Json.empty ↔ hasLeaf list.forest = false) ∧
        (hasLeaf list.forest → f = joined list.operator (group ts).clauses) ∧
        List.Forall₂ (fun leaf entry => leaf.1 = entry.1 ∧ leafClause c.config leaf.2 = .ok entry.2)
          (leaves list.forest) (leaves ts) ∧
        (leaves (group ts)).Perm (leaves ts) ∧
        ∀ chain, leavesAt chain (group ts) = leavesAt chain ts) ∧
    ∀ (q : CriteriaQuery) (p : Json), c.compile (.criteria q) = .ok p →
      ∃ ts statics search, Forest.traverse (leafClause c.config) q.filters.forest = .ok ts ∧
        Configured c.config statics ∧
        Clause.searchClause c.config c.pattern q.search.items = .ok search ∧
        search.get? "bool" = none ∧
        p.path? ["body", "query"] = some
          (if hasLeaf q.filters.forest ∨ c.config.queryFilters ≠ [] then
            .object
              [("bool",
                .object
                  [("must", search),
                    ("filter", joined q.filters.operator ((group ts).clauses ++ statics))])]
          else search) := by
  constructor
  · intro list f hf
    obtain ⟨ts, hts, rfl⟩ := Clause.filter_eq_ok_iff.mp hf
    have hleaf : hasLeaf ts = hasLeaf list.forest := hts.hasLeaf
    refine ⟨ts, Forest.traverse_eq_ok_iff.mpr hts, ?_, ?_, hts.leaves, ?_, ?_⟩
    · rw [Clause.joinedOrEmpty_group_eq_empty_iff, hleaf]
    · intro h
      rw [Clause.joinedOrEmpty_group _ (hleaf.trans h)]
    · exact Forest.perm_leaves fun chain => Forest.leavesAt_group chain ts
    · exact fun chain => Forest.leavesAt_group chain ts
  · intro q p hp
    obtain ⟨ts, statics, search, hts, hstatics, hs, rfl⟩ := (c.compile_ok_iff q p).mp hp
    refine ⟨ts, statics, search, hts, hstatics, hs, get?_bool_searchClause hs, ?_⟩
    rw [path?_request, queryClause_append_eq hstatics, (Forest.traverse_eq_ok_iff.mp hts).hasLeaf]

/-- Alternatives with several lists of each operator, also inside of a list, and configured filters: the lists of an
operator stand together with the first one that has a leaf, and lists without a leaf leave nothing behind. -/
theorem filter_grouped_alternatives :
    let c : CriteriaCompiler :=
      ⟨{ queryFilters := [("status", .string "published"), ("year", .natural 1965)] }, .never⟩
    let list : CriteriaList :=
      ⟨.or,
        [.container .and [], .custom (.string "de"),
          .container .and
            [.container .or [.custom (.string "print")], .custom (.string "new"),
              .container .or [.container .and [], .custom (.string "audio")]],
          .container .or [.custom (.string "en"), .container .and [.custom (.string "old")]],
          .custom (.string "fr"),
          .container .and [.container .or [], .custom (.string "sold"), .container .or [.custom (.string "film")]],
          .container .or [.custom (.string "it")]]⟩
    let entries : List Json :=
      [.string "de",
        joined .and
          [joined .or [.string "print", .string "audio"], .string "new", .string "sold",
            joined .or [.string "film"]],
        joined .or [.string "en", joined .and [.string "old"], .string "it"], .string "fr"]
    let q : CriteriaQuery := { filters := list, offset := 0, limit := 10 }
    Clause.filter c.config list = .ok (joined .or entries) ∧
    ∃ p search statics, c.compile (.criteria q) = .ok p ∧ Configured c.config statics ∧
      p.path? ["body", "query"] = some
        (.object
          [("bool",
            .object [("must", search), ("filter", joined .or (entries ++ statics))])]) := by
  intro c list entries q
  let clauses : Forest Json :=
    [.node .and [], .leaf (.string "de"),
      .node .and
        [.node .or [.leaf (.string "print")], .leaf (.string "new"),
          .node .or [.node .and [], .leaf (.string "audio")]],
      .node .or [.leaf (.string "en"), .node .and [.leaf (.string "old")]],
      .leaf (.string "fr"),
      .node .and [.node .or [], .leaf (.string "sold"), .node .or [.leaf (.string "film")]],
      .node .or [.leaf (.string "it")]]
  have htraverse : Forest.traverse (leafClause c.config) list.forest = .ok clauses := by
    simp [list, clauses, CriteriaList.forest, Forest.ofCriteria, Forest.traverse, leafClause, bind, Except.bind]
  have hleaf : hasLeaf list.forest := by simp [list, CriteriaList.forest, Forest.ofCriteria, hasLeaf]
  have hgroup : (group clauses).clauses = entries := by
    simp [clauses, entries, group, Forest.groupBelow, Forest.collect, Forest.under, Forest.clauses]
  constructor
  · have hf := Clause.filter_eq_ok_iff.mpr ⟨clauses, Forest.traverse_eq_ok_iff.mp htraverse, rfl⟩
    obtain ⟨ts, hts, _, hfilter, _⟩ := (filter_grouped c).1 list _ hf
    obtain rfl : clauses = ts := Except.ok.inj (htraverse.symm.trans hts)
    rw [hf, hfilter hleaf, hgroup]
  · obtain ⟨statics, hstatics⟩ := exists_configured c.config
    have hp := (c.compile_ok_iff q _).mpr ⟨clauses, statics, _, htraverse, hstatics, rfl, rfl⟩
    obtain ⟨ts, statics', search, hts, hstatics', _, _, hquery⟩ := (filter_grouped c).2 q _ hp
    obtain rfl : clauses = ts := Except.ok.inj (htraverse.symm.trans hts)
    refine ⟨_, search, statics', hp, hstatics', ?_⟩
    rw [hquery, if_pos (.inl hleaf), hgroup]

end SearchStore
