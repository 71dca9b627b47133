import SearchStore.Proofs.Filter.Compiled
import SearchStore.Proofs.Filter.Reading

/-!
# Restriction by configured filters

A compiled query enforces the configured filters if every document it matches satisfies all of them, under
every reading of its clauses. The configured filters stand in the list of the caller, so they restrict a
query whose list is joined by `and`, and are alternatives in one joined by `or`. `enforces_iff` says when
they are enforced nevertheless: they are all the same, and what the caller asks for implies them. That no
two different ones imply each other is shown by a reading that tells them apart (`exists_reading_of_ne`).
-/

namespace SearchStore

open Clause (joined joinedOrEmpty leafClause underNot)
open CriteriaCompiler (Configured queryClause configuredFilters searchKeys searchClause_entry)
open Forest (group Replaced)

/-- Every document that the query matches satisfies each of the clauses. -/
def Enforces (query : Json) (clauses : List Json) : Prop :=
  ∀ (δ : Type) (r : EngineReading δ) (d : δ), r.Holds query d → ∀ clause ∈ clauses, r.Holds clause d

/-- Every document that satisfies the first two clauses satisfies the third. -/
def Entails (search own clause : Json) : Prop :=
  ∀ (δ : Type) (r : EngineReading δ) (d : δ), r.Holds search d → r.Holds own d → r.Holds clause d

/-! ### Telling clauses apart -/

/-- The keys of comparisons with a value. -/
def comparisonKeys : List String := ["term", "terms", "missing"]

theorem not_mem_joiningKeys {key : String} (h : key ∈ searchKeys ∨ key ∈ comparisonKeys) :
    key ∉ joiningKeys := by
  have hall : ∀ key ∈ searchKeys ++ comparisonKeys, key ∉ joiningKeys := by decide
  exact hall key (List.mem_append.mpr h)

/-- A comparison with a value, possibly negated. -/
def IsComparison (clause : Json) : Prop :=
  ∃ negated, ∃ key ∈ comparisonKeys, ∃ operand, clause = underNot negated (.object [(key, operand)])

theorem isComparison_equals {config : CriteriaConfig} {path : String} {value clause : Json}
    (h : leafClause config (.attribute path (.equals value)) = .ok clause) : IsComparison clause := by
  rw [leafClause, Clause.attributeClause] at h
  cases hv : (Comparison.equals value).comparand with
  | scalar operand =>
      rw [hv] at h
      simp only [Except.ok.injEq] at h
      split at h
      · exact ⟨_, "missing", by simp [comparisonKeys], _, h.symm⟩
      · exact ⟨_, "term", by simp [comparisonKeys], _, h.symm⟩
  | list values =>
      rw [hv] at h
      exact ⟨_, "terms", by simp [comparisonKeys], _, (Except.ok.inj h).symm⟩
  | geometry shape =>
      rw [hv] at h
      cases h

theorem CriteriaCompiler.Configured.isComparison {config : CriteriaConfig} {clauses : List Json}
    (h : Configured config clauses) : ∀ clause ∈ clauses, IsComparison clause := by
  rw [Configured, configuredFilters, List.forall₂_map_left_iff] at h
  generalize config.queryFilters = fields at h
  induction h with
  | nil => simp
  | cons hclause _ ih => simpa using ⟨isComparison_equals hclause, ih⟩

/-- Under some reading a search and a comparison hold of a document, and another comparison does not. -/
theorem exists_reading_of_ne {search holding failing : Json}
    (hsearch : ∃ key ∈ searchKeys, ∃ value, search = .object [(key, value)])
    (hholding : IsComparison holding) (hfailing : IsComparison failing) (hne : holding ≠ failing) :
    ∃ r : EngineReading Unit, r.Holds search () ∧ r.Holds holding () ∧ ¬ r.Holds failing () := by
  obtain ⟨ks, hks, value, rfl⟩ := hsearch
  obtain ⟨negated, k, hk, operand, rfl⟩ := hholding
  obtain ⟨negated', k', hk', operand', rfl⟩ := hfailing
  let search : Json := .object [(ks, value)]
  let holding : Json := underNot negated (.object [(k, operand)])
  let failing : Json := underNot negated' (.object [(k', operand')])
  let r : EngineReading Unit := .ofAtoms fun clause _ =>
    clause = search ∨ clause = holding ∨ underNot true clause = failing
  have hentry : ∀ {key : String}, key ∈ searchKeys ∨ key ∈ comparisonKeys → ∀ v,
      r.Holds (.object [(key, v)]) () ↔
        .object [(key, v)] = search ∨ .object [(key, v)] = holding ∨
          underNot true (.object [(key, v)]) = failing := by
    intro key h v
    exact truth_entry (not_mem_joiningKeys h) v _
  have hkeys : ∀ key, key ∈ comparisonKeys → key ≠ ks ∧ key ≠ "not" := by
    intro key h
    simp only [searchKeys, comparisonKeys, List.mem_cons, List.not_mem_nil, or_false] at h hks
    rcases h with rfl | rfl | rfl <;> rcases hks with rfl | rfl | rfl <;> decide
  refine ⟨r, (hentry (.inl hks) value).mpr (.inl rfl), ?_, ?_⟩
  · cases negated with
    | false => exact (hentry (.inr hk) operand).mpr (.inr (.inl rfl))
    | true =>
        rw [underNot, if_pos rfl, r.holds_not, hentry (.inr hk)]
        rintro (h | h | h)
        · simp [search, (hkeys k hk).1] at h
        · simp [holding, underNot, (hkeys k hk).2] at h
        · exact hne h
  · cases negated' with
    | false =>
        rw [underNot, if_neg (by decide), hentry (.inr hk')]
        rintro (h | h | h)
        · simp [search, (hkeys k' hk').1] at h
        · exact hne h.symm
        · simp [failing, underNot, (hkeys k' hk').2.symm] at h
    | true =>
        rw [underNot, if_pos rfl, r.holds_not, not_not, hentry (.inr hk')]
        exact .inr (.inr rfl)

/-! ### Enforcement -/

theorem holds_queryClause {δ : Type} (r : EngineReading δ) (operator : Connective) (search : Json)
    {entries : List Json} (h : entries ≠ []) (d : δ) :
    r.Holds (queryClause operator search entries) d ↔
      r.Holds search d ∧ r.Holds (joined operator entries) d := by
  rw [queryClause, if_neg (by simpa using h), r.holds_bool]

/-- Clauses that are joined to the others of a query are enforced. -/
theorem enforces_and (search : Json) (entries statics : List Json) :
    Enforces (queryClause .and search (entries ++ statics)) statics := by
  intro δ r d hquery clause hmem
  have hne : entries ++ statics ≠ [] := List.append_ne_nil_of_right_ne_nil _ (List.ne_nil_of_mem hmem)
  rw [holds_queryClause r .and search hne, r.holds_and] at hquery
  exact hquery.2 clause (List.mem_append_right _ hmem)

/-- Clauses that are alternatives are enforced if they are all the same one and each other alternative
implies it. -/
theorem enforces_or_iff {search : Json} (entries : List Json) {statics : List Json}
    (hsearch : ∃ key ∈ searchKeys, ∃ value, search = .object [(key, value)])
    (hstatics : ∀ clause ∈ statics, IsComparison clause) :
    Enforces (queryClause .or search (entries ++ statics)) statics ↔
      (∀ clause ∈ statics, ∀ other ∈ statics, clause = other) ∧
      (joinedOrEmpty .or entries ≠ Json.empty →
        ∀ clause ∈ statics, Entails search (joinedOrEmpty .or entries) clause) := by
  constructor
  · intro h
    refine ⟨?_, ?_⟩
    · intro clause hclause other hother
      by_contra hne
      obtain ⟨r, hr, hholds, hfails⟩ :=
        exists_reading_of_ne hsearch (hstatics clause hclause) (hstatics other hother) hne
      refine hfails (h Unit r () ?_ other hother)
      have hmem : clause ∈ entries ++ statics := List.mem_append_right _ hclause
      rw [holds_queryClause r .or search (List.ne_nil_of_mem hmem), r.holds_or]
      exact ⟨hr, clause, hmem, hholds⟩
    · intro hown clause hclause δ r d hr hentries
      have hne : entries ≠ [] := by
        rintro rfl
        simp [joinedOrEmpty] at hown
      rw [joinedOrEmpty, if_neg (by simpa using hne)] at hentries
      refine h δ r d ?_ clause hclause
      rw [holds_queryClause r .or search (List.append_ne_nil_of_left_ne_nil hne _),
        r.holds_joined_append]
      exact ⟨hr, .inl hentries⟩
  · rintro ⟨hsame, himplied⟩ δ r d hquery clause hclause
    have hne : entries ++ statics ≠ [] :=
      List.append_ne_nil_of_right_ne_nil _ (List.ne_nil_of_mem hclause)
    rw [holds_queryClause r .or search hne, r.holds_joined_append] at hquery
    obtain ⟨hr, hentries | hother⟩ := hquery
    · have hentry : entries ≠ [] := by
        rintro rfl
        simp [r.holds_or] at hentries
      have hown : joinedOrEmpty .or entries = joined .or entries := by
        rw [joinedOrEmpty, if_neg (by simpa using hentry)]
      rw [hown] at himplied
      exact himplied (Clause.joined_ne_empty _ _) clause hclause δ r d hr hentries
    · rw [r.holds_or] at hother
      obtain ⟨other, hmem, hholds⟩ := hother
      rwa [hsame clause hclause other hmem]

/-- **When configured filters are enforced.** A compiled query enforces them exactly if the list of its
filters is joined by `and`, or if they are all the same clause and the filter of the query, unless it is
empty, implies that clause together with the search. -/
theorem enforces_iff (c : CriteriaCompiler) (q : CriteriaQuery) (p : Json)
    (h : c.compile (.criteria q) = .ok p) :
    ∃ query search own statics, p.path? ["body", "query"] = some query ∧
      Clause.searchClause c.config c.pattern q.search.items = .ok search ∧
      Clause.filter c.config q.filters = .ok own ∧ Configured c.config statics ∧
      (Enforces query statics ↔
        q.filters.operator = .and ∨
          (∀ clause ∈ statics, ∀ other ∈ statics, clause = other) ∧
          (own ≠ Json.empty → ∀ clause ∈ statics, Entails search own clause)) := by
  obtain ⟨ts, statics, search, hts, hstatics, hs, rfl⟩ := (c.compile_ok_iff q p).mp h
  have hown := Clause.filter_eq_ok_iff.mpr ⟨ts, Forest.traverse_eq_ok_iff.mp hts, rfl⟩
  refine ⟨_, search, _, statics, CriteriaCompiler.path?_request c q _, hs, hown, hstatics, ?_⟩
  cases hop : q.filters.operator with
  | and => simpa using enforces_and search (group ts).clauses statics
  | or =>
      rw [enforces_or_iff _ (searchClause_entry hs) hstatics.isComparison]
      simp

/-- A list joined by `and` beside a configured filter. -/
theorem enforces_published :
    let c : CriteriaCompiler := ⟨{ queryFilters := [("status", .string "published")] }, .never⟩
    let q : CriteriaQuery :=
      { filters := ⟨.and, [.attribute "language" (.equals (.string "de"))]⟩, offset := 0, limit := 10 }
    ∃ p query statics, c.compile (.criteria q) = .ok p ∧ p.path? ["body", "query"] = some query ∧
      Configured c.config statics ∧ Enforces query statics := by
  intro c q
  obtain ⟨statics, hstatics⟩ := CriteriaCompiler.exists_configured c.config
  have hp := c.compile_leaf q rfl rfl hstatics rfl
  obtain ⟨query, _, _, statics', hquery, _, _, hstatics', henforces⟩ := enforces_iff c q _ hp
  exact ⟨_, query, statics', hp, hquery, hstatics', henforces.mpr (.inl rfl)⟩

/-- A list of alternatives beside a configured filter: documents that are not published match. -/
theorem not_enforces_published :
    ∃ c p query statics,
      CriteriaCompiler.ofConfig { queryFilters := [("status", .string "published")] } = .ok c ∧
      c.compile
        (.criteria
          { filters := ⟨.or, [.attribute "language" (.equals (.string "de"))]⟩,
            offset := 0, limit := 10 }) = .ok p ∧
      p.path? ["body", "query"] = some query ∧ Configured c.config statics ∧
      ¬ Enforces query statics := by
  let config : CriteriaConfig := { queryFilters := [("status", .string "published")] }
  let language : Criteria := .attribute "language" (.equals (.string "de"))
  let german : Json := Clause.termClause config "language" (.string "de")
  let published : Json := Clause.termClause config "status" (.string "published")
  let q : CriteriaQuery := { filters := ⟨.or, [language]⟩, offset := 0, limit := 10 }
  have hparse : (CriteriaCompiler.ofConfig config).toOption.isSome := by decide +kernel
  obtain ⟨pattern, hpattern⟩ : ∃ pattern, CriteriaCompiler.ofConfig config = .ok ⟨config, pattern⟩ := by
    rw [CriteriaCompiler.ofConfig] at hparse ⊢
    cases hresult : Pattern.parse config.suggestPattern with
    | error e => simp [hresult, Except.map, Except.toOption] at hparse
    | ok pattern => exact ⟨pattern, rfl⟩
  have hlanguage : leafClause config language = .ok german := rfl
  have hstatus : leafClause config (.attribute "status" (.equals (.string "published"))) = .ok published := rfl
  have hstatics : Configured config [published] := .cons hstatus .nil
  let c : CriteriaCompiler := ⟨config, pattern⟩
  have hp := c.compile_leaf q rfl hlanguage hstatics rfl
  refine ⟨c, _, _, [published], hpattern, hp, c.path?_request q _, hstatics, ?_⟩
  intro henforces
  -- One reading makes everything found and in German, and nothing published.
  obtain ⟨r, hall, hgerman, hpublished⟩ := exists_reading_of_ne
    ⟨"match_all", by simp [searchKeys], Json.empty, rfl⟩ (isComparison_equals hlanguage)
    (isComparison_equals hstatus) (by decide)
  refine hpublished (henforces Unit r () ?_ published List.mem_cons_self)
  rw [holds_queryClause r _ _ (List.cons_ne_nil _ _), r.holds_or]
  exact ⟨hall, german, List.mem_cons_self, hgerman⟩

end SearchStore
