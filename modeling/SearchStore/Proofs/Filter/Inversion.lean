import SearchStore.Proofs.Filter.Reading

/-!
# Filters of inverted comparisons

A comparison of an attribute is negated if it is inverted or if its value is a text with an exclamation mark in
front, and it is negated once if both are the case (`exists_base`). So inverting it complements the filter, unless
there is such a mark: then the mark alone decides, and the filter stays as it is. `invert_complements` says so, under
every reading of filters in which `not` complements.
-/

namespace SearchStore

open Clause (attributeClause spatialClause leafClause underNot splitMark)

/-- The first filter holds of exactly the documents of which the second does not, under every reading in which `not`
complements. -/
def Complements (filter other : Json) : Prop :=
  ∀ (δ : Type) (holds : Json → δ → Prop), (∀ clause d, holds (.object [("not", clause)]) d ↔ ¬ holds clause d) →
    ∀ d, holds filter d ↔ ¬ holds other d

theorem complements_underNot (negated : Bool) (clause : Json) :
    Complements (underNot (!negated) clause) (underNot negated clause) := by
  intro δ holds hnot d
  cases negated with
  | false => exact hnot clause d
  | true =>
    simp only [underNot, Bool.not_true, Bool.false_eq_true, if_false, if_true, hnot]
    exact not_not.symm

/-- No filter complements itself, as there are documents. -/
theorem not_complements_self (filter : Json) : ¬ Complements filter filter := by
  intro h
  let r : EngineReading Unit := .ofAtoms fun _ _ => True
  exact iff_not_self (h Unit r.Holds r.holds_not ())

/-! ### Sources of negation -/

/-- The comparand is a text with the mark that negates it. -/
def Comparand.IsMarked (comparand : Comparand) : Prop := ∃ text, comparand = .scalar (.string ("!" ++ text))

theorem splitMark_eq_true_iff {value : Json} : (splitMark value).1 = true ↔ ∃ text, value = .string ("!" ++ text) := by
  cases value with
  | string s =>
    simp only [splitMark, Json.string.injEq]
    constructor
    · intro h
      cases hs : s.toList with
      | nil => simp [hs] at h
      | cons c rest =>
        obtain rfl : c = '!' := by
          by_contra hc
          simp [hs, hc] at h
        refine ⟨String.ofList rest, ?_⟩
        apply String.toList_inj.mp
        simp [hs]
    · rintro ⟨text, rfl⟩
      have htext : ("!" ++ text).toList = '!' :: text.toList := by simp
      simp only [htext]
  | _ => simp [splitMark]

/-- The clause of a comparison is that of its comparand, under `not` if the comparison is inverted or the comparand
is marked. -/
theorem exists_base {config : CriteriaConfig} {path : String} {comparison : Comparison} {clause : Json}
    (h : attributeClause config path comparison = .ok clause) :
    ∃ marked base, (marked = true ↔ comparison.comparand.IsMarked) ∧
      ∀ inverted, attributeClause config path { comparison with inverted } = .ok (underNot (inverted || marked) base) := by
  obtain ⟨operator, comparand, inverted⟩ := comparison
  cases comparand with
  | scalar value =>
    refine ⟨(splitMark value).1, _, ?_, fun _ => rfl⟩
    simp [Comparand.IsMarked, splitMark_eq_true_iff]
  | list values =>
    refine ⟨false, Clause.termsClause path values, ?_, ?_⟩
    · simp [Comparand.IsMarked]
    · intro other
      simp [attributeClause]
  | geometry shape => cases h

/-! ### Inversion -/

/-- The criterion with its comparison inverted, if it has one. -/
def Criteria.invert : Criteria → Criteria
  | .attribute path comparison => .attribute path comparison.invert
  | .spatial path comparison => .spatial path comparison.invert
  | other => other

theorem Criteria.invert_invert (criteria : Criteria) : criteria.invert.invert = criteria := by
  cases criteria <;> simp [invert, Comparison.invert_invert]

/-- What an attribute has for its inverted comparison. -/
structure InvertsTo (config : CriteriaConfig) (path : String) (comparison : Comparison) (clause inverted : Json) :
    Prop where
  clause_eq : leafClause config (Criteria.invert (.attribute path comparison)) = .ok inverted
  complements_iff : Complements inverted clause ↔ ¬ comparison.comparand.IsMarked
  eq_of_marked : comparison.comparand.IsMarked → inverted = clause

theorem exists_invertsTo {config : CriteriaConfig} {path : String} {comparison : Comparison} {clause : Json}
    (h : leafClause config (.attribute path comparison) = .ok clause) :
    ∃ inverted, InvertsTo config path comparison clause inverted := by
  obtain ⟨marked, base, hmarked, hclause⟩ := exists_base h
  have hown : clause = underNot (comparison.inverted || marked) base := by
    have heq := h.symm.trans (hclause comparison.inverted)
    exact Except.ok.inj heq
  have hother : leafClause config (Criteria.invert (.attribute path comparison)) =
      .ok (underNot (!comparison.inverted || marked) base) := hclause (!comparison.inverted)
  refine ⟨_, hother, ?_, ?_⟩
  · rw [← hmarked, hown]
    cases marked with
    | false =>
      simp only [Bool.or_false, Bool.false_eq_true, not_false_iff, iff_true]
      exact complements_underNot comparison.inverted base
    | true =>
      simp only [Bool.or_true, not_true_eq_false, iff_false]
      exact not_complements_self _
  · intro h
    rw [hown, hmarked.mpr h, Bool.or_true, Bool.or_true]

/-- **Inverting complements, unless a mark negates.** The inverted comparison of an attribute has a filter if the
comparison has one. The two complement each other exactly if the comparand is no text with an exclamation mark in
front; with such a mark, which negates by itself, they are the same. An inverted spatial comparison has a filter if the
comparison has one. Inverting twice gives the filter back. -/
theorem invert_complements (config : CriteriaConfig) :
    (∀ path comparison clause, leafClause config (.attribute path comparison) = .ok clause →
      ∃ inverted, InvertsTo config path comparison clause inverted) ∧
    (∀ path comparison clause, leafClause config (.spatial path comparison) = .ok clause →
      ∃ inverted, leafClause config (Criteria.invert (.spatial path comparison)) = .ok inverted) ∧
    ∀ criteria : Criteria, leafClause config criteria.invert.invert = leafClause config criteria := by
  refine ⟨?_, ?_, ?_⟩
  · intro path comparison clause h
    exact exists_invertsTo h
  · intro path comparison clause h
    exact ⟨clause, h⟩
  · intro criteria
    rw [criteria.invert_invert]

/-- An inverted membership that is inverted again, and a shape. -/
theorem invert_complements_tags :
    let tags : Comparison := (Comparison.oneOf [.string "a", .string "!b"]).invert
    let terms : Json := .object [("terms", .object [("tags", Json.strings ["a", "!b"])])]
    leafClause {} (.attribute "tags" tags) = .ok (.object [("not", terms)]) ∧
      leafClause {} (Criteria.invert (.attribute "tags" tags)) = .ok terms ∧
      Complements terms (.object [("not", terms)]) := by
  intro tags terms
  have hclause : leafClause {} (.attribute "tags" tags) = .ok (.object [("not", terms)]) := rfl
  have hinverted : leafClause {} (Criteria.invert (.attribute "tags" tags)) = .ok terms := rfl
  obtain ⟨inverted, h⟩ := (invert_complements {}).1 "tags" tags _ hclause
  obtain rfl : inverted = terms := Except.ok.inj (h.clause_eq.symm.trans hinverted)
  have hunmarked : ¬ tags.comparand.IsMarked := by
    rintro ⟨text, htext⟩
    cases htext
  exact ⟨hclause, hinverted, h.complements_iff.mpr hunmarked⟩

/-- The filter of a text with a mark is the same for the inverted comparison, and so is the filter of a shape. -/
theorem not_complements_draft :
    let marked : Criteria := .attribute "status" (.equals (.string "!draft"))
    let near : Criteria := .spatial "place" (.within (.circle ⟨⟨0⟩, ⟨0⟩⟩ "5km"))
    ∀ criteria ∈ [marked, near], ∃ filter, leafClause {} criteria = .ok filter ∧
      leafClause {} criteria.invert = .ok filter ∧ ¬ Complements filter filter := by
  intro marked near
  simp only [List.forall_mem_cons, List.not_mem_nil, false_imp_iff, implies_true, and_true]
  exact ⟨⟨_, rfl, rfl, not_complements_self _⟩, ⟨_, rfl, rfl, not_complements_self _⟩⟩

end SearchStore
