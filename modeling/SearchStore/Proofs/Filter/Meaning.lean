import SearchStore.Proofs.Filter.Grouping
import SearchStore.Proofs.Filter.Reading

/-!
# The meaning of filters

A list of criteria says something of a document by itself: its leaves are read through their clauses and
joined by the operators of the lists. `holds_foldl_addTree` compares that with the clauses gathered so far:
adding a tree joins what it says to them, provided that the lists of an operator other than the one around
them do not clash. So the filter of a list says what the list says (`filter_holds_iff_meets`). Two lists
that clash are joined by their own operator instead of the one around them (`filter_pair`).
-/

namespace SearchStore

open Clause (joined filter leafClause joinedOrEmpty)
open Forest

variable {δ : Type}

/-- What a criterion that is no list says of a document, through its clause. -/
def Reading.Leaf (r : Reading δ) (config : CriteriaConfig) (d : δ) (leaf : Criteria) : Prop :=
  ∃ clause, leafClause config leaf = .ok clause ∧ r.Holds clause d

/-- What a list of criteria says of a document. -/
def Reading.Meets (r : Reading δ) (config : CriteriaConfig) (d : δ) (list : CriteriaList) : Prop :=
  Forest.Meets (r.Leaf config d) list.operator list.forest

/-- No list at any depth has two lists with leaves that share an operator other than its own. -/
def CriteriaList.Separated (list : CriteriaList) : Prop :=
  NoClash list.operator list.forest ∧ Forest.Separated list.forest

/-! ### Joining -/

namespace Connective

theorem join_unit (p : Connective) (a : Prop) : p.Join a p.Unit ↔ a := by
  cases p <;> simp [Join, Unit]

theorem unit_join (p : Connective) (a : Prop) : p.Join p.Unit a ↔ a := by
  cases p <;> simp [Join, Unit]

theorem join_assoc (p : Connective) (a b c : Prop) : p.Join (p.Join a b) c ↔ p.Join a (p.Join b c) := by
  cases p
  · exact and_assoc
  · exact or_assoc

theorem join_right_comm (p : Connective) (a b c : Prop) :
    p.Join (p.Join a b) c ↔ p.Join (p.Join a c) b := by
  cases p
  · exact and_right_comm
  · exact or_right_comm

end Connective

/-! ### Adding lists -/

namespace Forest

theorem countP_isNode_addTo (p q : Connective) (entries es : Forest Json) :
    (addTo q entries es).countP (isNode p) =
      if q = p then max 1 (es.countP (isNode p)) else es.countP (isNode p) := by
  induction es with
  | nil => by_cases h : q = p <;> simp [addTo, isNode, h]
  | cons t rest ih =>
    cases t with
    | leaf c => simp [addTo, isNode, ih]
    | node s others =>
      by_cases hs : s = q
      · subst hs
        by_cases h : s = p <;> simp [addTo, isNode, h]
      · rw [addTo, if_neg hs, List.countP_cons, ih, List.countP_cons]
        by_cases h : q = p
        · have hsp : s ≠ p := fun e => hs (e.trans h.symm)
          simp [h, isNode, hsp]
        · simp [h]

theorem addTo_of_absent {p : Connective} {entries es : Forest Json}
    (h : es.countP (isNode p) = 0) : addTo p entries es = es ++ [.node p entries] := by
  induction es with
  | nil => rfl
  | cons t rest ih =>
    cases t with
    | leaf c => simpa [addTo] using ih (by simpa [isNode] using h)
    | node q others =>
      have hq : q ≠ p := by
        rintro rfl
        simp [isNode] at h
      simpa [addTo, hq] using ih (by simpa [isNode, hq] using h)

end Forest

namespace Reading

variable (r : Reading δ) (d : δ)

/-- In a list joined by `p`, entries may stand in any list of `p`. -/
theorem holds_addTo (p : Connective) (entries es : Forest Json) :
    r.Holds (joined p (clauses (addTo p entries es))) d ↔
      p.Join (r.Holds (joined p (clauses es)) d) (r.Holds (joined p (clauses entries)) d) := by
  induction es with
  | nil =>
    simp only [addTo, clauses, r.holds_joined_cons, r.holds_joined_nil, p.join_unit, p.unit_join]
  | cons t rest ih =>
    cases t with
    | leaf c =>
      rw [addTo, clauses, clauses, r.holds_joined_cons, r.holds_joined_cons, ih, p.join_assoc]
    | node q others =>
      by_cases h : q = p
      · subst h
        rw [addTo, if_pos rfl, clauses, clauses, clauses_append, r.holds_joined_cons,
          r.holds_joined_cons, r.holds_joined_append, q.join_right_comm]
      · rw [addTo, if_neg h, clauses, clauses, r.holds_joined_cons, r.holds_joined_cons, ih,
          p.join_assoc]

/-- A list of entries joins what its entries say, if it is joined like the list around it or is the first of
its operator. -/
theorem holds_addTree_node {operator p : Connective} {entries es : Forest Json}
    (hne : entries ≠ []) (h : p = operator ∨ es.countP (isNode p) = 0) :
    r.Holds (joined operator (clauses (addTree es (.node p entries)))) d ↔
      operator.Join (r.Holds (joined operator (clauses es)) d)
        (r.Holds (joined p (clauses entries)) d) := by
  rw [addTree, if_neg (by simpa using hne)]
  rcases h with rfl | habsent
  · exact r.holds_addTo d p entries es
  · rw [addTo_of_absent habsent, clauses_append, r.holds_joined_append, clauses, clauses,
      r.holds_joined_cons, r.holds_joined_nil, operator.join_unit]

/-- What is gathered of a list says what was gathered before it, joined with what the list says. The entries
before it count as lists of their operators. -/
theorem holds_foldl_addTree (ts : Forest Json) : ∀ (operator : Connective) (es : Forest Json),
    (∀ p, p ≠ operator → es.countP (isNode p) + ts.countP (bears p) ≤ 1) → Separated ts →
    (r.Holds (joined operator (clauses ((groupBelow ts).foldl addTree es))) d ↔
      operator.Join (r.Holds (joined operator (clauses es)) d)
        (Forest.Meets (r.Holds · d) operator ts)) := by
  induction ts using Forest.induction with
  | nil =>
      intro operator es _ _
      rw [groupBelow, List.foldl_nil, Forest.Meets, operator.join_unit]
  | leaf c rest ih =>
      intro operator es hcount hsep
      have hcount' : ∀ p, p ≠ operator →
          (addTree es (.leaf c)).countP (isNode p) + rest.countP (bears p) ≤ 1 := by
        intro p hp
        simpa [addTree, isNode, bears] using hcount p hp
      rw [groupBelow, List.foldl_cons, ih operator _ hcount' (by simpa [Separated] using hsep),
        addTree, clauses_append, r.holds_joined_append, clauses, clauses, r.holds_joined_cons,
        r.holds_joined_nil, operator.join_unit, operator.join_assoc, Forest.Meets]
  | node q children rest ihc ih =>
      intro operator es hcount hsep
      rw [Separated] at hsep
      obtain ⟨hclash, hchildren, hrest⟩ := hsep
      -- The entries of the nested list say what the list says: it is gathered from nothing.
      have hnested : r.Holds (joined q (clauses (group children))) d ↔
          Forest.Meets (r.Holds · d) q children := by
        rw [group, collect_eq_foldl, ihc q [] (by simpa [NoClash] using hclash) hchildren, clauses,
          r.holds_joined_nil, q.unit_join]
      rw [groupBelow, List.foldl_cons, ← group, Forest.Meets]
      by_cases hleaf : hasLeaf children
      · have hne : group children ≠ [] := by simp [group_eq_nil_iff, hleaf]
        have hplace : q = operator ∨ es.countP (isNode q) = 0 := by
          by_cases hq : q = operator
          · exact .inl hq
          · have := hcount q hq
            rw [List.countP_cons_of_pos (by simp [bears, hleaf])] at this
            exact .inr (by omega)
        have hcount' : ∀ p, p ≠ operator →
            (addTree es (.node q (group children))).countP (isNode p) + rest.countP (bears p) ≤ 1 := by
          intro p hp
          have := hcount p hp
          rw [addTree, if_neg (by simpa using hne), countP_isNode_addTo]
          by_cases hqp : q = p
          · rw [List.countP_cons_of_pos (by simp [bears, hqp, hleaf])] at this
            rw [if_pos hqp]
            omega
          · rw [List.countP_cons_of_neg (by simp [bears, hqp])] at this
            rwa [if_neg hqp]
        rw [if_pos hleaf, ih operator _ hcount' hrest, r.holds_addTree_node d hne hplace, hnested,
          operator.join_assoc]
      · have hempty : group children = [] := by simpa [group_eq_nil_iff] using hleaf
        have hcount' : ∀ p, p ≠ operator → es.countP (isNode p) + rest.countP (bears p) ≤ 1 := by
          intro p hp
          simpa [bears, hleaf] using hcount p hp
        rw [if_neg hleaf, hempty, addTree, if_pos List.isEmpty_nil, ih operator es hcount' hrest]

theorem holds_group {operator : Connective} {ts : Forest Json} (hclash : NoClash operator ts)
    (hsep : Separated ts) :
    r.Holds (joined operator (clauses (group ts))) d ↔
      Forest.Meets (r.Holds · d) operator ts := by
  rw [group, collect_eq_foldl,
    r.holds_foldl_addTree d ts operator [] (by simpa [NoClash] using hclash) hsep, clauses,
    r.holds_joined_nil, operator.unit_join]

/-! ### The filter of a list -/

/-- A filter says what its list says. -/
theorem holds_filter {config : CriteriaConfig} {list : CriteriaList} {f : Json}
    (hf : filter config list = .ok f) (hleaf : hasLeaf list.forest) (hsep : list.Separated) :
    r.Holds f d ↔ r.Meets config d list := by
  obtain ⟨ts, hts, rfl⟩ := Clause.filter_eq_ok_iff.mp hf
  obtain ⟨hclash, hlists⟩ := hsep
  have hbears : hasLeaf ts := by rw [hts.hasLeaf, hleaf]
  rw [Clause.joinedOrEmpty_group _ hbears,
    r.holds_group d ((hts.noClash _).mpr hclash) (hts.separated.mpr hlists), hts.meets]
  rfl

end Reading

theorem Reading.holds_pair (r : Reading δ) (p q : Connective) (ca cb : Json) (d : δ) :
    r.Holds (joined p [joined q [ca, cb]]) d ↔ q.Join (r.Holds ca d) (r.Holds cb d) := by
  rw [r.holds_joined_cons, r.holds_joined_nil, p.join_unit, r.holds_joined_cons,
    r.holds_joined_cons, r.holds_joined_nil, q.join_unit]

section Pair

variable {config : CriteriaConfig} {a b : Criteria} {ca cb : Json} (p q : Connective)
  (ha : leafClause config a = .ok ca) (hb : leafClause config b = .ok cb)

include ha hb

theorem filter_pair :
    filter config ⟨p, [.container q [a], .container q [b]]⟩ = .ok (joined p [joined q [ca, cb]]) := by
  rw [Clause.filter_eq_ok_iff]
  refine ⟨[.node q [.leaf ca], .node q [.leaf cb]], ?_, ?_⟩
  · simp only [CriteriaList.forest, ofCriteria, Clause.ofCriteria_cons ha, Clause.ofCriteria_cons hb]
    exact .node (.leaf ha .nil) (.node (.leaf hb .nil) .nil)
  · simp [group, groupBelow, collect, under, clauses, joinedOrEmpty]

theorem Reading.meets_pair (r : Reading δ) (d : δ) :
    r.Meets config d ⟨p, [.container q [a], .container q [b]]⟩ ↔
      p.Join (r.Holds ca d) (r.Holds cb d) := by
  have hleaf : ∀ {leaf c}, leafClause config leaf = .ok c → (r.Leaf config d leaf ↔ r.Holds c d) := by
    intro leaf c h
    simp [Reading.Leaf, h]
  simp [Reading.Meets, CriteriaList.forest, ofCriteria, Clause.ofCriteria_cons ha,
    Clause.ofCriteria_cons hb, Forest.Meets, hasLeaf, hleaf ha, hleaf hb, Connective.join_unit]

end Pair

/-- **Filters mean their lists.** If no list has two lists with leaves that share an operator other than its
own, the filter of a list with a leaf matches the documents that the list matches. The condition is needed:
under some reading, `and [or [a], or [b]]` becomes a filter that matches more than the list does. -/
theorem filter_holds_iff_meets (config : CriteriaConfig) :
    (∀ (δ : Type) (r : Reading δ) (list : CriteriaList) (f : Json),
      filter config list = .ok f → hasLeaf list.forest → list.Separated →
      ∀ d, r.Holds f d ↔ r.Meets config d list) ∧
    ∃ (a b : Criteria) (f : Json) (r : Reading Unit),
      filter config ⟨.and, [.container .or [a], .container .or [b]]⟩ = .ok f ∧
      r.Holds f () ∧ ¬ r.Meets config () ⟨.and, [.container .or [a], .container .or [b]]⟩ := by
  refine ⟨fun δ r list f hf hleaf hsep d => r.holds_filter d hf hleaf hsep, ?_⟩
  let language (value : String) : Criteria := .attribute "language" (.equals (.string value))
  let clause (value : String) : Json := Clause.termClause config "language" (.string value)
  have hde : leafClause config (language "de") = .ok (clause "de") := rfl
  have hen : leafClause config (language "en") = .ok (clause "en") := rfl
  let r : EngineReading Unit := .ofAtoms fun c _ => c = clause "de"
  have hterm : ∀ value, r.Holds (clause value) () ↔ clause value = clause "de" :=
    fun value => truth_entry (by decide) _ _
  have hmatch : r.Holds (clause "de") () := (hterm "de").mpr rfl
  have hmiss : ¬ r.Holds (clause "en") () := by
    rw [hterm]
    simp [clause, Clause.termClause]
  have hf := filter_pair .and .or hde hen
  refine ⟨language "de", language "en", _, r.toReading, hf, ?_, ?_⟩
  · rw [r.holds_pair]
    exact .inl hmatch
  · rw [r.meets_pair .and .or hde hen]
    exact fun h => hmiss h.2

/-- Lists of both operators, one of them without a leaf, below a list of alternatives. -/
theorem filter_holds_nested :
    let list : CriteriaList :=
      ⟨.or,
        [.container .and [.custom (.string "de"), .container .or []],
          .container .or [.custom (.string "en")]]⟩
    let f := joined .or [joined .and [.string "de"], joined .or [.string "en"]]
    filter {} list = .ok f ∧ hasLeaf list.forest ∧ list.Separated ∧
      ∀ (r : Reading Unit), r.Holds f () ↔ r.Meets {} () list := by
  intro list f
  have hforest : list.forest =
      [.node .and [.leaf (.custom (.string "de")), .node .or []],
        .node .or [.leaf (.custom (.string "en"))]] := by
    simp [list, CriteriaList.forest, ofCriteria]
  have hf : filter {} list = .ok f := by
    rw [Clause.filter_eq_ok_iff, hforest]
    refine ⟨[.node .and [.leaf (.string "de"), .node .or []], .node .or [.leaf (.string "en")]], ?_, ?_⟩
    · exact .node (.leaf rfl (.node .nil .nil)) (.node (.leaf rfl .nil) .nil)
    · simp [list, f, group, groupBelow, collect, under, clauses, joinedOrEmpty]
  have hleaf : hasLeaf list.forest := by simp [hforest, hasLeaf]
  have hsep : list.Separated := by
    simp only [CriteriaList.Separated, hforest, Separated, and_true]
    refine ⟨?_, ?_, ?_, ?_⟩
    all_goals
      intro p _
      cases p <;> simp [bears, hasLeaf]
  exact ⟨hf, hleaf, hsep, fun r => (filter_holds_iff_meets {}).1 Unit r list f hf hleaf hsep ()⟩

end SearchStore
