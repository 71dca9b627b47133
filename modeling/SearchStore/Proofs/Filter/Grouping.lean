import Mathlib.Data.List.Induction
import SearchStore.Clause.Filter
import SearchStore.Proofs.Filter.Forest

/-!
# Filters as grouped forests

`group` says which entries the filter of a list has: its leaves in order and, where the first list of an
operator with an entry of its own stands, one list with the entries of all lists of that operator. It is
defined by recursion on the forest and knows nothing of positions or of merging.

The leaves keep their chains of operators and, below each chain, their order (`leavesAt_group`). Gathering
clauses with recorded places and merging filters in place computes `group`: what the loop holds is always
`Gathered.ofForest` of the entries so far, and `filter_eq_group` is the result.
-/

namespace SearchStore

namespace Forest

variable {α : Type}

/-! ### Grouping -/

/-- The entries of one list, given those of the lists in it. A list without an entry is left out, and one
whose operator was seen before stands with the first one. -/
def collect (seen : List Connective) : Forest α → Forest α
  | [] => []
  | .leaf a :: rest => .leaf a :: collect seen rest
  | .node p children :: rest =>
    if children.isEmpty ∨ p ∈ seen then collect seen rest
    else .node p (under p (.node p children :: rest)) :: collect (p :: seen) rest

/-- The forest with the entries of each of its lists in place of that list. -/
def groupBelow : Forest α → Forest α
  | [] => []
  | .leaf a :: rest => .leaf a :: groupBelow rest
  | .node p children :: rest => .node p (collect [] (groupBelow children)) :: groupBelow rest

/-- The entries of a list. -/
def group (ts : Forest α) : Forest α := collect [] (groupBelow ts)

/-- The clauses that a forest is written as. -/
def clauses : Forest Json → List Json
  | [] => []
  | .leaf clause :: rest => clause :: clauses rest
  | .node operator children :: rest =>
    Clause.joined operator (clauses children) :: clauses rest

theorem collect_eq_nil_iff (us : Forest α) :
    collect [] us = [] ↔ ∀ t ∈ us, ∃ p, t = .node p [] := by
  induction us with
  | nil => simp [collect]
  | cons t rest ih =>
    cases t with
    | leaf a => simp [collect]
    | node p children => cases children <;> simp [collect, ih]

/-- A list has an entry exactly if a leaf lies anywhere below it. -/
theorem group_eq_nil_iff (ts : Forest α) : group ts = [] ↔ hasLeaf ts = false := by
  rw [group, collect_eq_nil_iff]
  induction ts using induction with
  | nil => simp [groupBelow, hasLeaf]
  | leaf a rest ih => simp [groupBelow, hasLeaf]
  | node p children rest ihc ih =>
      have hc : collect [] (groupBelow children) = [] ↔ hasLeaf children = false := by
        rw [collect_eq_nil_iff, ihc]
      simp [groupBelow, hasLeaf, ih, hc]

/-! ### Leaves of a grouped forest -/

theorem under_append (p : Connective) (ts us : Forest α) :
    under p (ts ++ us) = under p ts ++ under p us := by
  induction ts with
  | nil => rfl
  | cons t rest ih =>
    cases t with
    | leaf a => simpa [under] using ih
    | node q children => by_cases h : q = p <;> simp [under, h, ih]

theorem leavesAt_nil_leaf (a : α) (rest : Forest α) :
    leavesAt [] (.leaf a :: rest) = a :: leavesAt [] rest := by
  simp [leavesAt, leaves]

theorem leavesAt_nil_node (p : Connective) (children rest : Forest α) :
    leavesAt [] (.node p children :: rest) = leavesAt [] rest := by
  simp [leavesAt, leaves, List.filter_map, Function.comp_def]

theorem leavesAt_nil_collect (seen : List Connective) (us : Forest α) :
    leavesAt [] (collect seen us) = leavesAt [] us := by
  induction us generalizing seen with
  | nil => rfl
  | cons t rest ih =>
    cases t with
    | leaf a => rw [collect, leavesAt_nil_leaf, leavesAt_nil_leaf, ih]
    | node p children =>
      rw [collect, leavesAt_nil_node]
      split
      · exact ih seen
      · rw [leavesAt_nil_node, ih]

theorem leavesAt_nil_groupBelow (ts : Forest α) :
    leavesAt [] (groupBelow ts) = leavesAt [] ts := by
  induction ts with
  | nil => simp [groupBelow]
  | cons t rest ih =>
    cases t with
    | leaf a => rw [groupBelow, leavesAt_nil_leaf, leavesAt_nil_leaf, ih]
    | node p children => rw [groupBelow, leavesAt_nil_node, leavesAt_nil_node, ih]

/-- Collecting keeps what stands in the lists of an operator, unless it stands with an earlier one. -/
theorem under_collect (p : Connective) (seen : List Connective) (us : Forest α) :
    under p (collect seen us) = if p ∈ seen then [] else under p us := by
  induction us generalizing seen with
  | nil => simp [collect, under]
  | cons t rest ih =>
    cases t with
    | leaf a => rw [collect, under, under, ih]
    | node q children =>
      rw [collect]
      by_cases hskip : children.isEmpty ∨ q ∈ seen
      · rw [if_pos hskip, ih]
        by_cases hp : p ∈ seen
        · rw [if_pos hp, if_pos hp]
        · rw [if_neg hp, if_neg hp, under]
          rcases hskip with hempty | hq
          · rw [List.isEmpty_iff.mp hempty]
            simp
          · have hne : q ≠ p := fun h => hp (h ▸ hq)
            rw [if_neg hne]
      · rw [if_neg hskip, under, ih]
        have hq : q ∉ seen := fun h => hskip (.inr h)
        by_cases hpq : q = p
        · subst hpq
          simp [hq]
        · have hpq' : p ≠ q := fun h => hpq h.symm
          simp [hpq, hpq', under]

/-- **Leaves stay where they are.** Below each chain of operators a grouped forest has the same leaves in
the same order. -/
theorem leavesAt_group (chain : List Connective) (ts : Forest α) :
    leavesAt chain (group ts) = leavesAt chain ts := by
  induction chain generalizing ts with
  | nil => rw [group, leavesAt_nil_collect, leavesAt_nil_groupBelow]
  | cons p chain ih =>
    rw [leavesAt_cons, leavesAt_cons, group, under_collect, if_neg List.not_mem_nil]
    -- The lists of `p` are grouped one by one, and the rest of the chain lies in each of them.
    induction ts with
    | nil => simp [groupBelow]
    | cons t rest ihts =>
      cases t with
      | leaf a => simpa [groupBelow, under] using ihts
      | node q children =>
        by_cases h : q = p
        · simp only [groupBelow, under, h, if_true, leavesAt_append, ihts]
          rw [← group, ih]
        · simpa [groupBelow, under, h] using ihts

/-! ### Grouping from left to right -/

/-- Adds entries to the first list of an operator, or in a list of their own at the end. -/
def addTo (p : Connective) (entries : Forest α) : Forest α → Forest α
  | [] => [.node p entries]
  | .leaf a :: rest => .leaf a :: addTo p entries rest
  | .node q others :: rest =>
    if q = p then .node q (others ++ entries) :: rest else .node q others :: addTo p entries rest

/-- Adds one tree whose lists are grouped. -/
def addTree (es : Forest α) : Tree α → Forest α
  | .leaf a => es ++ [.leaf a]
  | .node p entries => if entries.isEmpty then es else addTo p entries es

theorem collect_concat_leaf (seen : List Connective) (us : Forest α) (a : α) :
    collect seen (us ++ [.leaf a]) = collect seen us ++ [.leaf a] := by
  induction us generalizing seen with
  | nil => rfl
  | cons t rest ih =>
    cases t with
    | leaf b => simp [collect, ih]
    | node q others =>
      simp only [List.cons_append, collect]
      split
      · exact ih seen
      · rw [ih]
        simp [under, under_append]

theorem collect_concat_skip {seen : List Connective} {p : Connective} {entries : Forest α}
    (h : entries = [] ∨ p ∈ seen) (us : Forest α) :
    collect seen (us ++ [.node p entries]) = collect seen us := by
  induction us generalizing seen with
  | nil =>
    rcases h with h | h <;> simp [collect, h]
  | cons t rest ih =>
    cases t with
    | leaf b => simp [collect, ih h]
    | node q others =>
      simp only [List.cons_append, collect]
      split
      · exact ih h
      · rename_i hq
        have hu : under q [.node p entries] = [] := by
          rcases h with h | h
          · simp [under, h]
          · have hne : p ≠ q := fun e => hq (.inr (e ▸ h))
            simp [under, hne]
        rw [ih (h.imp_right (List.mem_cons_of_mem q)), ← List.cons_append, under_append, hu,
          List.append_nil]

theorem collect_concat_addTo {seen : List Connective} {p : Connective} {entries : Forest α}
    (hne : entries ≠ []) (hp : p ∉ seen) (us : Forest α) :
    collect seen (us ++ [.node p entries]) = addTo p entries (collect seen us) := by
  induction us generalizing seen with
  | nil => simp [collect, under, addTo, hne, hp]
  | cons t rest ih =>
    cases t with
    | leaf b => simp [collect, addTo, ih hp]
    | node q others =>
      simp only [List.cons_append, collect]
      split
      · exact ih hp
      · rw [← List.cons_append, under_append, addTo]
        by_cases hqp : q = p
        · subst hqp
          rw [if_pos rfl, collect_concat_skip (.inr List.mem_cons_self)]
          simp [under]
        · have hpq : p ≠ q := fun e => hqp e.symm
          rw [if_neg hqp, ih (by simp [hpq, hp])]
          simp [under, hpq]

theorem collect_eq_foldl (us : Forest α) : collect [] us = us.foldl addTree [] := by
  induction us using List.reverseRecOn with
  | nil => rfl
  | append_singleton us t ih =>
    rw [List.foldl_append, List.foldl_cons, List.foldl_nil, ← ih]
    cases t with
    | leaf a => rw [collect_concat_leaf, addTree]
    | node p entries =>
      rw [addTree]
      by_cases h : entries = []
      · rw [collect_concat_skip (.inl h), if_pos (List.isEmpty_iff.mpr h)]
      · rw [collect_concat_addTo h List.not_mem_nil, if_neg (by simpa using h)]

theorem groupBelow_append (ts us : Forest α) :
    groupBelow (ts ++ us) = groupBelow ts ++ groupBelow us := by
  induction ts with
  | nil => simp [groupBelow]
  | cons t rest ih => cases t <;> simp [groupBelow, ih]

theorem group_append_leaves (ts : Forest α) (as : List α) :
    group (ts ++ as.map .leaf) = group ts ++ as.map .leaf := by
  induction as using List.reverseRecOn with
  | nil => simp
  | append_singleton as a ih =>
    rw [group, groupBelow_append] at ih ⊢
    have h : groupBelow ((as ++ [a]).map Tree.leaf) = groupBelow (as.map Tree.leaf) ++ [.leaf a] := by
      rw [List.map_append, groupBelow_append]
      simp [groupBelow]
    rw [h, ← List.append_assoc, collect_concat_leaf, ih]
    simp

end Forest

/-! ### The loop -/

namespace Clause

theorem merge_joined (p : Connective) (xs ys : List Json) :
    Json.merge (joined p xs) (joined p ys) = joined p (xs ++ ys) := by
  simp [joined, Json.merge, Json.mergeFields, Assoc.alter]

theorem joined_ne_empty (p : Connective) (xs : List Json) : joined p xs ≠ Json.empty := by
  simp [joined, Json.empty]

end Clause

namespace Forest

/-- Whether a tree is a list of an operator. -/
def isNode {α : Type} (p : Connective) : Tree α → Bool
  | .leaf _ => false
  | .node q _ => q = p

theorem clauses_append (ts us : Forest Json) : clauses (ts ++ us) = clauses ts ++ clauses us := by
  induction ts with
  | nil => simp [clauses]
  | cons t rest ih => cases t <;> simp [clauses, ih]

theorem clauses_leaves (cs : List Json) : clauses (cs.map .leaf) = cs := by
  induction cs with
  | nil => simp [clauses]
  | cons c rest ih => simp [clauses, ih]

theorem clauses_eq_nil_iff (ts : Forest Json) : clauses ts = [] ↔ ts = [] := by
  cases ts with
  | nil => simp [clauses]
  | cons t rest => cases t <;> simp [clauses]

theorem length_clauses (ts : Forest Json) : (clauses ts).length = ts.length := by
  induction ts with
  | nil => simp [clauses]
  | cons t rest ih => cases t <;> simp [clauses, ih]

/-- Merging a list into the first list of its operator changes the clause at that place only. -/
theorem clauses_addTo (p : Connective) (entries es : Forest Json) :
    clauses (addTo p entries es) =
      match es.findIdx? (isNode p) with
      | some position =>
        (clauses es).modify position fun first => Json.merge first (Clause.joined p (clauses entries))
      | none => clauses es ++ [Clause.joined p (clauses entries)] := by
  induction es with
  | nil => simp [addTo, clauses]
  | cons t rest ih =>
    cases t with
    | leaf c =>
      rw [addTo, clauses, ih, List.findIdx?_cons]
      cases rest.findIdx? (isNode p) <;> simp [isNode, clauses]
    | node q others =>
      by_cases h : q = p
      · subst h
        simp [addTo, clauses, List.findIdx?_cons, isNode, clauses_append, Clause.merge_joined]
      · rw [addTo, if_neg h, clauses, ih, List.findIdx?_cons]
        cases rest.findIdx? (isNode p) <;> simp [isNode, clauses, h]

theorem findIdx?_addTo (p q : Connective) (entries es : Forest Json) :
    (addTo p entries es).findIdx? (isNode q) =
      if q = p then some ((es.findIdx? (isNode p)).getD es.length)
      else es.findIdx? (isNode q) := by
  induction es with
  | nil =>
    by_cases h : p = q
    · simp [addTo, isNode, h]
    · have h' : q ≠ p := fun e => h e.symm
      simp [addTo, isNode, h, h']
  | cons t rest ih =>
    cases t with
    | leaf c =>
      rw [addTo, List.findIdx?_cons, ih, List.findIdx?_cons, List.findIdx?_cons]
      by_cases h : q = p
      · cases rest.findIdx? (isNode p) <;> simp [isNode, h]
      · simp [isNode, h]
    | node r others =>
      by_cases hr : r = p
      · subst hr
        by_cases h : q = r
        · simp [addTo, List.findIdx?_cons, isNode, h]
        · have h' : r ≠ q := fun e => h e.symm
          simp [addTo, List.findIdx?_cons, isNode, h, h']
      · rw [addTo, if_neg hr, List.findIdx?_cons, ih, List.findIdx?_cons, List.findIdx?_cons]
        by_cases h : q = p
        · subst h
          cases rest.findIdx? (isNode q) <;> simp [isNode, hr]
        · by_cases hrq : r = q <;> simp [isNode, h, hrq]

end Forest

namespace Clause

open Forest (ofCriteria Replaced groupBelow group addTo addTree isNode)

/-- What the loop holds after the entries so far: their clauses, and the place of the first list of each
operator. The clause at that place is `{operator: [clauses]}`, so a filter is merged into it by appending.
-/
def Gathered.ofForest (es : Forest Json) : Gathered where
  clauses := es.clauses
  place p := es.findIdx? (isNode p)

namespace Gathered

theorem clauses_ofForest (es : Forest Json) : (ofForest es).clauses = es.clauses := rfl

theorem ofForest_nil : ofForest [] = {} := by
  simp [ofForest, Forest.clauses]

theorem push_ofForest (es : Forest Json) (clause : Json) :
    (ofForest es).push clause = ofForest (addTree es (.leaf clause)) := by
  simp [ofForest, push, addTree, Forest.clauses_append, Forest.clauses, isNode]

theorem nest_ofForest (es : Forest Json) (p : Connective) (entries : Forest Json) :
    (ofForest es).nest p (joinedOrEmpty p entries.clauses) =
      ofForest (addTree es (.node p entries)) := by
  by_cases hempty : entries = []
  · subst hempty
    simp [nest, joinedOrEmpty, Forest.clauses, addTree]
  · have hfilter : joinedOrEmpty p entries.clauses = joined p entries.clauses := by
      rw [joinedOrEmpty, if_neg]
      simpa [Forest.clauses_eq_nil_iff] using hempty
    have hplace : ∀ q, (addTo p entries es).findIdx? (isNode q) =
        if q = p then some ((es.findIdx? (isNode p)).getD es.length)
        else es.findIdx? (isNode q) := fun q => Forest.findIdx?_addTo p q entries es
    rw [hfilter, nest, if_neg (joined_ne_empty _ _), addTree, if_neg (by simpa using hempty)]
    simp only [ofForest, Forest.clauses_addTo, hplace]
    cases hfirst : es.findIdx? (isNode p) with
    | some position =>
        simp only [Option.getD_some, Gathered.mk.injEq, true_and]
        funext q
        by_cases hq : q = p
        · rw [if_pos hq, hq, hfirst]
        · rw [if_neg hq]
    | none => simp [Forest.length_clauses]

end Gathered

theorem gather_leaf (config : CriteriaConfig) (g : Gathered) (rest : List Criteria)
    {leaf : Criteria} (h : ∀ operator items, leaf = .container operator items → False) :
    gather config g (leaf :: rest) =
      match leafClause config leaf with
      | .ok clause => gather config (g.push clause) rest
      | .error e => .error e :=
  gather.eq_3 config g leaf rest h

theorem ofCriteria_cons {config : CriteriaConfig} {leaf : Criteria} {clause : Json}
    (h : leafClause config leaf = .ok clause) (rest : List Criteria) :
    ofCriteria (leaf :: rest) = .leaf leaf :: ofCriteria rest := by
  refine Forest.ofCriteria_leaf rest ?_
  rintro operator items rfl
  cases h

/-- The loop adds the trees of a list one after the other, each with its lists grouped. -/
theorem gather_ofForest (config : CriteriaConfig) (items : List Criteria) (es : Forest Json) :
    gather config (.ofForest es) items =
      (Forest.traverse (leafClause config) (ofCriteria items)).map fun ts =>
        .ofForest ((groupBelow ts).foldl addTree es) := by
  induction items using Forest.ofCriteria.induct generalizing es with
  | case1 => simp [gather, ofCriteria, Forest.traverse, Except.map, groupBelow]
  | case2 operator items rest ihc ih =>
      rw [gather, ofCriteria, Forest.traverse, ← Gathered.ofForest_nil, ihc]
      cases Forest.traverse (leafClause config) (ofCriteria items) with
      | error e => rfl
      | ok ds =>
          simp only [Except.map, bind, Except.bind]
          rw [Gathered.clauses_ofForest, ← Forest.collect_eq_foldl, ← group,
            Gathered.nest_ofForest, ih]
          cases Forest.traverse (leafClause config) (ofCriteria rest) with
          | error e => rfl
          | ok ts => simp [Except.map, groupBelow, group]
  | case3 leaf rest hleaf ih =>
      rw [gather_leaf _ _ _ hleaf, Forest.ofCriteria_leaf _ hleaf, Forest.traverse]
      cases leafClause config leaf with
      | error e => rfl
      | ok clause =>
          simp only [bind, Except.bind]
          rw [Gathered.push_ofForest, ih]
          cases Forest.traverse (leafClause config) (ofCriteria rest) with
          | error e => rfl
          | ok ts => simp [Except.map, groupBelow]

/-- **The filter of a list is its grouped forest.** -/
theorem filter_eq_group (config : CriteriaConfig) (list : CriteriaList) :
    filter config list =
      (Forest.traverse (leafClause config) list.forest).map fun ts =>
        joinedOrEmpty list.operator (group ts).clauses := by
  rw [filter, ← Gathered.ofForest_nil, gather_ofForest, CriteriaList.forest]
  cases Forest.traverse (leafClause config) (ofCriteria list.items) with
  | error e => rfl
  | ok ts => simp [Except.map, Gathered.ofForest, ← Forest.collect_eq_foldl, group]

theorem filter_eq_ok_iff {config : CriteriaConfig} {list : CriteriaList} {f : Json} :
    filter config list = .ok f ↔
      ∃ ts, Replaced (leafClause config) list.forest ts ∧
        f = joinedOrEmpty list.operator (group ts).clauses := by
  simp only [← Forest.traverse_eq_ok_iff, filter_eq_group]
  cases Forest.traverse (leafClause config) list.forest with
  | error e => simp [Except.map]
  | ok ts => simp [Except.map, eq_comm]

theorem joinedOrEmpty_group {ts : Forest Json} (p : Connective) (h : ts.hasLeaf) :
    joinedOrEmpty p (group ts).clauses = joined p (group ts).clauses := by
  rw [joinedOrEmpty, if_neg]
  simp [Forest.clauses_eq_nil_iff, Forest.group_eq_nil_iff, h]

/-- A list without a leaf has the empty filter, and no other list has. -/
theorem joinedOrEmpty_group_eq_empty_iff (p : Connective) (ts : Forest Json) :
    joinedOrEmpty p (group ts).clauses = Json.empty ↔ ts.hasLeaf = false := by
  by_cases h : ts.hasLeaf
  · simp [joinedOrEmpty_group p h, joined_ne_empty, h]
  · have hempty : group ts = [] := by simpa [Forest.group_eq_nil_iff] using h
    simp [joinedOrEmpty, hempty, Forest.clauses, h]

end Clause

end SearchStore
