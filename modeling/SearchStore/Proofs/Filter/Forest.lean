import Mathlib.Data.List.Forall2
import SearchStore.Query.Criteria

/-!
# Trees joined by operators

A criteria tree, the tree of its clauses and the filter that is written of them have one form: leaves, and
lists joined by an operator. A `Forest` is what stands in one list. `leaves` names each leaf with the chain
of operators above it, `traverse` replaces the leaves and stops at the first one that fails, and `Meets`
reads a forest by its operators, passing over lists without a leaf.

`Replaced` describes a successful replacement, tree by tree (`traverse_eq_ok_iff`). It keeps the shape of a
forest (`Replaced.hasLeaf`, `Replaced.separated`) and its reading (`Replaced.meets`).
-/

namespace SearchStore

/-- A leaf, or trees joined by an operator. -/
inductive Tree (α : Type) where
  | leaf (a : α)
  | node (operator : Connective) (children : List (Tree α))

/-- The trees of one list. -/
abbrev Forest (α : Type) := List (Tree α)

/-- The criteria of a list as a forest of those that are no lists. -/
def Forest.ofCriteria : List Criteria → Forest Criteria
  | [] => []
  | .container operator items :: rest => .node operator (ofCriteria items) :: ofCriteria rest
  | leaf :: rest => .leaf leaf :: ofCriteria rest

/-- The forest of a list of criteria. -/
def CriteriaList.forest (list : CriteriaList) : Forest Criteria :=
  Forest.ofCriteria list.items

/-- Two statements joined by an operator. -/
def Connective.Join : Connective → Prop → Prop → Prop
  | .and, a, b => a ∧ b
  | .or, a, b => a ∨ b

/-- What an operator says of nothing. -/
def Connective.Unit : Connective → Prop
  | .and => True
  | .or => False

namespace Forest

variable {α β ε : Type}

theorem ofCriteria_append (items others : List Criteria) :
    ofCriteria (items ++ others) = ofCriteria items ++ ofCriteria others := by
  induction items with
  | nil => simp [ofCriteria]
  | cons leaf rest ih => cases leaf <;> simp [ofCriteria, ih]

theorem ofCriteria_leaf (rest : List Criteria) {leaf : Criteria}
    (h : ∀ operator items, leaf = .container operator items → False) :
    ofCriteria (leaf :: rest) = .leaf leaf :: ofCriteria rest := by
  rw [ofCriteria]
  exact h

/-- Induction along the trees of a list and into each of its lists. -/
@[elab_as_elim]
theorem induction {motive : Forest α → Prop} (nil : motive [])
    (leaf : ∀ a rest, motive rest → motive (.leaf a :: rest))
    (node : ∀ operator children rest,
      motive children → motive rest → motive (.node operator children :: rest)) :
    ∀ ts, motive ts
  | [] => nil
  | .leaf a :: rest => leaf a rest (induction nil leaf node rest)
  | .node operator children :: rest =>
      node operator children rest (induction nil leaf node children)
        (induction nil leaf node rest)

/-! ### Leaves -/

/-- Whether a leaf lies anywhere below. -/
def hasLeaf : Forest α → Bool
  | [] => false
  | .leaf _ :: _ => true
  | .node _ children :: rest => hasLeaf children || hasLeaf rest

/-- The leaves from left to right, each with the operators of the lists around it, outermost first. -/
def leaves : Forest α → List (List Connective × α)
  | [] => []
  | .leaf a :: rest => ([], a) :: leaves rest
  | .node operator children :: rest =>
    (leaves children).map (fun (chain, a) => (operator :: chain, a)) ++ leaves rest

/-- The leaves below one chain of operators, from left to right. -/
def leavesAt (chain : List Connective) (ts : Forest α) : List α :=
  ((leaves ts).filter fun entry => entry.1 = chain).map (·.2)

theorem leaves_append (ts us : Forest α) : leaves (ts ++ us) = leaves ts ++ leaves us := by
  induction ts with
  | nil => simp [leaves]
  | cons t rest ih => cases t <;> simp [leaves, ih]

theorem leavesAt_append (chain : List Connective) (ts us : Forest α) :
    leavesAt chain (ts ++ us) = leavesAt chain ts ++ leavesAt chain us := by
  simp [leavesAt, leaves_append]

/-- Forests with the same leaves below each chain have the same leaves. -/
theorem perm_leaves {ts us : Forest α} (h : ∀ chain, leavesAt chain ts = leavesAt chain us) :
    (leaves ts).Perm (leaves us) := by
  classical
  have hcount : ∀ (entries : List (List Connective × α)) (chain : List Connective) (a : α),
      entries.count (chain, a) = ((entries.filter fun entry => entry.1 = chain).map (·.2)).count a := by
    intro entries chain a
    induction entries with
    | nil => rfl
    | cons entry rest ih =>
      obtain ⟨chain', b⟩ := entry
      by_cases hc : chain' = chain
      · by_cases hb : b = a <;> simp [hc, hb, ih]
      · simp [hc, ih]
  rw [List.perm_iff_count]
  rintro ⟨chain, a⟩
  rw [hcount, hcount]
  exact congrArg (List.count a) (h chain)

/-! ### The lists of one operator -/

/-- What stands in the lists of an operator, one list after the other. -/
def under (p : Connective) : Forest α → Forest α
  | [] => []
  | .leaf _ :: rest => under p rest
  | .node q children :: rest => if q = p then children ++ under p rest else under p rest

theorem leavesAt_cons (p : Connective) (chain : List Connective) (ts : Forest α) :
    leavesAt (p :: chain) ts = leavesAt chain (under p ts) := by
  induction ts with
  | nil => simp [leavesAt, leaves, under]
  | cons t rest ih =>
    cases t with
    | leaf a => simpa [leavesAt, leaves, under] using ih
    | node q children =>
      by_cases h : q = p
      · subst h
        rw [under, if_pos rfl, leavesAt_append, ← ih]
        simp [leavesAt, leaves, List.filter_map, Function.comp_def]
      · rw [under, if_neg h, ← ih]
        simp [leavesAt, leaves, List.filter_map, Function.comp_def, h]

/-- Whether a tree is a list of an operator with a leaf below it. -/
def bears (p : Connective) : Tree α → Bool
  | .leaf _ => false
  | .node q children => q = p && hasLeaf children

/-- In a list joined by `operator`, no other operator has two lists with leaves. -/
def NoClash (operator : Connective) (ts : Forest α) : Prop :=
  ∀ p, p ≠ operator → ts.countP (bears p) ≤ 1

/-- No list below has a clash. -/
def Separated : Forest α → Prop
  | [] => True
  | .leaf _ :: rest => Separated rest
  | .node operator children :: rest =>
    NoClash operator children ∧ Separated children ∧ Separated rest

/-! ### Reading a forest by its operators -/

theorem sizeOf_rest_lt (t : Tree α) (rest : Forest α) : sizeOf rest < sizeOf (t :: rest) := by
  simp only [List.cons.sizeOf_spec]
  omega

theorem sizeOf_children_lt (operator : Connective) (children rest : Forest α) :
    sizeOf children < sizeOf (Tree.node operator children :: rest) := by
  simp only [List.cons.sizeOf_spec, Tree.node.sizeOf_spec]
  omega

/-- What the trees of a list say together, given what each leaf says. A list without a leaf is passed
over. -/
def Meets (p : α → Prop) (operator : Connective) : Forest α → Prop
  | [] => operator.Unit
  | .leaf a :: rest => operator.Join (p a) (Meets p operator rest)
  | .node q children :: rest =>
    if hasLeaf children then operator.Join (Meets p q children) (Meets p operator rest)
    else Meets p operator rest
termination_by ts => sizeOf ts
decreasing_by
  · exact sizeOf_rest_lt _ _
  · exact sizeOf_children_lt _ _ _
  · exact sizeOf_rest_lt _ _
  · exact sizeOf_rest_lt _ _

/-! ### Replacing the leaves -/

/-- The forest with each leaf replaced, or the first failure from left to right. -/
def traverse (f : α → Except ε β) : Forest α → Except ε (Forest β)
  | [] => .ok []
  | .leaf a :: rest => do
    let b ← f a
    let rest ← traverse f rest
    .ok (.leaf b :: rest)
  | .node operator children :: rest => do
    let children ← traverse f children
    let rest ← traverse f rest
    .ok (.node operator children :: rest)

/-- The second forest is the first one with each leaf replaced. -/
inductive Replaced (f : α → Except ε β) : Forest α → Forest β → Prop where
  | nil : Replaced f [] []
  | leaf {a : α} {b : β} {ts : Forest α} {us : Forest β} :
      f a = .ok b → Replaced f ts us → Replaced f (.leaf a :: ts) (.leaf b :: us)
  | node {operator : Connective} {cs ts : Forest α} {ds us : Forest β} :
      Replaced f cs ds → Replaced f ts us →
      Replaced f (.node operator cs :: ts) (.node operator ds :: us)

theorem replaced_of_traverse {f : α → Except ε β} {ts : Forest α} :
    ∀ {us : Forest β}, traverse f ts = .ok us → Replaced f ts us := by
  induction ts using induction with
  | nil =>
      intro us h
      rw [traverse] at h
      cases h
      exact .nil
  | leaf a rest ih =>
      intro us h
      rw [traverse] at h
      cases hb : f a with
      | error e => simp [hb, bind, Except.bind] at h
      | ok b =>
          cases hr : traverse f rest with
          | error e => simp [hb, hr, bind, Except.bind] at h
          | ok vs =>
              simp only [hb, hr, bind, Except.bind, Except.ok.injEq] at h
              rw [← h]
              exact .leaf hb (ih hr)
  | node operator children rest ihc ih =>
      intro us h
      rw [traverse] at h
      cases hc : traverse f children with
      | error e => simp [hc, bind, Except.bind] at h
      | ok ds =>
          cases hr : traverse f rest with
          | error e => simp [hc, hr, bind, Except.bind] at h
          | ok vs =>
              simp only [hc, hr, bind, Except.bind, Except.ok.injEq] at h
              rw [← h]
              exact .node (ihc hc) (ih hr)

theorem traverse_eq_ok_iff {f : α → Except ε β} {ts : Forest α} {us : Forest β} :
    traverse f ts = .ok us ↔ Replaced f ts us := by
  refine ⟨replaced_of_traverse, ?_⟩
  intro h
  induction h with
  | nil => simp [traverse]
  | leaf hf _ ih => simp [traverse, hf, ih, bind, Except.bind]
  | node _ _ ihc ih => simp [traverse, ihc, ih, bind, Except.bind]

namespace Replaced

variable {f : α → Except ε β} {ts : Forest α} {us : Forest β}

theorem append {ts' : Forest α} {us' : Forest β} (h : Replaced f ts us)
    (h' : Replaced f ts' us') : Replaced f (ts ++ ts') (us ++ us') := by
  induction h with
  | nil => exact h'
  | leaf hf _ ih => exact .leaf hf ih
  | node hc _ _ ih => exact .node hc ih

theorem of_append {ts' : Forest α} (h : Replaced f (ts ++ ts') us) :
    ∃ vs vs', us = vs ++ vs' ∧ Replaced f ts vs ∧ Replaced f ts' vs' := by
  induction ts generalizing us with
  | nil => exact ⟨[], us, rfl, .nil, h⟩
  | cons t rest ih =>
    cases h with
    | leaf hf hrest =>
        obtain ⟨vs, vs', rfl, hvs, hvs'⟩ := ih hrest
        exact ⟨_ :: vs, vs', rfl, .leaf hf hvs, hvs'⟩
    | node hc hrest =>
        obtain ⟨vs, vs', rfl, hvs, hvs'⟩ := ih hrest
        exact ⟨_ :: vs, vs', rfl, .node hc hvs, hvs'⟩

theorem leaves_iff {as : List α} :
    Replaced f (as.map .leaf) us ↔
      ∃ bs, us = bs.map .leaf ∧ List.Forall₂ (fun a b => f a = .ok b) as bs := by
  constructor
  · intro h
    induction as generalizing us with
    | nil =>
      cases h
      exact ⟨[], rfl, .nil⟩
    | cons a as ih =>
      cases h with
      | leaf hf hrest =>
          obtain ⟨bs, rfl, hbs⟩ := ih hrest
          exact ⟨_ :: bs, rfl, .cons hf hbs⟩
  · rintro ⟨bs, rfl, hbs⟩
    induction hbs with
    | nil => exact .nil
    | cons hf _ ih => exact .leaf hf ih

theorem hasLeaf (h : Replaced f ts us) : Forest.hasLeaf us = Forest.hasLeaf ts := by
  induction h with
  | nil => simp [Forest.hasLeaf]
  | leaf _ _ _ => simp [Forest.hasLeaf]
  | node _ _ ihc ih => simp [Forest.hasLeaf, ihc, ih]

theorem countP_bears (p : Connective) (h : Replaced f ts us) :
    us.countP (bears p) = ts.countP (bears p) := by
  induction h with
  | nil => rfl
  | leaf _ _ ih => simp [bears, ih]
  | node hc _ _ ih => simp [List.countP_cons, bears, ih, hc.hasLeaf]

theorem noClash (operator : Connective) (h : Replaced f ts us) :
    NoClash operator us ↔ NoClash operator ts := by
  simp only [NoClash, h.countP_bears]

theorem separated (h : Replaced f ts us) : Separated us ↔ Separated ts := by
  induction h with
  | nil => simp [Separated]
  | leaf _ _ ih => simp [Separated, ih]
  | node hc _ ihc ih => simp [Separated, hc.noClash, ihc, ih]

theorem leaves (h : Replaced f ts us) :
    List.Forall₂ (fun a b => a.1 = b.1 ∧ f a.2 = .ok b.2) (Forest.leaves ts) (Forest.leaves us) := by
  induction h with
  | nil => simp [Forest.leaves]
  | leaf hf _ ih => simpa [Forest.leaves, hf] using ih
  | node _ _ ihc ih =>
      simp only [Forest.leaves]
      refine List.rel_append ?_ ih
      simpa [List.forall₂_map_left_iff, List.forall₂_map_right_iff] using ihc

/-- Reading the replaced forest is reading the first one through the replacements of its leaves. -/
theorem meets {p : β → Prop} (operator : Connective) (h : Replaced f ts us) :
    Meets p operator us ↔ Meets (fun a => ∃ b, f a = .ok b ∧ p b) operator ts := by
  induction h generalizing operator with
  | nil => simp [Meets]
  | leaf hf _ ih => simp [Meets, hf, ih]
  | node hc _ ihc ih => simp [Meets, hc.hasLeaf, ihc, ih]

end Replaced

end Forest

end SearchStore
