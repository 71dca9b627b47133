import SearchStore.Clause.Filter
import SearchStore.Proofs.Filter.Forest

/-!
# Readings of filters

What a filter says of a document is up to the engine. A `Reading` fixes only that `and` and `or` join the
filters in their arrays; every other value is an arbitrary predicate. An `EngineReading` also fixes `not`
and the `bool` clause of a restricted search. `EngineReading.ofAtoms` builds one from any predicate on the
values that are none of these, so nothing else is fixed.
-/

namespace SearchStore

open Clause (joined)

/-- A reading of filters as predicates on documents. -/
structure Reading (δ : Type) where
  Holds : Json → δ → Prop
  holds_and : ∀ clauses d, Holds (joined .and clauses) d ↔ ∀ clause ∈ clauses, Holds clause d
  holds_or : ∀ clauses d, Holds (joined .or clauses) d ↔ ∃ clause ∈ clauses, Holds clause d

/-- A reading that also complements under `not` and restricts the search of a `bool` clause by its
filter. -/
structure EngineReading (δ : Type) extends Reading δ where
  holds_not : ∀ clause d, Holds (.object [("not", clause)]) d ↔ ¬ Holds clause d
  holds_bool : ∀ search filter d,
    Holds (.object [("bool", .object [("must", search), ("filter", filter)])]) d ↔
      Holds search d ∧ Holds filter d

/-! ### Joined clauses, for either operator -/

namespace Reading

variable {δ : Type} (r : Reading δ)

theorem holds_joined_nil (p : Connective) (d : δ) : r.Holds (joined p []) d ↔ p.Unit := by
  cases p with
  | and => simp [r.holds_and, Connective.Unit]
  | or => simp [r.holds_or, Connective.Unit]

theorem holds_joined_cons (p : Connective) (clause : Json) (clauses : List Json) (d : δ) :
    r.Holds (joined p (clause :: clauses)) d ↔
      p.Join (r.Holds clause d) (r.Holds (joined p clauses) d) := by
  cases p with
  | and => simp [r.holds_and, Connective.Join]
  | or => simp [r.holds_or, Connective.Join]

theorem holds_joined_append (p : Connective) (xs ys : List Json) (d : δ) :
    r.Holds (joined p (xs ++ ys)) d ↔
      p.Join (r.Holds (joined p xs) d) (r.Holds (joined p ys) d) := by
  cases p with
  | and => simp [r.holds_and, Connective.Join, or_imp, forall_and]
  | or => simp [r.holds_or, Connective.Join, or_and_right, exists_or]

end Reading

/-! ### Readings exist -/

/-- Whether a filter is true, given which of the values are that are no `and`, `or`, `not` or `bool`
clause. -/
def truth (atom : Json → Prop) : Json → Prop
  | .object [("and", .array clauses)] => ∀ clause, (_ : clause ∈ clauses) → truth atom clause
  | .object [("or", .array clauses)] => ∃ clause, ∃ _ : clause ∈ clauses, truth atom clause
  | .object [("not", clause)] => ¬ truth atom clause
  | .object [("bool", .object [("must", search), ("filter", filter)])] =>
    truth atom search ∧ truth atom filter
  | value => atom value

/-- The keys of the clauses that `truth` takes apart. -/
def joiningKeys : List String := ["and", "or", "not", "bool"]

theorem truth_entry {key : String} (h : key ∉ joiningKeys) (value : Json) (atom : Json → Prop) :
    truth atom (.object [(key, value)]) ↔ atom (.object [(key, value)]) := by
  have hkey : ∀ other ∈ joiningKeys, ∀ v, Json.object [(key, value)] ≠ .object [(other, v)] := by
    rintro other hother v heq
    obtain ⟨rfl, -⟩ : key = other ∧ value = v := by simpa using heq
    exact h hother
  simp only [joiningKeys, List.forall_mem_cons] at hkey
  obtain ⟨hand, hor, hnot, hbool, -⟩ := hkey
  rw [truth]
  · exact fun _ => hand _
  · exact fun _ => hor _
  · exact fun _ => hnot _
  · exact fun _ _ => hbool _

/-- The reading in which the other values are read by `atom`. -/
def EngineReading.ofAtoms {δ : Type} (atom : Json → δ → Prop) : EngineReading δ where
  Holds clause d := truth (atom · d) clause
  holds_and clauses d := by simp [joined, Connective.name, truth]
  holds_or clauses d := by simp [joined, Connective.name, truth]
  holds_not clause d := by simp [truth]
  holds_bool search filter d := by simp [truth]

end SearchStore
