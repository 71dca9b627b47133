import Mathlib.Data.List.Forall2

/-!
# Results of checked computations

A sequence of checked steps succeeds if each step does, and so does a step that is made for all items of a list.
Lists whose items correspond one by one are compared by `List.Forall₂`. A step that is made for all items fails with
the first item of which it fails (`mapM_eq_error_iff`).
-/

namespace SearchStore

variable {α β γ ε : Type}

theorem exists_of_bind_eq_ok {first : Except ε α} {next : α → Except ε β} {result : β}
    (h : (first >>= next) = .ok result) : ∃ value, first = .ok value ∧ next value = .ok result := by
  cases first with
  | error e => cases h
  | ok value => exact ⟨value, rfl, h⟩

theorem exists_of_map_eq_ok {result : Except ε α} {f : α → β} {value : β} (h : result.map f = .ok value) :
    ∃ a, result = .ok a ∧ f a = value := by
  cases result with
  | ok a => exact ⟨a, rfl, Except.ok.inj h⟩
  | error e => cases h

theorem forM_eq_ok {f : α → Except ε PUnit} {as : List α} (h : ∀ a ∈ as, f a = .ok ()) :
    as.forM f = .ok () := by
  induction as with
  | nil => rfl
  | cons a rest ih =>
    obtain ⟨ha, hrest⟩ := List.forall_mem_cons.mp h
    simp [List.forM, ha, ih hrest, bind, Except.bind]

theorem mapM_eq_ok_iff {f : α → Except ε β} {as : List α} {bs : List β} :
    as.mapM f = .ok bs ↔ List.Forall₂ (fun a b => f a = .ok b) as bs := by
  constructor
  · intro h
    induction as generalizing bs with
    | nil =>
      obtain rfl : [] = bs := Except.ok.inj h
      exact .nil
    | cons a as ih =>
      cases ha : f a with
      | error e => simp [ha, bind, Except.bind] at h
      | ok b =>
          cases hrest : as.mapM f with
          | error e => simp [ha, hrest, bind, Except.bind] at h
          | ok rest =>
              obtain rfl : b :: rest = bs := by
                simpa [ha, hrest, bind, Except.bind, pure, Except.pure] using h
              exact .cons ha (ih hrest)
  · intro h
    induction h with
    | nil => rfl
    | cons ha _ ih => simp [ha, ih, bind, Except.bind, pure, Except.pure]

theorem mapM_slice {f : α → Except ε β} {as : List α} {bs : List β} (h : as.mapM f = .ok bs)
    (start size : Nat) : ((as.drop start).take size).mapM f = .ok ((bs.drop start).take size) := by
  rw [mapM_eq_ok_iff] at h ⊢
  exact List.forall₂_take size (List.forall₂_drop start h)

theorem exists_right_of_forall₂ {R : α → β → Prop} {items : List α} {values : List β}
    (h : List.Forall₂ R items values) {item : α} (hitem : item ∈ items) : ∃ value ∈ values, R item value := by
  obtain ⟨i, hi, rfl⟩ := List.mem_iff_getElem.mp hitem
  have hvalue : i < values.length := by rwa [← h.length_eq]
  exact ⟨values[i], List.getElem_mem hvalue, h.get hi hvalue⟩

theorem exists_left_of_forall₂ {R : α → β → Prop} {items : List α} {values : List β}
    (h : List.Forall₂ R items values) {value : β} (hvalue : value ∈ values) : ∃ item ∈ items, R item value :=
  exists_right_of_forall₂ h.flip hvalue

/-! ### Failures -/

/-- The error of a failure. -/
def failure? : Except ε α → Option ε
  | .ok _ => none
  | .error e => some e

theorem failure?_eq_some_iff {result : Except ε α} {e : ε} : failure? result = some e ↔ result = .error e := by
  cases result with
  | ok value => exact ⟨nofun, nofun⟩
  | error e' => simp [failure?]

theorem failure?_eq_none_iff {result : Except ε α} : failure? result = none ↔ ∃ value, result = .ok value := by
  cases result <;> simp [failure?]

@[simp] theorem failure?_map (g : α → β) (result : Except ε α) : failure? (result.map g) = failure? result := by
  cases result <;> rfl

/-- Of two parts, the first one that fails counts. -/
theorem failure?_both (first : Except ε α) (second : Except ε β) (g : α → β → γ) :
    failure? (first.bind fun a => second.bind fun b => .ok (g a b)) = (failure? first).or (failure? second) := by
  cases first with
  | error e => rfl
  | ok a => cases second <;> rfl

theorem failure?_mapM (f : α → Except ε β) (as : List α) :
    failure? (as.mapM f) = as.findSome? fun a => failure? (f a) := by
  induction as with
  | nil => rfl
  | cons a rest ih =>
    rw [List.findSome?_cons, ← ih]
    cases ha : f a with
    | error e => simp [ha, failure?, bind, Except.bind]
    | ok b => cases hrest : rest.mapM f <;> simp [ha, hrest, failure?, bind, Except.bind, pure, Except.pure]

/-- A step that is made for all items fails with the first item of which it fails. -/
theorem mapM_eq_error_iff {f : α → Except ε β} {as : List α} {e : ε} :
    as.mapM f = .error e ↔
      ∃ before a after, as = before ++ a :: after ∧ f a = .error e ∧ ∀ b ∈ before, ∃ value, f b = .ok value := by
  rw [← failure?_eq_some_iff, failure?_mapM, List.findSome?_eq_some_iff]
  simp only [failure?_eq_some_iff, failure?_eq_none_iff]

end SearchStore
