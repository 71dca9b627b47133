import SearchStore.Proofs.Json.Merge

/-!
# Grouping layers

Three layers can be merged from below, or the upper two first. Both groupings give objects with the same keys in the
same order (`keys_mergeFields_assoc`), and the values can differ at one kind of place only: where the middle layer
separates an object or array below it from one of the same kind above it. Merged from below, the middle value
replaces the lower one, which is gone; with the upper two merged first, the lower one is found again.

`merge_assoc_iff` says that groupings agree exactly if the lower value leaves no trace at such places, by recursion
on the upper layer. `merge_assoc_of_not_separates` says so for layers without such places.
-/

namespace SearchStore.Json

/-! ### Values that join -/

/-- Both values are objects, or both are arrays. Values that do not join replace each other. -/
def Joins : Json → Json → Prop
  | .object _, .object _ => True
  | .array _, .array _ => True
  | _, _ => False

instance : DecidableRel Joins := fun lower upper =>
  match lower with
  | .object _ =>
    match upper with
    | .object _ => isTrue trivial
    | .null | .bool _ | .number _ | .string _ | .array _ => isFalse id
  | .array _ =>
    match upper with
    | .array _ => isTrue trivial
    | .null | .bool _ | .number _ | .string _ | .object _ => isFalse id
  | .null | .bool _ | .number _ | .string _ => isFalse id

theorem merge_of_not_joins {lower upper : Json} (h : ¬ Joins lower upper) : merge lower upper = upper := by
  cases upper with
  | array items =>
    cases lower with
    | array => exact absurd trivial h
    | _ => rfl
  | object fields =>
    cases lower with
    | object => exact absurd trivial h
    | _ => rfl
  | _ => rfl

theorem Joins.symm {lower upper : Json} (h : Joins lower upper) : Joins upper lower := by
  cases lower <;> cases upper <;> first | exact trivial | exact h

theorem Joins.trans {lower middle upper : Json} (h : Joins lower middle) (h' : Joins middle upper) :
    Joins lower upper := by
  cases lower <;> cases middle <;> cases upper <;> first | exact trivial | exact h | exact h'

theorem joins_merge_left {lower middle : Json} (h : Joins lower middle) : Joins middle (merge lower middle) := by
  cases lower <;> cases middle <;> first | exact trivial | exact h

/-! ### Where groupings differ -/

/-- The middle value is of another kind than the outer two, which join. -/
def Separates (middle lower upper : Json) : Prop := Joins lower upper ∧ ¬ Joins lower middle

instance (middle lower upper : Json) : Decidable (Separates middle lower upper) :=
  inferInstanceAs (Decidable (_ ∧ _))

section
variable {lower middle upper : Json}

theorem merge_assoc_iff_of_not_joins (h : ¬ (Joins lower middle ∧ Joins middle upper)) :
    merge (merge lower middle) upper = merge lower (merge middle upper) ↔
      (Separates middle lower upper → merge lower upper = upper) := by
  by_cases hlower : Joins lower middle
  · -- The upper value replaces the other two, whichever of them it is laid over first.
    have hupper : ¬ Joins middle upper := fun hupper => h ⟨hlower, hupper⟩
    have hmerged : ¬ Joins (merge lower middle) upper := fun hjoins =>
      hupper ((joins_merge_left hlower).trans hjoins)
    have houter : ¬ Joins lower upper := fun hjoins => hupper (hlower.symm.trans hjoins)
    rw [merge_of_not_joins hmerged, merge_of_not_joins hupper, merge_of_not_joins houter]
    exact ⟨fun _ _ => rfl, fun _ => rfl⟩
  · rw [merge_of_not_joins hlower]
    by_cases hupper : Joins middle upper
    · -- The middle value replaces the lower one, alone or with the upper one over it.
      have hmerged : ¬ Joins lower (merge middle upper) := fun hjoins =>
        hlower (hjoins.trans ((joins_merge_left hupper).symm.trans hupper.symm))
      have hseparates : ¬ Separates middle lower upper := fun hseparates =>
        hlower (hseparates.1.trans hupper.symm)
      rw [merge_of_not_joins hmerged]
      exact ⟨fun _ hsep => absurd hsep hseparates, fun _ => rfl⟩
    · rw [merge_of_not_joins hupper]
      constructor
      · intro heq _
        exact heq.symm
      · intro hkept
        by_cases houter : Joins lower upper
        · exact (hkept ⟨houter, hlower⟩).symm
        · exact (merge_of_not_joins houter).symm

end

/-- Objects regroup exactly if the values at each key do that all three of them have. -/
theorem mergeFields_assoc_iff {lower middle upper : Fields} (hlower : (Assoc.keys lower).Nodup)
    (hmiddle : (Assoc.keys middle).Nodup) (hupper : (Assoc.keys upper).Nodup) :
    mergeFields (mergeFields lower middle) upper = mergeFields lower (mergeFields middle upper) ↔
      ∀ key x y z, Assoc.get? key lower = some x → Assoc.get? key middle = some y →
        Assoc.get? key upper = some z → merge (merge x y) z = merge x (merge y z) := by
  have hboth := nodup_keys_mergeFields hmiddle hupper
  have hvalues : ∀ key,
      Assoc.get? key (mergeFields (mergeFields lower middle) upper) =
          Assoc.get? key (mergeFields lower (mergeFields middle upper)) ↔
        ∀ x y z, Assoc.get? key lower = some x → Assoc.get? key middle = some y →
          Assoc.get? key upper = some z → merge (merge x y) z = merge x (merge y z) := by
    intro key
    rw [get?_mergeFields key _ hupper, get?_mergeFields key lower hmiddle, get?_mergeFields key lower hboth,
      get?_mergeFields key middle hupper]
    cases Assoc.get? key lower <;> cases Assoc.get? key middle <;> cases Assoc.get? key upper <;> simp
  constructor
  · intro heq key
    exact (hvalues key).mp (congrArg (Assoc.get? key) heq)
  · intro h
    refine Assoc.eq_of_keys_eq (keys_mergeFields_assoc lower hmiddle hupper) ?_ fun key => (hvalues key).mpr (h key)
    exact nodup_keys_mergeFields (nodup_keys_mergeFields hlower hmiddle) hupper

/-! ### Chains of keys -/

theorem exists_of_path?_cons {value x : Json} {key : String} {rest : List String}
    (h : value.path? (key :: rest) = some x) :
    ∃ fields inner, value = .object fields ∧ Assoc.get? key fields = some inner ∧ inner.path? rest = some x := by
  rw [path?] at h
  obtain ⟨inner, hinner, hrest⟩ := Option.bind_eq_some_iff.mp h
  cases value with
  | object fields => exact ⟨fields, inner, rfl, hinner, hrest⟩
  | _ => cases hinner

theorem path?_cons_object {fields : Fields} {inner : Json} {key : String} (h : Assoc.get? key fields = some inner)
    (rest : List String) : (Json.object fields).path? (key :: rest) = inner.path? rest := by
  rw [path?, get?, h, Option.bind_some]

theorem sizeOf_lt_of_get? {fields : Fields} {inner : Json} {key : String} (h : Assoc.get? key fields = some inner) :
    sizeOf inner < sizeOf fields := by
  induction fields with
  | nil => cases h
  | cons entry rest ih =>
    obtain ⟨k, value⟩ := entry
    rw [Assoc.get?] at h
    split at h
    · obtain rfl := Option.some.inj h
      simp only [List.cons.sizeOf_spec, Prod.mk.sizeOf_spec]
      omega
    · have := ih h
      simp only [List.cons.sizeOf_spec]
      omega

theorem UniqueInFields.get? {fields : Fields} {inner : Json} {key : String} (h : UniqueInFields fields)
    (hkey : Assoc.get? key fields = some inner) : HasUniqueKeys inner := by
  induction fields with
  | nil => cases hkey
  | cons entry rest ih =>
    obtain ⟨k, value⟩ := entry
    rw [UniqueInFields] at h
    rw [Assoc.get?] at hkey
    split at hkey
    · obtain rfl := Option.some.inj hkey
      exact h.1
    · exact ih h.2 hkey

/-- The condition holds of the three values at every chain of keys that all three have. -/
def AtSharedPaths (P : Json → Json → Json → Prop) (lower middle upper : Json) : Prop :=
  ∀ keys x y z, lower.path? keys = some x → middle.path? keys = some y → upper.path? keys = some z → P x y z

theorem atSharedPaths_object_iff {P : Json → Json → Json → Prop} {lower middle upper : Fields} :
    AtSharedPaths P (.object lower) (.object middle) (.object upper) ↔
      P (.object lower) (.object middle) (.object upper) ∧
        ∀ key x y z, Assoc.get? key lower = some x → Assoc.get? key middle = some y →
          Assoc.get? key upper = some z → AtSharedPaths P x y z := by
  constructor
  · intro h
    refine ⟨h [] _ _ _ rfl rfl rfl, ?_⟩
    intro key x y z hx hy hz keys x' y' z' hx' hy' hz'
    refine h (key :: keys) x' y' z' ?_ ?_ ?_
    · rwa [path?_cons_object hx]
    · rwa [path?_cons_object hy]
    · rwa [path?_cons_object hz]
  · rintro ⟨htop, hbelow⟩ keys x y z hx hy hz
    cases keys with
    | nil =>
      cases hx
      cases hy
      cases hz
      exact htop
    | cons key rest =>
      obtain ⟨_, x', hlower, hkey, hrest⟩ := exists_of_path?_cons hx
      obtain ⟨_, y', hmiddle, hkey', hrest'⟩ := exists_of_path?_cons hy
      obtain ⟨_, z', hupper, hkey'', hrest''⟩ := exists_of_path?_cons hz
      cases hlower
      cases hmiddle
      cases hupper
      exact hbelow key x' y' z' hkey hkey' hkey'' rest x y z hrest hrest' hrest''

/-- Values that are not all objects share no chain of keys but the empty one. -/
theorem atSharedPaths_iff_of_not_object {P : Json → Json → Json → Prop} {lower middle upper : Json}
    (h : ¬ (lower.asObject?.isSome ∧ middle.asObject?.isSome ∧ upper.asObject?.isSome)) :
    AtSharedPaths P lower middle upper ↔ P lower middle upper := by
  constructor
  · intro hpaths
    exact hpaths [] _ _ _ rfl rfl rfl
  · intro htop keys x y z hx hy hz
    cases keys with
    | nil =>
      cases hx
      cases hy
      cases hz
      exact htop
    | cons key rest =>
      obtain ⟨_, _, rfl, -⟩ := exists_of_path?_cons hx
      obtain ⟨_, _, rfl, -⟩ := exists_of_path?_cons hy
      obtain ⟨_, _, rfl, -⟩ := exists_of_path?_cons hz
      exact absurd ⟨rfl, rfl, rfl⟩ h

/-- The groupings of three layers agree exactly if, wherever the middle one separates values of the outer two, the
lower of these two leaves no trace under the upper one. -/
theorem merge_assoc_iff {lower middle upper : Json} (hlower : HasUniqueKeys lower)
    (hmiddle : HasUniqueKeys middle) (hupper : HasUniqueKeys upper) :
    merge (merge lower middle) upper = merge lower (merge middle upper) ↔
      AtSharedPaths (fun x y z => Separates y x z → merge x z = z) lower middle upper := by
  by_cases hobjects : lower.asObject?.isSome ∧ middle.asObject?.isSome ∧ upper.asObject?.isSome
  · obtain ⟨hlow, hmid, hup⟩ := hobjects
    obtain ⟨lowerFields, hlow⟩ := Option.isSome_iff_exists.mp hlow
    obtain ⟨middleFields, hmid⟩ := Option.isSome_iff_exists.mp hmid
    obtain ⟨upperFields, hup⟩ := Option.isSome_iff_exists.mp hup
    obtain rfl := eq_object_of_asObject? hlow
    obtain rfl := eq_object_of_asObject? hmid
    have hup := eq_object_of_asObject? hup
    have htop : Separates (.object middleFields) (.object lowerFields) (.object upperFields) →
        merge (.object lowerFields) (.object upperFields) = .object upperFields :=
      fun hseparates => absurd trivial hseparates.2
    rw [hup] at hupper ⊢
    simp only [merge_object, Json.object.injEq]
    rw [HasUniqueKeys] at hlower hmiddle hupper
    rw [mergeFields_assoc_iff hlower.1 hmiddle.1 hupper.1, atSharedPaths_object_iff, and_iff_right htop]
    refine forall₄_congr fun key x y z => forall₃_congr fun hx hy hz => ?_
    have hsmaller : sizeOf z < sizeOf upper := by
      have hinner := sizeOf_lt_of_get? hz
      rw [hup, object.sizeOf_spec]
      omega
    exact merge_assoc_iff (hlower.2.get? hx) (hmiddle.2.get? hy) (hupper.2.get? hz)
  · rw [atSharedPaths_iff_of_not_object hobjects]
    by_cases harrays : Joins lower middle ∧ Joins middle upper
    · cases lower <;> cases middle <;> cases upper <;> simp_all [merge, Joins, asObject?, Separates]
    · exact merge_assoc_iff_of_not_joins harrays
termination_by sizeOf upper

/-- **Layers can be grouped where none separates its neighbours.** Let three layers have unique keys, and let the
middle one, at no chain of keys that all of them have, be of another kind than two objects or two arrays around it.
Then it does not matter which two are merged first, not even for the order of keys. A value between two arrays, the
lower of which is not empty, makes a difference. -/
theorem merge_assoc_of_not_separates :
    (∀ lower middle upper : Json, HasUniqueKeys lower → HasUniqueKeys middle → HasUniqueKeys upper →
      AtSharedPaths (fun x y z => ¬ Separates y x z) lower middle upper →
        merge (merge lower middle) upper = merge lower (merge middle upper)) ∧
    ∀ (items later : List Json) (middle : Json), items ≠ [] → middle.asArray? = none →
      merge (merge (.array items) middle) (.array later) ≠ merge (.array items) (merge middle (.array later)) := by
  constructor
  · intro lower middle upper hlower hmiddle hupper hseparates
    rw [merge_assoc_iff hlower hmiddle hupper]
    intro keys x y z hx hy hz hsep
    exact absurd hsep (hseparates keys x y z hx hy hz)
  · intro items later middle hitems hmiddle
    have hjoins : ∀ other : List Json, ¬ Joins (.array other) middle := by
      intro other
      cases middle with
      | array => cases hmiddle
      | _ => exact not_false
    rw [merge_of_not_joins (hjoins items), merge_of_not_joins fun h => hjoins later h.symm, merge]
    simpa using hitems

/-- Configured parameters, a query and a target that meet in one object and one array, with a value that two of them
replace. -/
theorem merge_assoc_of_parameters :
    let parameters : Json :=
      .object
        [("from", .natural 0),
          ("body", .object [("sort", strings ["title"]), ("query", .object [("match_all", .empty)])])]
    let query : Json :=
      .object [("body", .object [("size", .natural 5), ("sort", strings ["year"])]), ("index", strings ["news"])]
    let target : Json :=
      .object
        [("index", .string "books"), ("body", .object [("sort", strings ["_doc"]), ("query", .null)]),
          ("from", .natural 3)]
    AtSharedPaths (fun x y z => ¬ Separates y x z) parameters query target ∧
    merge (merge parameters query) target = merge parameters (merge query target) := by
  intro parameters query target
  have hunique : HasUniqueKeys parameters ∧ HasUniqueKeys query ∧ HasUniqueKeys target := by
    simp [parameters, query, target, HasUniqueKeys, UniqueInFields, UniqueInItems, Assoc.keys, strings, natural, empty]
  have hshared : AtSharedPaths (fun x y z => ¬ Separates y x z) parameters query target := by
    refine atSharedPaths_object_iff.mpr ⟨by decide, ?_⟩
    intro key x y z hx hy hz
    have hkey : key = "body" := by
      have hall : ∀ k ∈ ["from", "body"], k ∈ ["body", "index"] → k = "body" := by decide
      exact hall key (Assoc.mem_keys_of_get? hx) (Assoc.mem_keys_of_get? hy)
    subst hkey
    cases hx
    cases hy
    cases hz
    refine atSharedPaths_object_iff.mpr ⟨by decide, ?_⟩
    intro key x y z hx hy hz
    have hkey : key = "sort" := by
      have hall : ∀ k ∈ ["sort", "query"], k ∈ ["size", "sort"] → k = "sort" := by decide
      exact hall key (Assoc.mem_keys_of_get? hx) (Assoc.mem_keys_of_get? hy)
    subst hkey
    cases hx
    cases hy
    cases hz
    exact (atSharedPaths_iff_of_not_object (by decide)).mpr (by decide)
  exact ⟨hshared, merge_assoc_of_not_separates.1 parameters query target hunique.1 hunique.2.1 hunique.2.2 hshared⟩

end SearchStore.Json
