import SearchStore.Proofs.Json.Regrouping

/-!
# What a layer touches

A layer that is laid over an object changes what it names and nothing else. Chains of keys that lead through objects
in both (`Opens`) lead to what one of them has there, or to the merge of both (`path?_merge_of_opens`). A chain that
leaves the upper layer at a key that it does not have leads to what it leads to below (`path?_merge_of_leaves`), at
any depth behind that key. `overlays_mergeFields` collects this with the order of the keys.
-/

namespace SearchStore.Json

/-! ### Chains of keys -/

/-- The chain of keys leads through objects: each shorter part of it, from the front, leads to one. -/
def Opens (value : Json) (keys : List String) : Prop :=
  ∀ front, front <+: keys → front ≠ keys → ∃ fields, value.path? front = some (.object fields)

theorem path?_append (value : Json) (front rest : List String) :
    value.path? (front ++ rest) = (value.path? front).bind (path? rest) := by
  induction front generalizing value with
  | nil => rfl
  | cons key front ih =>
    rw [List.cons_append, path?, path?]
    cases value.get? key with
    | none => rfl
    | some inner => exact ih inner

theorem Opens.exists_object {value : Json} {key : String} {rest : List String} (h : value.Opens (key :: rest)) :
    ∃ fields, value = .object fields := by
  obtain ⟨fields, hfields⟩ := h [] List.nil_prefix nofun
  exact ⟨fields, Option.some.inj hfields⟩

theorem Opens.below {fields : Fields} {inner : Json} {key : String} {rest : List String}
    (h : (Json.object fields).Opens (key :: rest)) (hkey : Assoc.get? key fields = some inner) :
    inner.Opens rest := by
  intro front hfront hne
  have hlonger : key :: front <+: key :: rest := List.cons_prefix_cons.mpr ⟨rfl, hfront⟩
  obtain ⟨below, hbelow⟩ := h (key :: front) hlonger (by simpa using hne)
  rw [path?_cons_object hkey] at hbelow
  exact ⟨below, hbelow⟩

theorem opens_of_path? {value x : Json} {keys : List String} (h : value.path? keys = some x) : value.Opens keys := by
  rintro front ⟨behind, rfl⟩ hne
  rw [path?_append] at h
  obtain ⟨inner, hinner, hbehind⟩ := Option.bind_eq_some_iff.mp h
  cases behind with
  | nil => simp at hne
  | cons key rest =>
    obtain ⟨fields, -, rfl, -, -⟩ := exists_of_path?_cons hbehind
    exact ⟨fields, hinner⟩

theorem HasUniqueKeys.path? {value x : Json} {keys : List String} (hvalue : HasUniqueKeys value)
    (h : value.path? keys = some x) : HasUniqueKeys x := by
  induction keys generalizing value with
  | nil =>
    obtain rfl := Option.some.inj h
    exact hvalue
  | cons key rest ih =>
    obtain ⟨fields, inner, rfl, hkey, hrest⟩ := exists_of_path?_cons h
    rw [HasUniqueKeys] at hvalue
    exact ih (hvalue.2.get? hkey) hrest

/-! ### Merged values at the end of a chain -/

theorem get?_merge_object (lower : Json) {above : Fields} (h : (Assoc.keys above).Nodup) (key : String) :
    (merge lower (.object above)).get? key = Option.merge merge (lower.get? key) (Assoc.get? key above) := by
  cases hlower : lower.asObject? with
  | none =>
    have hnone : lower.get? key = none := by
      cases lower <;> first | rfl | cases hlower
    rw [merge_object_of_none hlower, hnone, get?]
    cases Assoc.get? key above <;> rfl
  | some below =>
    obtain rfl := eq_object_of_asObject? hlower
    rw [merge_object, get?, get?, get?_mergeFields key below h]
    cases Assoc.get? key above with
    | none => simp
    | some y => cases Assoc.get? key below <;> simp

/-- At a chain of keys that leads through objects in the upper value, a value that one of them has is kept, and two
values are merged. -/
theorem path?_merge_of_opens {lower upper : Json} {keys : List String} (hunique : HasUniqueKeys upper)
    (hupper : upper.Opens keys) :
    (merge lower upper).path? keys = Option.merge merge (lower.path? keys) (upper.path? keys) := by
  induction keys generalizing lower upper with
  | nil => rfl
  | cons key rest ih =>
    obtain ⟨above, rfl⟩ := hupper.exists_object
    rw [HasUniqueKeys] at hunique
    have hget : (object above).get? key = Assoc.get? key above := rfl
    rw [path?, path?, path?, hget, get?_merge_object lower hunique.1]
    cases habove : Assoc.get? key above with
    | none => simp
    | some y =>
      cases lower.get? key with
      | none => simp
      | some x => exact ih (hunique.2.get? habove) (hupper.below habove)

/-- A chain of keys that leaves the upper value at a key that it does not have leads to what it leads to below. -/
theorem path?_merge_of_leaves {lower upper : Json} {front : List String} {above : Fields} {key : String}
    (hunique : HasUniqueKeys upper) (hfront : upper.path? front = some (.object above))
    (hkey : key ∉ Assoc.keys above) (rest : List String) :
    (merge lower upper).path? (front ++ key :: rest) = lower.path? (front ++ key :: rest) := by
  have hobject := hunique.path? hfront
  rw [HasUniqueKeys] at hobject
  rw [path?_append, path?_append, path?_merge_of_opens hunique (opens_of_path? hfront), hfront]
  have habsent := Assoc.get?_eq_none_iff.mpr hkey
  cases lower.path? front with
  | none => simp [path?, get?, habsent]
  | some x => simp [path?, get?_merge_object x hobject.1, habsent]

/-! ### What is left -/

/-- What is left where `upper` was laid over `lower`. -/
structure Overlays (lower upper merged : Json) : Prop where
  /-- Where the chain leads through objects in the upper value: a value that only one of them has is kept, and two
  values are merged. -/
  value : ∀ keys, upper.Opens keys →
    merged.path? keys = Option.merge merge (lower.path? keys) (upper.path? keys)
  /-- Two objects become one that has the keys of the lower one, and behind them the new keys of the upper one. -/
  objects : ∀ keys below above, lower.path? keys = some (.object below) → upper.path? keys = some (.object above) →
    ∃ fields, merged.path? keys = some (.object fields) ∧
      Assoc.keys fields = Assoc.keys below ++ (Assoc.keys above).filter (· ∉ Assoc.keys below)
  /-- Of two arrays, the items of the upper one stand behind those of the lower one. -/
  arrays : ∀ keys below above, lower.path? keys = some (.array below) → upper.path? keys = some (.array above) →
    merged.path? keys = some (.array (below ++ above))
  /-- Any other two values leave the upper one. -/
  replaced : ∀ keys x y, lower.path? keys = some x → upper.path? keys = some y → ¬ Joins x y →
    merged.path? keys = some y
  /-- A chain that leaves the upper value at a key that it does not have leads where it led before. -/
  untouched : ∀ front key rest above, upper.path? front = some (.object above) → key ∉ Assoc.keys above →
    merged.path? (front ++ key :: rest) = lower.path? (front ++ key :: rest)

/-- **A layer only touches what it names.** An object that is laid over another one keeps every value of the lower
one at which the two do not meet, at any depth, and every key of it; the values at which they meet are merged, and
the keys of merged objects keep their order, with the new ones last. -/
theorem overlays_mergeFields (target : Fields) {source : Fields} (hunique : HasUniqueKeys (.object source)) :
    Overlays (.object target) (.object source) (.object (mergeFields target source)) := by
  rw [← merge_object]
  have hmerged : ∀ keys x y, (Json.object target).path? keys = some x → (Json.object source).path? keys = some y →
      (merge (.object target) (.object source)).path? keys = some (merge x y) := by
    intro keys x y hx hy
    rw [path?_merge_of_opens hunique (opens_of_path? hy), hx, hy]
    rfl
  refine ⟨?_, ?_, ?_, ?_, ?_⟩
  · intro keys hupper
    exact path?_merge_of_opens hunique hupper
  · intro keys below above hbelow habove
    have hobject := hunique.path? habove
    rw [HasUniqueKeys] at hobject
    refine ⟨mergeFields below above, ?_, keys_mergeFields below hobject.1⟩
    rw [hmerged keys _ _ hbelow habove, merge_object]
  · intro keys below above hbelow habove
    rw [hmerged keys _ _ hbelow habove, merge]
  · intro keys x y hx hy hjoins
    rw [hmerged keys x y hx hy, merge_of_not_joins hjoins]
  · intro front key rest above hfront hkey
    exact path?_merge_of_leaves hunique hfront hkey rest

/-- Configured parameters under a query that names a sort: the search of the body stays, and so does the order of
the keys. -/
theorem overlays_mergeFields_sort :
    let parameters : Fields :=
      [("body", .object [("query", .object [("match_all", .empty)]), ("sort", strings ["title"])]), ("from", .natural 0)]
    let query : Fields := [("size", .natural 10), ("body", .object [("sort", strings ["_doc"])])]
    let merged : Json := .object (mergeFields parameters query)
    HasUniqueKeys (.object query) ∧ merged.path? ["body", "query", "match_all"] = some .empty ∧
      merged.path? ["body", "sort"] = some (strings ["title", "_doc"]) ∧
      ∃ fields, merged = .object fields ∧ Assoc.keys fields = ["body", "from", "size"] := by
  intro parameters query merged
  have hunique : HasUniqueKeys (.object query) := by
    simp [query, HasUniqueKeys, UniqueInFields, UniqueInItems, Assoc.keys, strings, natural]
  have hoverlays := overlays_mergeFields parameters hunique
  refine ⟨hunique, ?_, ?_, ?_⟩
  · exact hoverlays.untouched ["body"] "query" ["match_all"] _ rfl (by decide)
  · exact hoverlays.arrays ["body", "sort"] _ _ rfl rfl
  · obtain ⟨fields, hfields, hkeys⟩ := hoverlays.objects [] parameters query rfl rfl
    exact ⟨fields, Option.some.inj hfields, hkeys⟩

end SearchStore.Json
