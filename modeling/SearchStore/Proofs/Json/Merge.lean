import SearchStore.Json.Merge

/-!
# Entries of merged objects

What stands at a key after an object was laid over another: a key that the upper one does not have keeps its
value (`get?_mergeFields_of_absent`), and the value of any other key is laid over the lower one
(`get?_mergeFields`), which an atom replaces (`get?_mergeFields_atom`). The keys are those of the lower object, and
behind them the new ones of the upper (`keys_mergeFields`). Layers that are all objects are merged into an object
(`layers_objects`).
-/

namespace SearchStore.Json

theorem get?_mergeFields_of_absent {key : String} {source : Fields} (h : Assoc.get? key source = none)
    (target : Fields) : Assoc.get? key (mergeFields target source) = Assoc.get? key target := by
  induction source generalizing target with
  | nil => rw [mergeFields]
  | cons entry rest ih =>
    obtain ⟨k, value⟩ := entry
    have hk : k ≠ key := by
      rintro rfl
      simp [Assoc.get?] at h
    have hrest : Assoc.get? key rest = none := by
      simpa [Assoc.get?, hk] using h
    rw [mergeFields, ih hrest, Assoc.get?_alter, if_neg (Ne.symm hk)]

theorem get?_mergeFields (key : String) (target : Fields) {source : Fields}
    (h : (Assoc.keys source).Nodup) :
    Assoc.get? key (mergeFields target source) =
      match Assoc.get? key source with
      | none => Assoc.get? key target
      | some value =>
        some (((Assoc.get? key target).map fun lower => merge lower value).getD value) := by
  induction source generalizing target with
  | nil => rw [mergeFields]; rfl
  | cons entry rest ih =>
    obtain ⟨k, value⟩ := entry
    obtain ⟨hk, hrest⟩ := List.nodup_cons.mp h
    rw [mergeFields, ih _ hrest, Assoc.get?_alter, Assoc.get?]
    by_cases hkey : k = key
    · subst hkey
      simp [Assoc.get?_eq_none_iff.mpr hk]
    · simp [hkey, Ne.symm hkey]

theorem get?_mergeFields_nil (key : String) {source : Fields} (h : (Assoc.keys source).Nodup) :
    Assoc.get? key (mergeFields [] source) = Assoc.get? key source := by
  rw [get?_mergeFields key [] h]
  cases Assoc.get? key source with
  | none => rfl
  | some value => rfl

/-! ### Keys -/

theorem keys_mergeFields (target : Fields) {source : Fields} (h : (Assoc.keys source).Nodup) :
    Assoc.keys (mergeFields target source) =
      Assoc.keys target ++ (Assoc.keys source).filter (· ∉ Assoc.keys target) := by
  induction source generalizing target with
  | nil => simp [mergeFields, Assoc.keys]
  | cons entry rest ih =>
    obtain ⟨key, value⟩ := entry
    have hcons : Assoc.keys ((key, value) :: rest) = key :: Assoc.keys rest := rfl
    rw [hcons] at h ⊢
    obtain ⟨hkey, hrest⟩ := List.nodup_cons.mp h
    rw [mergeFields, ih _ hrest, Assoc.keys_alter, List.filter_cons]
    by_cases hmem : key ∈ Assoc.keys target
    · simp [hmem]
    · -- The source has the key once, so that it is new to the target hides no later one.
      have hlater : (Assoc.keys rest).filter (· ∉ Assoc.keys target ++ [key]) =
          (Assoc.keys rest).filter (· ∉ Assoc.keys target) := by
        refine List.filter_congr fun other hother => ?_
        have hne : other ≠ key := fun heq => hkey (heq ▸ hother)
        simp [hne]
      rw [if_neg hmem, hlater, if_pos (by simpa using hmem), List.append_assoc, List.singleton_append]

theorem nodup_keys_mergeFields {target source : Fields} (htarget : (Assoc.keys target).Nodup)
    (hsource : (Assoc.keys source).Nodup) : (Assoc.keys (mergeFields target source)).Nodup := by
  rw [keys_mergeFields target hsource, List.nodup_append]
  refine ⟨htarget, hsource.filter _, ?_⟩
  rintro key hkey other hother rfl
  simpa [hkey] using (List.mem_filter.mp hother).2

theorem keys_mergeFields_assoc (lower : Fields) {middle upper : Fields} (hmiddle : (Assoc.keys middle).Nodup)
    (hupper : (Assoc.keys upper).Nodup) :
    Assoc.keys (mergeFields (mergeFields lower middle) upper) =
      Assoc.keys (mergeFields lower (mergeFields middle upper)) := by
  have hupperKeys : ∀ key,
      (key ∉ Assoc.keys lower ++ (Assoc.keys middle).filter (· ∉ Assoc.keys lower)) ↔
        key ∉ Assoc.keys lower ∧ key ∉ Assoc.keys middle := by
    intro key
    by_cases hlower : key ∈ Assoc.keys lower <;> simp [hlower]
  rw [keys_mergeFields _ hupper, keys_mergeFields lower hmiddle,
    keys_mergeFields lower (nodup_keys_mergeFields hmiddle hupper), keys_mergeFields middle hupper,
    List.filter_append, List.filter_filter, List.append_assoc]
  simp only [hupperKeys, Bool.decide_and]

/-! ### Objects and atoms -/

theorem merge_object (target source : Fields) :
    merge (.object target) (.object source) = .object (mergeFields target source) := by
  rw [merge]

theorem eq_object_of_asObject? {value : Json} {fields : Fields} (h : value.asObject? = some fields) :
    value = .object fields := by
  cases value with
  | object entries => rw [Option.some.inj h]
  | _ => cases h

theorem merge_object_of_none {target : Json} (h : target.asObject? = none) (source : Fields) :
    merge target (.object source) = .object source := by
  cases target with
  | object entries => cases h
  | null => simp [merge]
  | bool b => simp [merge]
  | number n => simp [merge]
  | string s => simp [merge]
  | array items => simp [merge]

/-- A value without parts. -/
def IsAtom : Json → Prop
  | .array _ | .object _ => False
  | .null | .bool _ | .number _ | .string _ => True

@[simp] theorem isAtom_natural (n : UInt64) : (Json.natural n).IsAtom := trivial

@[simp] theorem isAtom_string (text : String) : (Json.string text).IsAtom := trivial

theorem merge_atom (target : Json) {value : Json} (h : value.IsAtom) : merge target value = value := by
  cases value with
  | array items => cases h
  | object fields => cases h
  | null => rw [merge]
  | bool b => rw [merge]
  | number n => rw [merge]
  | string s => rw [merge]

theorem get?_mergeFields_atom {key : String} {value : Json} (hvalue : value.IsAtom) (target : Fields)
    {source : Fields} (h : (Assoc.keys source).Nodup) (hkey : Assoc.get? key source = some value) :
    Assoc.get? key (mergeFields target source) = some value := by
  rw [get?_mergeFields key target h, hkey]
  cases Assoc.get? key target with
  | none => rfl
  | some lower => simp [merge_atom lower hvalue]

theorem mergeFields_append (target first second : Fields) :
    mergeFields target (first ++ second) = mergeFields (mergeFields target first) second := by
  induction first generalizing target with
  | nil => rw [List.nil_append, mergeFields]
  | cons entry rest ih => rw [List.cons_append, mergeFields, mergeFields, ih]

theorem layers_objects (sources : List Fields) :
    layers (sources.map .object) = .object (sources.foldl mergeFields []) := by
  have hfold : ∀ target : Fields,
      (sources.map .object).foldl merge (.object target) = .object (sources.foldl mergeFields target) := by
    induction sources with
    | nil => intro target; rfl
    | cons source rest ih =>
      intro target
      rw [List.map_cons, List.foldl_cons, merge_object, ih, List.foldl_cons]
  exact hfold []

end SearchStore.Json
