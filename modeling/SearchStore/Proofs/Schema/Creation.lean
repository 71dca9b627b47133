import SearchStore.Schema

/-!
# Bodies of creation

An index is created with the configured settings, into which the alias is written and, if they are wanted, the mappings
(`get?_creationBody`). What is configured is kept, apart from the entries that are written (`keepsSettings`). These are
all there exactly if what is configured at their key has room for them: an object, or nothing (`writes_iff`). A value
of another kind stays where it is, and the entries are dropped.
-/

namespace SearchStore.IndexSchema

/-! ### Settings -/

/-- The entries of the settings; settings that are no object have none. -/
def configured (s : IndexSchema) : Fields := (s.settings.bind Json.asObject?).getD []

/-- Entries can be written at a key: the settings have an object there, or nothing. -/
def HasRoom (s : IndexSchema) (key : String) : Prop :=
  ∀ value, Assoc.get? key s.configured = some value → ∃ fields, value = .object fields

/-- The settings leave room for the alias: they say nothing of aliases, or have them in an object. -/
def TakesAlias (s : IndexSchema) : Prop :=
  ∀ settings aliases, s.settings = some (.object settings) → Assoc.get? "aliases" settings = some aliases →
    ∃ fields, aliases = .object fields

theorem TakesAlias.hasRoom {s : IndexSchema} (h : s.TakesAlias) : s.HasRoom "aliases" := by
  intro aliases haliases
  unfold configured at haliases
  cases hsettings : s.settings.bind Json.asObject? with
  | none => simp [hsettings, Assoc.get?] at haliases
  | some settings =>
    rw [hsettings] at haliases
    obtain ⟨value, hs, hvalue⟩ := Option.bind_eq_some_iff.mp hsettings
    cases value with
    | object fields =>
      obtain rfl : fields = settings := Option.some.inj hvalue
      exact h _ _ hs haliases
    | null | bool _ | number _ | string _ | array _ => cases hvalue

/-! ### What is written -/

/-- What a value becomes at a key at which entries are written. -/
def extended (entries : Fields) : Option Json → Option Json
  | some (.object fields) => some (.object (Assoc.insertAll fields entries))
  | some value => some value
  | none => if entries = [] then none else some (.object entries)

theorem extended_nil (value : Option Json) : extended [] value = value := by
  cases value with
  | none => rfl
  | some value => cases value <;> rfl

theorem get?_extend (key other : String) {entries : Fields} (h : entries ≠ []) (body : Fields) :
    Assoc.get? other (extend key entries body) =
      if other = key then extended entries (Assoc.get? key body) else Assoc.get? other body := by
  rw [extend, Assoc.get?_alter]
  cases Assoc.get? key body with
  | none => simp [extended, h]
  | some value => cases value <;> rfl

theorem get?_extend_if (key other : String) (wanted : Bool) (entries body : Fields) :
    Assoc.get? other (if wanted && !entries.isEmpty then extend key entries body else body) =
      if other = key then extended (if wanted then entries else []) (Assoc.get? key body)
      else Assoc.get? other body := by
  cases wanted with
  | false => simp +contextual [extended_nil]
  | true =>
    cases entries with
    | nil => simp +contextual [extended_nil]
    | cons entry rest => exact get?_extend key other (List.cons_ne_nil entry rest) body

theorem bind_extended_of_not_mem {entries : Fields} (hunique : (Assoc.keys entries).Nodup) {name : String}
    (hname : name ∉ Assoc.keys entries) (value : Option Json) :
    (extended entries value).bind (Json.get? name) = value.bind (Json.get? name) := by
  have habsent : Assoc.get? name entries = none := Assoc.get?_eq_none_iff.mpr hname
  cases value with
  | none =>
    by_cases hnil : entries = []
    · rw [hnil]
      rfl
    · rw [extended, if_neg hnil]
      exact habsent
  | some value =>
    cases value with
    | object fields => exact (Assoc.get?_insertAll name hunique fields).trans (by rw [habsent]; rfl)
    | null | bool _ | number _ | string _ | array _ => rfl

/-- An object takes the entries, and so does a place with nothing in it. -/
theorem bind_extended_of_mem {entries : Fields} (hunique : (Assoc.keys entries).Nodup) {entry : String × Json}
    (hentry : entry ∈ entries) {value : Option Json} (hroom : ∀ v, value = some v → ∃ fields, v = .object fields) :
    (extended entries value).bind (Json.get? entry.1) = some entry.2 := by
  have hpresent := Assoc.get?_of_mem hunique hentry
  cases value with
  | none =>
    unfold extended
    rw [if_neg (List.ne_nil_of_mem hentry)]
    exact hpresent
  | some value =>
    obtain ⟨fields, rfl⟩ := hroom value rfl
    exact (Assoc.get?_insertAll entry.1 hunique fields).trans (by rw [hpresent]; rfl)

theorem exists_object_of_bind_extended {entries : Fields} {name : String} {found : Json} {value : Option Json}
    (h : (extended entries value).bind (Json.get? name) = some found) :
    ∀ v, value = some v → ∃ fields, v = .object fields := by
  rintro v rfl
  cases v with
  | object fields => exact ⟨fields, rfl⟩
  | null | bool _ | number _ | string _ | array _ => cases h

/-- The entries that creation writes at a key: the alias, and the mappings if they are wanted. -/
def written (s : IndexSchema) (includeMappings : Bool) (key : String) : Fields :=
  if key = "aliases" then [(s.index, .empty)]
  else if key = "mappings" ∧ includeMappings = true then s.mappings
  else []

section
variable (s : IndexSchema) (includeMappings : Bool)

/-- The body at a key is what is configured there, with the entries that are written. -/
theorem get?_creationBody (key : String) :
    (s.creationBody includeMappings).get? key =
      extended (s.written includeMappings key) (Assoc.get? key s.configured) := by
  have haliased := fun other => get?_extend "aliases" other (List.cons_ne_nil (s.index, Json.empty) []) s.configured
  have hbody := get?_extend_if "mappings" key includeMappings s.mappings
    (extend "aliases" [(s.index, .empty)] s.configured)
  refine hbody.trans ?_
  rw [haliased, haliased, if_neg (show "mappings" ≠ "aliases" by decide)]
  unfold written
  by_cases hmappings : key = "mappings"
  · rw [if_pos hmappings, hmappings, if_neg (show "mappings" ≠ "aliases" by decide)]
    simp
  · by_cases halias : key = "aliases"
    · rw [if_neg hmappings, if_pos halias, if_pos halias, halias]
    · rw [if_neg hmappings, if_neg halias, if_neg halias, if_neg (fun h => hmappings h.1), extended_nil]

/-- The settings are kept, apart from the entries that are written into them. -/
structure KeepsSettings : Prop where
  entries : ∀ key, s.written includeMappings key = [] →
    (s.creationBody includeMappings).get? key = Assoc.get? key s.configured
  others : ∀ key name, name ∉ Assoc.keys (s.written includeMappings key) →
    (s.creationBody includeMappings).path? [key, name] = (Json.object s.configured).path? [key, name]

/-- All entries that are written at a key are in the body, as they are. -/
def Writes (key : String) : Prop :=
  ∀ entry ∈ s.written includeMappings key, (s.creationBody includeMappings).path? [key, entry.1] = some entry.2

end

section
variable {s : IndexSchema} (includeMappings : Bool) (hunique : (Assoc.keys s.mappings).Nodup)
include hunique

theorem nodup_keys_written (key : String) : (Assoc.keys (s.written includeMappings key)).Nodup := by
  unfold written
  split
  · simp [Assoc.keys]
  · split
    · exact hunique
    · exact List.nodup_nil

theorem keepsSettings : s.KeepsSettings includeMappings where
  entries key hnone := by rw [get?_creationBody, hnone, extended_nil]
  others key name hname := by
    rw [Json.path?_pair, Json.path?_pair, get?_creationBody]
    exact bind_extended_of_not_mem (nodup_keys_written includeMappings hunique key) hname _

theorem writes_iff (key : String) :
    s.Writes includeMappings key ↔ (s.written includeMappings key ≠ [] → s.HasRoom key) := by
  unfold Writes
  simp only [Json.path?_pair, get?_creationBody]
  constructor
  · intro hwrites hne
    obtain ⟨entry, hentry⟩ := List.exists_mem_of_ne_nil _ hne
    exact exists_object_of_bind_extended (hwrites entry hentry)
  · intro hroom entry hentry
    exact bind_extended_of_mem (nodup_keys_written includeMappings hunique key) hentry
      (hroom (List.ne_nil_of_mem hentry))

end

/-- The logical name is among the aliases of the body exactly if there is room for it. -/
theorem aliased_iff (s : IndexSchema) (includeMappings : Bool) :
    (∃ aliases, (s.creationBody includeMappings).get? "aliases" = some (.object aliases) ∧
      s.index ∈ Assoc.keys aliases) ↔ s.HasRoom "aliases" := by
  have hwritten : s.written includeMappings "aliases" = [(s.index, .empty)] := rfl
  rw [get?_creationBody, hwritten]
  constructor
  · rintro ⟨aliases, haliases, hindex⟩
    obtain ⟨found, hfound⟩ : ∃ found, Assoc.get? s.index aliases = some found :=
      Option.ne_none_iff_exists'.mp (mt Assoc.get?_eq_none_iff.mp (not_not_intro hindex))
    have hbelow : (extended [(s.index, .empty)] (Assoc.get? "aliases" s.configured)).bind (Json.get? s.index) =
        some found := by
      rw [haliases]
      exact hfound
    exact exists_object_of_bind_extended hbelow
  · intro hroom
    have hunique : (Assoc.keys [(s.index, Json.empty)]).Nodup := by simp [Assoc.keys]
    have hbelow := bind_extended_of_mem hunique (List.mem_singleton_self (s.index, Json.empty)) hroom
    obtain ⟨value, hvalue, hentry⟩ := Option.bind_eq_some_iff.mp hbelow
    cases value with
    | object aliases => exact ⟨aliases, hvalue, Assoc.mem_keys_of_get? hentry⟩
    | null | bool _ | number _ | string _ | array _ => cases hentry

theorem aliases_creationBody {s : IndexSchema} (h : s.TakesAlias) (includeMappings : Bool) :
    ∃ fields, (s.creationBody includeMappings).get? "aliases" = some (.object fields) ∧
      s.index ∈ Assoc.keys fields :=
  (s.aliased_iff includeMappings).mpr h.hasRoom

end SearchStore.IndexSchema
