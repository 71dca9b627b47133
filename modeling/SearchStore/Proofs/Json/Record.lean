import SearchStore.Json.Decode
import SearchStore.Proofs.Results

/-!
# Records that are written and read again

A record is written as an object with all its fields in order. If each of them has a value that the rule of the field
accepts, the object is read with just these entries (`RecordShape.entries_object`).

The value of a field was read from an entry, or it is the fallback of the field (`Field.of_read_eq_ok`). Lists, objects
and values that may be missing are read as they were written if their items are (`Decoder.list_map`,
`Decoder.map_mapValues`, `Decoder.optional_ofOption`).
-/

namespace SearchStore.Json

variable {α : Type}

/-! ### Entries of objects -/

theorem find?_rule {rules : List FieldRule} (hnodup : (rules.map FieldRule.name).Nodup) {rule : FieldRule}
    (hrule : rule ∈ rules) : rules.find? (fun other => other.name == rule.name) = some rule := by
  induction rules with
  | nil => cases hrule
  | cons first rest ih =>
    rw [List.map_cons, List.nodup_cons] at hnodup
    obtain ⟨hfirst, hrest⟩ := hnodup
    rcases List.mem_cons.mp hrule with rfl | hlater
    · rw [List.find?_cons_of_pos (by simp)]
    · have hother : first.name ≠ rule.name := by
        intro hsame
        exact hfirst (hsame ▸ List.mem_map_of_mem hlater)
      rw [List.find?_cons_of_neg (by simpa using hother), ih hrest hlater]

namespace RecordShape

/-- An entry is for a rule if it carries its name and a value that the rule accepts. -/
def IsFor (rule : FieldRule) (entry : String × Json) : Prop :=
  rule.name = entry.1 ∧ rule.check entry.2 = .ok ()

/-- An object with an entry for each rule is read with these entries. -/
theorem entries_object {shape : RecordShape} {fields : Fields}
    (hnodup : (shape.fields.map FieldRule.name).Nodup) (h : List.Forall₂ IsFor shape.fields fields) :
    shape.entries (.object fields) = .ok fields := by
  have hentries : shape.checkEntries fields = .ok () := by
    apply forM_eq_ok
    rintro ⟨key, value⟩ hentry
    obtain ⟨rule, hrule, rfl, hcheck⟩ := exists_left_of_forall₂ h hentry
    simp only [find?_rule hnodup hrule]
    exact hcheck
  have hpresent : shape.checkPresent fields = .ok () := by
    apply forM_eq_ok
    intro rule hrule
    obtain ⟨entry, hentry, hname, -⟩ := exists_right_of_forall₂ h hrule
    have hkey : rule.name ∈ Assoc.keys fields := by
      rw [hname]
      exact List.mem_map_of_mem hentry
    have hcontains : Assoc.contains rule.name fields = true := by
      rw [Assoc.contains, Option.isSome_iff_ne_none, ne_eq, Assoc.get?_eq_none_iff]
      exact fun habsent => habsent hkey
    rw [if_neg (by simp [hcontains])]
  simp [entries, hentries, hpresent, bind, Except.bind]

end RecordShape

theorem Field.isFor (field : Field α) {value : Json} {x : α} (h : field.decode value = .ok x) :
    RecordShape.IsFor field.rule (field.name, value) := by
  refine ⟨rfl, ?_⟩
  simp [Field.rule, h, Except.map]

theorem Field.read_eq_ok (field : Field α) (entries : Fields) {value : Json} {x : α}
    (hget : Assoc.get? field.name entries = some value) (h : field.decode value = .ok x) :
    field.read entries = .ok x := by
  rw [Field.read, hget]
  exact h

/-- The value of a field was read from an entry, or it is the fallback. -/
theorem Field.of_read_eq_ok {field : Field α} {entries : Fields} {x : α} (h : field.read entries = .ok x) :
    (∃ value, field.decode value = .ok x) ∨ field.fallback = some x := by
  unfold Field.read at h
  split at h
  · rename_i value _
    exact .inl ⟨value, h⟩
  · split at h
    · rename_i y hy
      obtain rfl : y = x := Except.ok.inj h
      exact .inr hy
    · cases h

/-! ### Values that are read as they were written -/

namespace Decoder

theorem list_map {item : Decoder α} {β : Type} {write : β → Json} {f : β → α} {xs : List β}
    (h : ∀ x ∈ xs, item (write x) = .ok (f x)) : list item (.array (xs.map write)) = .ok (xs.map f) := by
  rw [list, mapM_eq_ok_iff, List.forall₂_map_left_iff, List.forall₂_map_right_iff, List.forall₂_same]
  exact h

theorem list_strings (items : List String) : list string (strings items) = .ok items := by
  have hitems : ∀ item ∈ items, string (.string item) = .ok (id item) := fun _ _ => rfl
  rw [strings, list_map hitems, List.map_id]

theorem map_mapValues {item : Decoder α} {write : α → Json} (h : ∀ x, item (write x) = .ok x)
    (entries : List (String × α)) : map item (.object (Assoc.mapValues write entries)) = .ok entries := by
  rw [map, mapM_eq_ok_iff, Assoc.mapValues, List.forall₂_map_left_iff, List.forall₂_same]
  intro entry _
  simp [h entry.2, bind, Except.bind]

/-- A value that may be missing is read again if it can be, and is not written as `null`. -/
theorem optional_ofOption {item : Decoder α} {write : α → Json} {found : Option α}
    (h : ∀ x ∈ found, item (write x) = .ok x) (hnull : ∀ x, write x ≠ .null) :
    optional item (ofOption write found) = .ok found := by
  cases found with
  | none => rfl
  | some x =>
    rw [ofOption]
    unfold optional
    split
    · rename_i hwritten
      exact absurd hwritten (hnull x)
    · rw [h x rfl]
      rfl

theorem of_optional_eq_ok {item : Decoder α} {value : Json} {x : α} (h : optional item value = .ok (some x)) :
    item value = .ok x := by
  unfold optional at h
  split at h
  · cases h
  · obtain ⟨y, hy, hsame⟩ := exists_of_map_eq_ok h
    cases hsame
    exact hy

end Decoder

end SearchStore.Json
