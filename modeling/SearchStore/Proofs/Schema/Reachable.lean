import SearchStore.Proofs.Engine.Action
import SearchStore.Proofs.Schema.Provisioning

/-!
# Indices that are reached by their logical name

Whoever creates an index, alone or where its name was free, sends the body of creation (`Call.CreatesWith`). So the
index is reached by its logical name exactly if the body has the alias, that is, if the configured settings leave room
for it. `created_reachable_iff` says so, and the same of the mappings; the settings themselves are always kept.
-/

namespace SearchStore

variable {σ : Type}

/-- If the call creates an index, it does so with this body. -/
def Call.CreatesWith (body : Json) (call : Call) : Prop :=
  call.method = .createIndex → call.params.get? "body" = some body

theorem Call.KeepsIndices.createsWith {call : Call} (h : call.KeepsIndices) (body : Json) : call.CreatesWith body := by
  intro hmethod
  unfold KeepsIndices at h
  rw [hmethod] at h
  exact absurd h (by decide)

/-- **An index is reachable if the settings leave room for the alias.** The body of creation is an object that keeps
the configured settings. The logical name is among its aliases if and only if the settings have an object of aliases or
none, and the wanted mappings are all in it, as they are, if and only if there are none or the settings have an object
of mappings or none. Every index is created with this body. -/
theorem created_reachable_iff {s : IndexSchema} (hunique : (Assoc.keys s.mappings).Nodup) (includeMappings : Bool) :
    (∃ fields, s.creationBody includeMappings = .object fields) ∧
    s.KeepsSettings includeMappings ∧
    ((∃ aliases, (s.creationBody includeMappings).get? "aliases" = some (.object aliases) ∧
      s.index ∈ Assoc.keys aliases) ↔ s.HasRoom "aliases") ∧
    ((includeMappings = true → ∀ entry ∈ s.mappings,
      (s.creationBody includeMappings).path? ["mappings", entry.1] = some entry.2) ↔
        (includeMappings = true → s.mappings ≠ [] → s.HasRoom "mappings")) ∧
    ∀ (stamp : String) (engine : Engine σ) (state : σ),
      (∀ call ∈ ((s.create includeMappings stamp).execute engine state).calls,
        call.CreatesWith (s.creationBody includeMappings)) ∧
      ∀ call ∈ ((s.ensure includeMappings stamp).execute engine state).calls,
        call.CreatesWith (s.creationBody includeMappings) := by
  refine ⟨⟨_, rfl⟩, s.keepsSettings includeMappings hunique, s.aliased_iff includeMappings, ?_, ?_⟩
  · cases includeMappings with
    | false => simp
    | true =>
      have hmappings : s.written true "mappings" = s.mappings := rfl
      have hwrites := s.writes_iff true hunique "mappings"
      unfold IndexSchema.Writes at hwrites
      rw [hmappings] at hwrites
      simpa using hwrites
  · intro stamp engine state
    have hbody : Call.CreatesWith (s.creationBody includeMappings) ⟨.createIndex, .object
        [("index", .string (stampedIndexName s.index stamp)), ("body", s.creationBody includeMappings)]⟩ := fun _ => rfl
    exact ⟨(IndexSchema.makes_create hbody).of_mem_calls engine state,
      (IndexSchema.makes_ensure hbody fun _ h => h.createsWith _).of_mem_calls engine state⟩

/-- An alias and a mapping beside configured ones. -/
theorem created_reachable_books :
    let author : Json := .object [("properties", .empty)]
    let book : Json := .object [("properties", .object [("title", .object [("type", .string "text")])])]
    let settings : Json := .object [("mappings", .object [("author", author)]), ("aliases", .object [("all", .empty)])]
    let s : IndexSchema := { index := "books", settings := some settings, mappings := [("book", book)] }
    (Assoc.keys s.mappings).Nodup ∧
    (∃ aliases, (s.creationBody true).get? "aliases" = some (.object aliases) ∧ "books" ∈ Assoc.keys aliases) ∧
    (s.creationBody true).path? ["mappings", "book"] = some book ∧
    (s.creationBody true).path? ["mappings", "author"] = some author := by
  intro author book settings s
  have hunique : (Assoc.keys s.mappings).Nodup := by decide
  obtain ⟨-, hkept, haliased, hmapped, -⟩ := created_reachable_iff (σ := Unit) hunique true
  refine ⟨hunique, haliased.mpr ?_, ?_, ?_⟩
  · rintro value ⟨rfl⟩
    exact ⟨_, rfl⟩
  · refine hmapped.mpr (fun _ _ => ?_) rfl ("book", book) (List.mem_singleton_self _)
    rintro value ⟨rfl⟩
    exact ⟨_, rfl⟩
  · exact hkept.others "mappings" "author" (by decide)

/-- Aliases that are `null` and mappings that are a list stay as they are, and nothing leads to the index. -/
theorem not_reachable_null :
    let settings : Json := .object [("aliases", .null), ("mappings", .array [])]
    let s : IndexSchema := { index := "books", settings := some settings, mappings := [("book", .empty)] }
    (¬ ∃ aliases, (s.creationBody false).get? "aliases" = some (.object aliases) ∧ s.index ∈ Assoc.keys aliases) ∧
    (s.creationBody true).path? ["mappings", "book"] = none := by
  intro settings s
  refine ⟨?_, rfl⟩
  rintro ⟨aliases, haliases, -⟩
  cases haliases

end SearchStore
