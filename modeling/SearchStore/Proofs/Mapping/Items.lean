import SearchStore.Mapping.Registry
import SearchStore.Proofs.Json.Overlay
import SearchStore.Proofs.Mapping

/-!
# Items of answers

Mapping makes one item of each document that an answer lists, in order, or fails with the first one that cannot be
mapped. A registry looks for the type of a document among its fields and hands all other fields to the factory that was
registered last for it (`mapsDocument`). `items_complete` says both.
-/

namespace SearchStore

section
variable {ι : Type}

/-! ### Registries -/

/-- The registry with the given factories, registered one after the other. -/
def Registry.ofList (registrations : List (String × Factory ι)) : Registry ι :=
  registrations.foldl (fun r registration => r.register registration.1 registration.2) {}

theorem Registry.factories_ofList (registrations : List (String × Factory ι)) :
    (ofList registrations).factories = Assoc.sorted registrations := by
  have hfold : ∀ r : Registry ι,
      (registrations.foldl (fun r registration => r.register registration.1 registration.2) r).factories =
        registrations.foldl (fun map entry => Assoc.insertSorted entry.1 entry.2 map) r.factories := by
    induction registrations with
    | nil => exact fun _ => rfl
    | cons registration rest ih => exact fun r => ih (r.register registration.1 registration.2)
  exact hfold {}

theorem Registry.factory_ofList (registrations : List (String × Factory ι)) (type : String) :
    (ofList registrations).factory type =
      match Assoc.get? type registrations.reverse with
      | some factory => .ok factory
      | none => .error (.mapping (.unknownType type)) := by
  have hget : Assoc.get? type (ofList registrations).factories = Assoc.get? type registrations.reverse := by
    rw [factories_ofList, Assoc.get?_sorted]
  cases hfactory : Assoc.get? type registrations.reverse with
  | none => simp only [factory, hget, hfactory]
  | some factory => simp only [Registry.factory, hget, hfactory]

/-- The fields of the source of a document. -/
def HasSource (document : Json) (fields : Fields) : Prop := document.get? "_source" = some (.object fields)

/-- The type that is named among the fields of a document. -/
def NamesType (fields : Fields) (type : String) : Prop :=
  Assoc.get? typeKey fields = some (.string type) ∧ type ≠ ""

/-- What comes of a document if factories are registered one after the other. -/
structure MapsDocument (registrations : List (String × Factory ι)) (document : Json) (result : Except Error ι) :
    Prop where
  /-- The factory of the type gets all other fields, each of them once. -/
  known : ∀ fields type factory, HasSource document fields → NamesType fields type →
    Assoc.get? type registrations.reverse = some factory →
    ∃ others, others.Perm (fields.filter (·.1 ≠ typeKey)) ∧ result = factory others
  unknown : ∀ fields type, HasSource document fields → NamesType fields type →
    Assoc.get? type registrations.reverse = none → result = .error (.mapping (.unknownType type))
  untyped : ∀ fields, HasSource document fields → (∀ type, ¬ NamesType fields type) →
    result = .error (.mapping (.missingType (identifierOf document)))
  unsourced : (∀ fields, ¬ HasSource document fields) →
    result = .error (.mapping (.invalidDocument (identifierOf document) "document has no _source object"))

/-- A registry looks at the source of a document, at its type and for a factory, in this order. -/
theorem mapsDocument (registrations : List (String × Factory ι)) {document : Json} (hunique : document.HasUniqueKeys) :
    MapsDocument registrations document ((Registry.ofList registrations).mapper.document document) where
  known fields type factory hsource htype hfactory := by
    unfold HasSource at hsource
    have hpath : document.path? ["_source"] = some (.object fields) := by
      simp [Json.path?, hsource]
    have hfields := hunique.path? hpath
    rw [Json.HasUniqueKeys] at hfields
    refine ⟨Assoc.swapRemove typeKey fields, Assoc.swapRemove_perm typeKey hfields.1, ?_⟩
    simp only [Registry.mapper, hsource, htype.1, if_neg htype.2, Registry.create, Registry.factory_ofList, hfactory]
    rfl
  unknown fields type hsource htype hfactory := by
    unfold HasSource at hsource
    simp only [Registry.mapper, hsource, htype.1, if_neg htype.2, Registry.create, Registry.factory_ofList, hfactory]
    rfl
  untyped fields hsource htype := by
    unfold HasSource at hsource
    simp only [Registry.mapper, hsource]
    split
    · rename_i type hkey
      have hempty : type = "" := by
        by_contra hne
        exact htype type ⟨hkey, hne⟩
      rw [if_pos hempty]
    · rfl
  unsourced hsource := by
    simp only [Registry.mapper]
    split
    · rename_i fields hfields
      exact absurd hfields (hsource fields)
    · rfl

/-! ### Items -/

/-- The items of an answer are those of its documents, in order, and the first document that cannot be mapped fails all
of it. -/
structure MapsAll (m : Mapper ι) (answer : Json) (documents : List Json) : Prop where
  ok_iff : ∀ items, m.answer answer = .ok items ↔ List.Forall₂ (fun d item => m.document d = .ok item) documents items
  error_iff : ∀ e, m.answer answer = .error e ↔
    ∃ before d after, documents = before ++ d :: after ∧ m.document d = .error e ∧
      ∀ other ∈ before, ∃ item, m.document other = .ok item

/-- **Mapping keeps all documents of an answer, in order.** Whatever the mapper, an answer gives one item for each of the
documents that its form lists, or the error of the first one that cannot be mapped; an answer of any other form is
refused. A registry maps a document by the factory that was registered last for its type, which gets all its other
fields, and refuses a document without an object as its source, without the name of a type, or of a type that is not
registered. -/
theorem items_complete (ι : Type) :
    (∀ (m : Mapper ι) (answer : Json),
      (∀ documents, Lists answer documents → MapsAll m answer documents) ∧
      ((∀ documents, ¬ Lists answer documents) → m.answer answer = .error (.mapping (.unsupportedFormat answer)))) ∧
    ∀ (registrations : List (String × Factory ι)) (document : Json), document.HasUniqueKeys →
      MapsDocument registrations document ((Registry.ofList registrations).mapper.document document) := by
  refine ⟨?_, ?_⟩
  · intro m answer
    refine ⟨?_, m.answer_of_unlisted⟩
    intro documents hlists
    constructor
    · intro items
      rw [m.answer_of_lists hlists, mapM_eq_ok_iff]
    · intro e
      rw [m.answer_of_lists hlists, mapM_eq_error_iff]
  · intro registrations document hunique
    exact mapsDocument registrations hunique

end

/-- Of three listed documents one was not found and one names no type, and a type is registered twice. -/
theorem items_complete_listed :
    let registrations : List (String × Factory Fields) := [("book", fun _ => .ok []), ("book", .ok)]
    let about : Fields := [("title", .string "Dune"), ("pages", .natural 412)]
    let dune : Json :=
      .object [("_id", .string "dune"), ("found", .bool true), ("_source", .object ((typeKey, .string "book") :: about))]
    let lost : Json := .object [("_id", .string "lost"), ("found", .bool false)]
    let bare : Json := .object [("_id", .string "bare"), ("found", .bool true), ("_source", .object about)]
    let answer : Json := .object [("docs", .array [dune, lost, bare])]
    let m := (Registry.ofList registrations).mapper
    (dune.HasUniqueKeys ∧ bare.HasUniqueKeys ∧ Lists answer [dune, bare]) ∧
      (∃ others, others.Perm about ∧ m.document dune = .ok others) ∧
      m.answer answer = .error (.mapping (.missingType "bare")) := by
  intro registrations about dune lost bare answer m
  have hunique : dune.HasUniqueKeys ∧ bare.HasUniqueKeys := by
    simp [dune, bare, about, typeKey, Json.natural, Json.HasUniqueKeys, Json.UniqueInFields, Assoc.keys]
  have hlists : Lists answer [dune, bare] := documents?_eq_some_iff.mp rfl
  obtain ⟨hanswer, hdocument⟩ := items_complete Fields
  have hdune := hdocument registrations dune hunique.1
  have hbare := hdocument registrations bare hunique.2
  have hothers := hdune.known ((typeKey, .string "book") :: about) "book" .ok rfl ⟨rfl, by decide⟩ rfl
  have huntyped : m.document bare = .error (.mapping (.missingType "bare")) :=
    hbare.untyped about rfl fun type htype => by cases htype.1
  refine ⟨⟨hunique.1, hunique.2, hlists⟩, hothers, ?_⟩
  rw [((hanswer m answer).1 [dune, bare] hlists).error_iff]
  refine ⟨[dune], bare, [], rfl, huntyped, ?_⟩
  obtain ⟨others, -, hok⟩ := hothers
  exact List.forall_mem_singleton.mpr ⟨others, hok⟩

end SearchStore
