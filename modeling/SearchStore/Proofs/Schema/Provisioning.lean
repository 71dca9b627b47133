import Mathlib.Control.Monad.Basic
import Mathlib.Logic.ExistsUnique
import Mathlib.Logic.Function.Basic
import SearchStore.Proofs.Engine.Interleaving
import SearchStore.Proofs.Schema.Creation

/-!
# Provisioning by several clients

Clients that need an index look whether its logical name is taken, and create it under a name that ends in the
time if it is not. `KeepsIndices` says what an engine answers to them, seen as a catalog of indices with their
aliases. All requests of clients for one schema are `ProvisioningCall`s, which keep the invariant `Provisioned`:
the indices behind the logical name are those that were asked for under free names.

So each client that finds the name free creates an index of its own, unless another one has asked for the same
name, that is, has read the same second. `provisioned_iff_same_second` says when one index is all there is.
-/

namespace SearchStore

/-! ### Catalogs -/

/-- The indices of an engine by their names, each with its aliases. -/
abbrev Catalog := String → Option (List String)

namespace Catalog

/-- Whether an index stands behind an alias. -/
def Behind (c : Catalog) (label name : String) : Prop := ∃ aliases, c name = some aliases ∧ label ∈ aliases

/-- Whether a name is taken by an index or an alias. -/
def Taken (c : Catalog) (name : String) : Prop := c name ≠ none ∨ ∃ other, c.Behind name other

/-- The catalog with one more index. -/
def add (c : Catalog) (name : String) (aliases : List String) : Catalog :=
  Function.update c name (some aliases)

theorem behind_add {c : Catalog} {name label : String} (hname : c name = none) (aliases : List String)
    (other : String) :
    (c.add name aliases).Behind label other ↔ other = name ∧ label ∈ aliases ∨ c.Behind label other := by
  by_cases h : other = name
  · subst h
    simp [Behind, add, hname]
  · simp [Behind, add, h]

theorem add_ne_none (c : Catalog) (name other : String) (aliases : List String) :
    c.add name aliases other ≠ none ↔ other = name ∨ c other ≠ none := by
  by_cases h : other = name
  · subst h
    simp [add]
  · simp [add, h]

end Catalog

/-- The aliases in the body of a request. -/
def aliasesOf (params : Json) : List String :=
  ((((params.get? "body").bind (Json.get? "aliases")).bind Json.asObject?).map Assoc.keys).getD []

/-- Whether a call leaves indices and aliases as they are. -/
def Call.KeepsIndices (call : Call) : Prop := call.method ∈ [.indexExists, .getAlias, .putMapping]

/-- The answers of an engine whose states are seen as catalogs. -/
structure KeepsIndices {σ : Type} (engine : Engine σ) (view : σ → Catalog) : Prop where
  connect : ∀ s, view (engine.connect s).2 = view s
  keeps : ∀ s call, call.KeepsIndices → view (engine.answer call s).2 = view s
  indexExists : ∀ s params name, params.get? "index" = some (.string name) →
    ∃ answer, (engine.answer ⟨.indexExists, params⟩ s).1 = .ok (.bool answer) ∧
      (answer = true ↔ (view s).Taken name)
  getAlias : ∀ s params label, params.get? "name" = some (.string label) →
    (∃ fields, (engine.answer ⟨.getAlias, params⟩ s).1 = .ok (.object fields) ∧
      ∀ name, name ∈ Assoc.keys fields ↔ (view s).Behind label name) ∨
    (∃ resource, (engine.answer ⟨.getAlias, params⟩ s).1 = .error (.notFound resource)) ∧
      ∀ name, ¬(view s).Behind label name
  putMapping : ∀ s params name, params.get? "index" = some (.string name) → (view s).Taken name →
    ∃ answer, (engine.answer ⟨.putMapping, params⟩ s).1 = .ok answer
  create : ∀ s params name, params.get? "index" = some (.string name) → view s name = none →
    (∃ answer, (engine.answer ⟨.createIndex, params⟩ s).1 = .ok answer) ∧
      view (engine.answer ⟨.createIndex, params⟩ s).2 = (view s).add name (aliasesOf params)
  refuse : ∀ s params name, params.get? "index" = some (.string name) → view s name ≠ none →
    (∃ body, (engine.answer ⟨.createIndex, params⟩ s).1 = .error (.status 400 body) ∧
      Text.contains body "resource_already_exists_exception" = true) ∧
      view (engine.answer ⟨.createIndex, params⟩ s).2 = view s

/-! ### Clients -/

/-- A client that needs an index: whether it creates the mappings too, and the time it reads. -/
structure Provisioner where
  includeMappings : Bool
  moment : Moment

/-- The name under which a client asks for an index. -/
def Provisioner.indexName (c : Provisioner) (s : IndexSchema) : String := versionedIndexName s.index c.moment

/-- What a client does. -/
def Provisioner.operation (s : IndexSchema) (c : Provisioner) : Access (Except Error Unit) :=
  (s.ensure c.includeMappings c.moment.stampText).run

/-- The request of a client for an index. -/
def Provisioner.request (s : IndexSchema) (c : Provisioner) : Json :=
  .object [("index", .string (c.indexName s)), ("body", s.creationBody c.includeMappings)]

/-- The requests of clients for one schema. -/
inductive ProvisioningCall (s : IndexSchema) (clients : List Provisioner) : Call → Prop
  | keeps {call : Call} (h : call.KeepsIndices) : ProvisioningCall s clients call
  | create {c : Provisioner} (h : c ∈ clients) : ProvisioningCall s clients ⟨.createIndex, c.request s⟩

/-- Whether an index was asked for under a name. -/
def Shared.Requested {σ : Type} (w : Shared σ) (name : String) : Prop :=
  ∃ params, ⟨.createIndex, params⟩ ∈ w.calls ∧ params.get? "index" = some (.string name)

/-- Clients side by side, from a state of the engine. -/
def IndexSchema.provision {σ : Type} (s : IndexSchema) (clients : List Provisioner) (state : σ) :
    Parallel σ (Except Error Unit) :=
  { operations := clients.map (Provisioner.operation s), shared := { state } }

theorem stampedIndexName_ne (index stamp : String) : stampedIndexName index stamp ≠ index := by
  intro h
  have hlength := congrArg String.length h
  rw [stampedIndexName, String.length_append, String.length_append, show "_".length = 1 from rfl] at hlength
  omega

theorem stampedIndexName_inj {index stamp other : String} :
    stampedIndexName index stamp = stampedIndexName index other ↔ stamp = other := by
  simp [stampedIndexName, String.ext_iff]

theorem makes_updateMappings (s : IndexSchema) : Action.Makes Call.KeepsIndices s.updateMappings :=
  Action.makes_forM fun _ _ =>
    (Action.makes_send (by simp [Call.KeepsIndices])).bind fun _ => Action.makes_report _

theorem makes_isTaken (name : String) : Action.Makes Call.KeepsIndices (isTaken name) := by
  have hexists : Action.Makes Call.KeepsIndices (indexExists name) :=
    (Action.makes_send (by simp [Call.KeepsIndices])).bind fun _ => Action.makes_pure _
  have halias : Action.Makes Call.KeepsIndices (aliasMapping name) := by
    refine (Action.makes_ask (by simp [Call.KeepsIndices])).bind fun reply => ?_
    split
    · exact Action.makes_pure _
    · exact Action.makes_pure _
    · exact Action.makes_throw _
  refine hexists.bind fun found => ?_
  split
  · exact Action.makes_pure _
  · exact halias.bind fun _ => Action.makes_pure _

section
variable {P : Call → Prop} {s : IndexSchema} {includeMappings : Bool} {stamp : String}
  (hcreate : P ⟨.createIndex, .object
    [("index", .string (stampedIndexName s.index stamp)), ("body", s.creationBody includeMappings)]⟩)
include hcreate

theorem IndexSchema.makes_create : Action.Makes P (s.create includeMappings stamp) :=
  .lift_bind fun _ _ => (Action.makes_send hcreate).bind fun _ =>
    (Action.makes_report _).bind fun _ => Action.makes_pure _

/-- Apart from creation, whoever needs an index only looks and puts mappings. -/
theorem IndexSchema.makes_ensure (hkeeps : ∀ call : Call, call.KeepsIndices → P call) :
    Action.Makes P (s.ensure includeMappings stamp) := by
  have hcreateOrUpdate : Action.Makes P (s.createOrUpdate includeMappings stamp) := by
    refine Action.Makes.tryCatch ((makes_create hcreate).bind fun _ => Action.makes_pure _) fun e => ?_
    split
    · exact (Action.makes_report _).bind fun _ => (makes_updateMappings s).mono hkeeps
    · exact Action.makes_throw e
  refine .lift_bind fun _ _ => ((makes_isTaken s.index).mono hkeeps).bind fun taken => ?_
  split
  · exact (makes_updateMappings s).mono hkeeps
  · exact hcreateOrUpdate

end

theorem Provisioner.makes_operation {s : IndexSchema} {clients : List Provisioner} {c : Provisioner}
    (hc : c ∈ clients) : (c.operation s).Makes (ProvisioningCall s clients) :=
  IndexSchema.makes_ensure (.create hc) fun _ => .keeps

theorem Provisioner.create_eq {s : IndexSchema} (hindex : Text.isBlank s.index = false) (c : Provisioner) :
    s.create c.includeMappings c.moment.stampText = (do
      let _ ← Action.send .createIndex (c.request s)
      Action.info
        ("Created Elasticsearch index '" ++ c.indexName s ++ "' aliased as '" ++ s.index ++ "'")
      return c.indexName s) := by
  rw [IndexSchema.create, IndexSchema.validate, checkText, hindex]
  rfl

/-! ### The invariant -/

/-- The indices behind the logical name are those that were asked for under names that were free at first. -/
structure Provisioned {σ : Type} (view : σ → Catalog) (s : IndexSchema) (clients : List Provisioner)
    (first : Catalog) (w : Shared σ) : Prop where
  requested : ∀ name, w.Requested name → ∃ c ∈ clients, c.indexName s = name
  behind : ∀ name, (view w.state).Behind s.index name ↔ w.Requested name ∧ first name = none
  present : ∀ name, view w.state name ≠ none ↔ first name ≠ none ∨ w.Requested name

variable {σ : Type} {engine : Engine σ} {view : σ → Catalog} {s : IndexSchema} {clients : List Provisioner}
  {first : Catalog} {w w' : Shared σ}

theorem Shared.requested_answer (engine : Engine σ) (w : Shared σ) (call : Call) (name : String) :
    (w.answer engine call).Requested name ↔
      w.Requested name ∨ call.method = .createIndex ∧ call.params.get? "index" = some (.string name) := by
  obtain ⟨method, params⟩ := call
  simp only [Requested, answer, List.mem_append, List.mem_singleton, Call.mk.injEq]
  constructor
  · rintro ⟨params', hmem | ⟨hmethod, rfl⟩, hindex⟩
    · exact .inl ⟨params', hmem, hindex⟩
    · exact .inr ⟨hmethod.symm, hindex⟩
  · rintro (⟨params', hmem, hindex⟩ | ⟨hmethod, hindex⟩)
    · exact ⟨params', .inl hmem, hindex⟩
    · exact ⟨params, .inr ⟨hmethod.symm, rfl⟩, hindex⟩

theorem Shared.requested_answer_of_keeps (engine : Engine σ) (w : Shared σ) {call : Call}
    (hcall : call.KeepsIndices) (name : String) :
    (w.answer engine call).Requested name ↔ w.Requested name := by
  have hmethod : call.method ≠ .createIndex := by
    intro h
    rw [Call.KeepsIndices, h] at hcall
    simp at hcall
  simp [w.requested_answer, hmethod]

theorem Shared.Requested.of_leads {P : Call → Prop} {name : String} (h : w.Requested name)
    (hleads : Shared.Leads engine P w w') : w'.Requested name := by
  refine hleads.preserves (fun w => w.Requested name) (fun w w' hmove h => ?_) h
  cases hmove with
  | connect => exact h
  | answer => exact (w.requested_answer engine _ name).mpr (.inl h)

theorem Shared.requested_iff_of_keeps (hleads : Shared.Leads engine Call.KeepsIndices w w') (name : String) :
    w'.Requested name ↔ w.Requested name := by
  refine hleads.preserves (fun w' => w'.Requested name ↔ w.Requested name)
    (fun w₁ w₂ hmove h => ?_) .rfl
  cases hmove with
  | connect => exact h
  | answer hcall => rw [w₁.requested_answer_of_keeps engine hcall, h]

/-- What the requests of clients leave as it is. -/
theorem Provisioned.of_same (h : Provisioned view s clients first w)
    (hview : view w'.state = view w.state) (hrequested : ∀ name, w'.Requested name ↔ w.Requested name) :
    Provisioned view s clients first w' where
  requested name hname := h.requested name ((hrequested name).mp hname)
  behind name := by rw [hview, hrequested, h.behind]
  present name := by rw [hview, hrequested, h.present]

theorem Provisioner.label_mem_aliasesOf (hs : s.TakesAlias) (c : Provisioner) :
    s.index ∈ aliasesOf (c.request s) := by
  obtain ⟨fields, haliases, hmem⟩ := s.aliases_creationBody hs c.includeMappings
  have hbody : (c.request s).get? "body" = some (s.creationBody c.includeMappings) := rfl
  rw [aliasesOf, hbody, Option.bind_some, haliases]
  exact hmem

section
variable {c : Provisioner}

/-- A name that was free is taken under the alias. -/
theorem Provisioned.of_added (hw : Provisioned view s clients first w) (hs : s.TakesAlias) (hc : c ∈ clients)
    (hrequested : ∀ name, w'.Requested name ↔ w.Requested name ∨ name = c.indexName s)
    (hfree : view w.state (c.indexName s) = none)
    (hview : view w'.state = (view w.state).add (c.indexName s) (aliasesOf (c.request s))) :
    Provisioned view s clients first w' where
  requested name hname :=
    ((hrequested name).mp hname).elim (hw.requested name) fun heq => ⟨c, hc, heq.symm⟩
  behind name := by
    have hfirst : first (c.indexName s) = none := by
      by_contra hfirst
      exact (hw.present _).mpr (.inl hfirst) hfree
    have hmem := c.label_mem_aliasesOf hs
    rw [hview, Catalog.behind_add hfree, hrequested, hw.behind, or_and_right]
    constructor
    · rintro (⟨rfl, -⟩ | hbehind)
      · exact .inr ⟨rfl, hfirst⟩
      · exact .inl hbehind
    · rintro (hbehind | ⟨rfl, -⟩)
      · exact .inr hbehind
      · exact .inl ⟨rfl, hmem⟩
  present name := by
    rw [hview, Catalog.add_ne_none, hw.present, hrequested]
    tauto

/-- A name that was taken, at first or by a request before, is left as it is. -/
theorem Provisioned.of_refused (hw : Provisioned view s clients first w) (hc : c ∈ clients)
    (hrequested : ∀ name, w'.Requested name ↔ w.Requested name ∨ name = c.indexName s)
    (htaken : view w.state (c.indexName s) ≠ none) (hview : view w'.state = view w.state) :
    Provisioned view s clients first w' where
  requested name hname :=
    ((hrequested name).mp hname).elim (hw.requested name) fun heq => ⟨c, hc, heq.symm⟩
  behind name := by
    have hbefore := (hw.present _).mp htaken
    rw [hview, hw.behind, hrequested]
    constructor
    · exact fun ⟨hreq, hfirst⟩ => ⟨.inl hreq, hfirst⟩
    · rintro ⟨hreq | rfl, hfirst⟩
      · exact ⟨hreq, hfirst⟩
      · exact ⟨hbefore.resolve_left fun hne => hne hfirst, hfirst⟩
  present name := by
    rw [hview, hw.present, hrequested]
    constructor
    · tauto
    · rintro (hfirst | hreq | rfl)
      · exact .inl hfirst
      · exact .inr hreq
      · exact (hw.present _).mp htaken

end

section
variable (h : KeepsIndices engine view) (hs : s.TakesAlias)
include h hs

/-- The request of a client for an index keeps the invariant. -/
theorem Provisioned.create (hw : Provisioned view s clients first w) {c : Provisioner} (hc : c ∈ clients) :
    Provisioned view s clients first (w.answer engine ⟨.createIndex, c.request s⟩) := by
  have hindex : (c.request s).get? "index" = some (.string (c.indexName s)) := rfl
  have hrequested : ∀ name, (w.answer engine ⟨.createIndex, c.request s⟩).Requested name ↔
      w.Requested name ∨ name = c.indexName s := by
    intro name
    rw [w.requested_answer, hindex]
    simp [eq_comm]
  cases hname : view w.state (c.indexName s) with
  | none => exact hw.of_added hs hc hrequested hname (h.create w.state _ _ hindex hname).2
  | some aliases =>
    have htaken : view w.state (c.indexName s) ≠ none := by simp [hname]
    exact hw.of_refused hc hrequested htaken (h.refuse w.state _ _ hindex htaken).2

theorem Provisioned.of_leads (hw : Provisioned view s clients first w)
    (hleads : Shared.Leads engine (ProvisioningCall s clients) w w') :
    Provisioned view s clients first w' := by
  refine hleads.preserves (Provisioned view s clients first) (fun w w' hmove hw => ?_) hw
  cases hmove with
  | connect => exact hw.of_same (h.connect w.state) fun _ => .rfl
  | answer hcall =>
    cases hcall with
    | create hc => exact hw.create h hs hc
    | keeps hcall => exact hw.of_same (h.keeps w.state _ hcall) (w.requested_answer_of_keeps engine hcall)

end

theorem Provisioned.start {state : σ} (hfree : ¬(view state).Taken s.index) :
    Provisioned view s clients (view state) { state } where
  requested name hname := by simp [Shared.Requested] at hname
  behind name := by
    have hbehind : ¬(view state).Behind s.index name := fun hbehind => hfree (.inr ⟨name, hbehind⟩)
    simp [Shared.Requested, hbehind]
  present name := by simp [Shared.Requested]

/-- The logical name is taken once an index was asked for under a free name. -/
theorem Provisioned.taken_iff (hw : Provisioned view s clients first w) (hfree : ¬first.Taken s.index) :
    (view w.state).Taken s.index ↔ ∃ name, w.Requested name ∧ first name = none := by
  constructor
  · rintro (hpresent | ⟨name, hbehind⟩)
    · obtain hfirst | hreq := (hw.present _).mp hpresent
      · exact absurd (.inl hfirst) hfree
      · obtain ⟨c, -, hname⟩ := hw.requested _ hreq
        exact absurd hname (stampedIndexName_ne _ _)
    · exact ⟨name, (hw.behind name).mp hbehind⟩
  · rintro ⟨name, hname⟩
    exact .inr ⟨name, (hw.behind name).mpr hname⟩

/-! ### What a client ensures -/

section
variable {P : Call → Prop} (h : KeepsIndices engine view)
include h

theorem ensures_indexExists (name : String) :
    (indexExists name).Ensures engine P
      (fun result w' => ∃ found, result = .ok found ∧ (found = true → (view w'.state).Taken name)) w := by
  refine Action.ensures_bind (Action.ensures_send fun w' _ => ?_)
  obtain ⟨found, hfound, htaken⟩ :=
    h.indexExists w'.state (.object [("index", .string name)]) name rfl
  rw [hfound]
  refine ⟨_, rfl, fun htrue => ?_⟩
  rw [Shared.answer, h.keeps _ _ (by simp [Call.KeepsIndices])]
  simpa using htaken.mp (by simpa using htrue)

theorem ensures_aliasMapping (name : String) :
    (aliasMapping name).Ensures engine P
      (fun result w' => ∃ fields, result = .ok fields ∧
        ∀ other ∈ Assoc.keys fields, (view w'.state).Behind name other) w := by
  refine Action.ensures_bind fun w' _ => ?_
  have hview := h.keeps w'.state ⟨.getAlias, .object [("name", .string name)]⟩ (by simp [Call.KeepsIndices])
  obtain ⟨fields, hfields, hkeys⟩ | ⟨⟨resource, hnone⟩, -⟩ :=
    h.getAlias w'.state (.object [("name", .string name)]) name rfl
  · rw [hfields]
    refine ⟨fields, rfl, fun other hother => ?_⟩
    rw [Shared.answer, hview]
    exact (hkeys other).mp hother
  · rw [hnone]
    exact ⟨[], rfl, by simp [Assoc.keys]⟩

theorem ensures_isTaken (name : String) :
    (isTaken name).Ensures engine P
      (fun result w' => ∃ taken, result = .ok taken ∧ (taken = true → (view w'.state).Taken name)) w := by
  refine Action.ensures_bind ((ensures_indexExists h name).mono ?_)
  rintro _ w' ⟨found, rfl, htaken⟩
  cases found with
  | true => exact ⟨true, rfl, htaken⟩
  | false =>
    refine Action.ensures_bind ((ensures_aliasMapping h name).mono ?_)
    rintro _ w'' ⟨fields, rfl, hbehind⟩
    refine ⟨_, rfl, fun hfields => ?_⟩
    cases fields with
    | nil => cases hfields
    | cons entry rest => exact .inr ⟨entry.1, hbehind entry.1 (by simp [Assoc.keys])⟩

theorem ensures_updateMappings
    (htaken : ∀ w', Shared.Leads engine P w w' → (view w'.state).Taken s.index)
    (hP : ∀ call : Call, call.KeepsIndices → P call) :
    s.updateMappings.Ensures engine P (fun result _ => result = .ok ()) w := by
  rw [IndexSchema.updateMappings]
  induction s.mappings generalizing w with
  | nil => rfl
  | cons entry rest ih =>
    obtain ⟨type, mapping⟩ := entry
    rw [List.forM]
    refine Action.ensures_bind (Action.ensures_bind (Action.ensures_send fun w' hleads => ?_))
    obtain ⟨answer, hanswer⟩ := h.putMapping w'.state
      (.object [("index", .string s.index), ("type", .string type), ("body", .object [(type, mapping)])])
      s.index rfl (htaken w' hleads)
    rw [hanswer]
    refine ih fun w'' hnext => htaken w'' ?_
    exact (hleads.tail (.answer w' (hP _ (by simp [Call.KeepsIndices])))).trans hnext

theorem ensures_create (hindex : Text.isBlank s.index = false) (c : Provisioner) :
    (s.create c.includeMappings c.moment.stampText).Ensures engine P
      (fun result w' => w'.Requested (c.indexName s) ∧
        ∀ e, result = .error e → IndexSchema.isAlreadyThere e = true) w := by
  rw [c.create_eq hindex]
  refine Action.ensures_bind (Action.ensures_send fun w' _ => ?_)
  have hrequested : (w'.answer engine ⟨.createIndex, c.request s⟩).Requested (c.indexName s) :=
    (w'.requested_answer engine _ _).mpr (.inr ⟨rfl, rfl⟩)
  cases hname : view w'.state (c.indexName s) with
  | none =>
    obtain ⟨⟨answer, hanswer⟩, -⟩ := h.create w'.state (c.request s) _ rfl hname
    rw [hanswer]
    exact ⟨hrequested, nofun⟩
  | some aliases =>
    obtain ⟨⟨body, hbody, hcontains⟩, -⟩ := h.refuse w'.state (c.request s) _ rfl (by simp [hname])
    rw [hbody]
    refine ⟨hrequested, fun e he => ?_⟩
    obtain rfl : Error.engine (.status 400 body) = e := Except.error.inj he
    exact hcontains

variable (hs : s.TakesAlias) (hfree : ¬first.Taken s.index) (hindex : Text.isBlank s.index = false)
  (hw : Provisioned view s clients first w)
include hs hfree hw

/-- Once an index was asked for under a name that was free at first, the mappings can be updated. -/
theorem Provisioned.ensures_updateMappings {name : String} (hrequested : w.Requested name)
    (hname : first name = none) :
    s.updateMappings.Ensures engine (ProvisioningCall s clients) (fun result _ => result = .ok ()) w := by
  refine SearchStore.ensures_updateMappings h (fun w' hleads => ?_) fun _ => .keeps
  exact ((hw.of_leads h hs hleads).taken_iff hfree).mpr ⟨name, hrequested.of_leads hleads, hname⟩

include hindex

/-- A client that found the name free asks for an index, and comes to an end if the name of that was free. -/
theorem Provisioned.ensures_createOrUpdate {c : Provisioner} (hc : c ∈ clients) :
    (s.createOrUpdate c.includeMappings c.moment.stampText).Ensures engine (ProvisioningCall s clients)
      (fun result w' => w'.Requested (c.indexName s) ∧ (first (c.indexName s) = none → result = .ok ()))
      w := by
  refine Action.ensures_tryCatch (Action.ensures_bind ?_)
  refine ((ensures_create h hindex c).and_leads (IndexSchema.makes_create (.create hc))).mono ?_
  rintro result w' ⟨⟨hrequested, herror⟩, hleads⟩
  cases result with
  | ok name => exact ⟨hrequested, fun _ => rfl⟩
  | error e =>
    show Action.Ensures engine _ _ (if IndexSchema.isAlreadyThere e then _ else _) w'
    rw [if_pos (herror e rfl)]
    have hmakes : Action.Makes (ProvisioningCall s clients) s.updateMappings :=
      (makes_updateMappings s).mono fun _ => .keeps
    refine Action.ensures_bind (show Action.Ensures engine _ _ s.updateMappings w' from ?_)
    by_cases hname : first (c.indexName s) = none
    · refine (((hw.of_leads h hs hleads).ensures_updateMappings h hs hfree hrequested
        hname).and_leads hmakes).mono ?_
      exact fun result w'' ⟨hresult, hnext⟩ => ⟨hrequested.of_leads hnext, fun _ => hresult⟩
    · exact hmakes.ensures fun result w'' hnext =>
        ⟨hrequested.of_leads hnext, fun hfirst => absurd hfirst hname⟩

omit hindex in
/-- A client that comes to an end has asked for an index, or another one has. -/
theorem Provisioned.ensures_operation {c : Provisioner} (hc : c ∈ clients) :
    (c.operation s).Ensures engine (ProvisioningCall s clients)
      (fun result w' => result = .ok () → ∃ name, w'.Requested name) w := by
  refine Action.ensures_bind (Action.ensures_lift ?_)
  cases hindex : Text.isBlank s.index with
  | true => simp [IndexSchema.validate, checkText, invalidArgument, hindex]
  | false =>
    have hvalid : s.validate = .ok () := by simp [IndexSchema.validate, checkText, hindex]
    rw [hvalid]
    have hmakes : Action.Makes (ProvisioningCall s clients) (isTaken s.index) :=
      (makes_isTaken s.index).mono fun _ => .keeps
    refine Action.ensures_bind (((ensures_isTaken h s.index).and_leads hmakes).mono ?_)
    rintro _ w' ⟨⟨taken, rfl, htaken⟩, hleads⟩
    have hw' := hw.of_leads h hs hleads
    cases taken with
    | true =>
      obtain ⟨name, hname, -⟩ := (hw'.taken_iff hfree).mp (htaken rfl)
      have hupdate : Action.Makes (ProvisioningCall s clients) s.updateMappings :=
        (makes_updateMappings s).mono fun _ => .keeps
      exact hupdate.ensures fun _ w'' hnext _ => ⟨name, hname.of_leads hnext⟩
    | false =>
      refine (hw'.ensures_createOrUpdate h hs hfree hindex hc).mono ?_
      intro result w'' hcreated _
      exact ⟨_, hcreated.1⟩

/-- A client alone, while nobody has asked for an index, gets to the point where it creates one. -/
theorem Provisioned.exists_steps (hnone : ∀ name, ¬w.Requested name) (c : Provisioner) :
    ∃ n, ((c.operation s).steps engine w n).1 =
        (s.createOrUpdate c.includeMappings c.moment.stampText).run ∧
      Provisioned view s clients first ((c.operation s).steps engine w n).2 ∧
      ∀ name, ¬((c.operation s).steps engine w n).2.Requested name := by
  obtain ⟨n, result, hn⟩ := (isTaken s.index).run.exists_steps_done engine w
  have htaken := ((ensures_isTaken h s.index).and_leads (w := w) (makes_isTaken s.index)).steps n
  rw [hn] at htaken
  obtain ⟨⟨taken, rfl, htaken⟩, hleads⟩ := htaken
  have hkept := hw.of_leads h hs (hleads.mono fun _ => .keeps)
  have hquiet : ∀ name, ¬((isTaken s.index).run.steps engine w n).2.Requested name := fun name =>
    (Shared.requested_iff_of_keeps hleads name).not.mpr (hnone name)
  cases taken with
  | true =>
    obtain ⟨name, hname, -⟩ := (hkept.taken_iff hfree).mp (htaken rfl)
    exact absurd hname (hquiet name)
  | false =>
    have hoperation : c.operation s = (isTaken s.index).run >>= ExceptT.bindCont fun taken =>
        if taken then s.updateMappings else s.createOrUpdate c.includeMappings c.moment.stampText := by
      rw [Provisioner.operation, IndexSchema.ensure, IndexSchema.validate, checkText, hindex]
      rfl
    obtain ⟨m, hm⟩ := Access.exists_steps_bind
      (ExceptT.bindCont fun taken =>
        if taken then s.updateMappings else s.createOrUpdate c.includeMappings c.moment.stampText) hn
    rw [hoperation]
    exact ⟨m, by rw [hm]; rfl, by rw [hm]; exact hkept, by rw [hm]; exact hquiet⟩

end

/-! ### Interleavings of clients -/

theorem IndexSchema.makes_provision (s : IndexSchema) (clients : List Provisioner) (state : σ) :
    ∀ a ∈ (s.provision clients state).operations, a.Makes (ProvisioningCall s clients) := by
  intro a ha
  obtain ⟨c, hc, rfl⟩ := List.mem_map.mp ha
  exact c.makes_operation hc

section
variable (h : KeepsIndices engine view) (hs : s.TakesAlias) {state : σ} (hfree : ¬(view state).Taken s.index)
include h hs hfree

theorem provisioned_run (clients : List Provisioner) (schedule : List Nat) :
    Provisioned view s clients (view state) ((s.provision clients state).run engine schedule).shared :=
  (Provisioned.start hfree).of_leads h hs
    (Parallel.leads_run engine (s.makes_provision clients state) schedule).1

/-- Once all clients have come to an end, an index was asked for. -/
theorem exists_requested (hclients : clients ≠ []) {schedule : List Nat}
    (hdone : ((s.provision clients state).run engine schedule).AllDone (.ok ())) :
    ∃ name, ((s.provision clients state).run engine schedule).shared.Requested name := by
  have hstart : List.Forall₂
      (fun (_ : Provisioner) a => a.Ensures engine (ProvisioningCall s clients)
        (fun result w => result = .ok () → ∃ name, w.Requested name) { state })
      clients (s.provision clients state).operations :=
    List.forall₂_map_right_iff.mpr (List.forall₂_same.mpr fun c hc =>
      (Provisioned.start hfree).ensures_operation h hs hfree hc)
  have hensures := Parallel.ensures_run
    (fun _ result w w' hleads hpost hresult =>
      (hpost hresult).imp fun name hname => hname.of_leads hleads)
    (s.makes_provision clients state) hstart schedule
  obtain ⟨c, hc⟩ := List.exists_mem_of_ne_nil clients hclients
  obtain ⟨a, ha, hend⟩ := exists_right_of_forall₂ hensures hc
  rw [hdone a ha] at hend
  exact hend rfl

/-- In some interleaving all clients find the name free and come to an end, so each asks for its own index. -/
theorem exists_all_requested (hindex : Text.isBlank s.index = false)
    (hnames : ∀ c ∈ clients, view state (c.indexName s) = none) :
    ∃ schedule, ((s.provision clients state).run engine schedule).AllDone (.ok ()) ∧
      ∀ c ∈ clients, ((s.provision clients state).run engine schedule).shared.Requested (c.indexName s) := by
  -- First every client looks, then every client goes on to its end.
  obtain ⟨looks, reached, hreached, hoperations, hlooked, -⟩ :=
    Parallel.exists_run engine (Provisioner.operation s)
      (fun c a => a = (s.createOrUpdate c.includeMappings c.moment.stampText).run)
      (fun w => Provisioned view s clients (view state) w ∧ ∀ name, ¬w.Requested name) clients
      (fun c _ w hw => hw.1.exists_steps h hs hfree hindex hw.2 c) [] { state }
      ⟨Provisioned.start hfree, by simp [Shared.Requested]⟩
  obtain ⟨ends, hends⟩ :=
    Parallel.exists_run_done engine ((s.provision clients state).run engine looks)
  have hlooks : ((s.provision clients state).run engine looks).operations = reached := hoperations
  have hgoals : List.Forall₂
      (fun c a => a.Ensures engine (ProvisioningCall s clients)
        (fun result w => w.Requested (c.indexName s) ∧ result = .ok ())
        ((s.provision clients state).run engine looks).shared)
      clients ((s.provision clients state).run engine looks).operations := by
    rw [hlooks]
    refine ((List.forall₂_and_left _ _).mpr ⟨fun c hc => hc, hreached⟩).imp ?_
    rintro c _ ⟨hc, rfl⟩
    refine (hlooked.ensures_createOrUpdate h hs hfree hindex hc).mono ?_
    exact fun result w ⟨hrequested, hresult⟩ => ⟨hrequested, hresult (hnames c hc)⟩
  have hensures := Parallel.ensures_run
    (fun _ result w w' hleads hpost => ⟨hpost.1.of_leads hleads, hpost.2⟩)
    (Parallel.leads_run engine (s.makes_provision clients state) looks).2 hgoals ends
  refine ⟨looks ++ ends, ?_⟩
  rw [Parallel.run_append]
  refine ⟨fun a ha => ?_, fun c hc => ?_⟩
  · obtain ⟨c, -, hend⟩ := exists_left_of_forall₂ hensures ha
    obtain ⟨result, rfl⟩ := hends a ha
    exact congrArg Access.done hend.2
  · obtain ⟨a, ha, hend⟩ := exists_right_of_forall₂ hensures hc
    obtain ⟨result, rfl⟩ := hends a ha
    exact hend.1

end

/-- **When one index is all there is.** Clients provision one schema, whose logical name is free at first. Once
all of them have come to an end, an index was asked for, under names that end in the times that clients read; and
the indices behind the logical name are those that were asked for under names that were free at first. If these
names are free for all clients, then exactly one index is behind the logical name in every interleaving just when
all clients read the same second. -/
theorem provisioned_iff_same_second (h : KeepsIndices engine view) (hs : s.TakesAlias) {state : σ}
    (hfree : ¬(view state).Taken s.index) (hclients : clients ≠ []) :
    (∀ schedule,
      let after := (s.provision clients state).run engine schedule
      after.AllDone (.ok ()) →
        (∃ name, after.shared.Requested name) ∧
        (∀ name, after.shared.Requested name → ∃ c ∈ clients, c.indexName s = name) ∧
        ∀ name, (view after.shared.state).Behind s.index name ↔
          after.shared.Requested name ∧ view state name = none) ∧
    (Text.isBlank s.index = false → (∀ c ∈ clients, view state (c.indexName s) = none) →
      ((∀ schedule,
        let after := (s.provision clients state).run engine schedule
        after.AllDone (.ok ()) → ∃! name, (view after.shared.state).Behind s.index name) ↔
      ∀ c ∈ clients, ∀ d ∈ clients, c.moment.stampText = d.moment.stampText)) := by
  have hrun := provisioned_run h hs hfree clients
  refine ⟨?_, fun hindex hnames => ⟨fun hone c hc d hd => ?_, ?_⟩⟩
  · intro schedule after hdone
    exact ⟨exists_requested h hs hfree hclients hdone, (hrun schedule).requested, (hrun schedule).behind⟩
  · obtain ⟨schedule, hdone, hrequested⟩ := exists_all_requested h hs hfree hindex hnames
    have hbehind : ∀ c ∈ clients, (view ((s.provision clients state).run engine schedule).shared.state).Behind
        s.index (c.indexName s) :=
      fun c hc => ((hrun schedule).behind _).mpr ⟨hrequested c hc, hnames c hc⟩
    have hsame := (hone schedule hdone).unique (hbehind c hc) (hbehind d hd)
    exact stampedIndexName_inj.mp hsame
  · intro hstamps schedule after hdone
    obtain ⟨name, hname⟩ := exists_requested h hs hfree hclients hdone
    obtain ⟨c, hc, rfl⟩ := (hrun schedule).requested name hname
    refine ⟨c.indexName s, ((hrun schedule).behind _).mpr ⟨hname, hnames c hc⟩, fun other hother => ?_⟩
    obtain ⟨d, hd, rfl⟩ := (hrun schedule).requested other (((hrun schedule).behind other).mp hother).1
    exact stampedIndexName_inj.mpr (hstamps d hd c hc)

/-! ### An engine that is a catalog -/

/-- The indices behind an alias. -/
def indicesBehind (label : String) (entries : List (String × List String)) : List String :=
  (Assoc.keys entries).filter fun name => label ∈ (Assoc.get? name entries).getD []

/-- Whether a name is taken by an index or an alias. -/
def isTakenIn (name : String) (entries : List (String × List String)) : Bool :=
  Assoc.contains name entries || !(indicesBehind name entries).isEmpty

/-- The engine whose states are indices with their aliases. -/
def catalogEngine : Engine (List (String × List String)) where
  connect entries := (.ok (), entries)
  answer call entries :=
    let text (key : String) : String := ((call.params.get? key).bind Json.asString?).getD ""
    match call.method with
    | .indexExists => (.ok (.bool (isTakenIn (text "index") entries)), entries)
    | .getAlias =>
      match indicesBehind (text "name") entries with
      | [] => (.error (.notFound (text "name")), entries)
      | names => (.ok (.object (names.map fun name => (name, .empty))), entries)
    | .putMapping =>
      if isTakenIn (text "index") entries then (.ok .empty, entries)
      else (.error (.notFound (text "index")), entries)
    | .createIndex =>
      if Assoc.contains (text "index") entries then
        (.error (.status 400 "resource_already_exists_exception"), entries)
      else (.ok .empty, Assoc.insert (text "index") (aliasesOf call.params) entries)
    | _ => (.error (.status 400 "unsupported"), entries)

/-- The catalog of entries. -/
def catalogOf (entries : List (String × List String)) : Catalog := fun name => Assoc.get? name entries

theorem mem_indicesBehind {label name : String} {entries : List (String × List String)} :
    name ∈ indicesBehind label entries ↔ (catalogOf entries).Behind label name := by
  rw [indicesBehind, List.mem_filter, decide_eq_true_eq, Catalog.Behind, catalogOf]
  cases hname : Assoc.get? name entries with
  | none => simp
  | some aliases =>
    have hkeys : name ∈ Assoc.keys entries := by
      by_contra habsent
      rw [Assoc.get?_eq_none_iff.mpr habsent] at hname
      cases hname
    simp [hkeys]

theorem isTakenIn_iff {name : String} {entries : List (String × List String)} :
    isTakenIn name entries = true ↔ (catalogOf entries).Taken name := by
  simp only [isTakenIn, Bool.or_eq_true, Assoc.contains, Catalog.Taken, ← mem_indicesBehind]
  rw [Option.isSome_iff_ne_none, Bool.not_eq_true', List.isEmpty_eq_false_iff_exists_mem]
  rfl

theorem keepsIndices_catalogEngine : KeepsIndices catalogEngine catalogOf where
  connect _ := rfl
  keeps entries call hcall := by
    obtain ⟨method, params⟩ := call
    have hmethod : method = .indexExists ∨ method = .getAlias ∨ method = .putMapping := by
      simpa [Call.KeepsIndices] using hcall
    obtain rfl | rfl | rfl := hmethod
    · rfl
    · simp only [catalogEngine]
      split <;> rfl
    · simp only [catalogEngine]
      split <;> rfl
  indexExists entries params name hname := by
    refine ⟨isTakenIn name entries, ?_, isTakenIn_iff⟩
    simp [catalogEngine, hname, Json.asString?]
  getAlias entries params label hlabel := by
    simp only [catalogEngine, hlabel, Option.bind_some, Json.asString?, Option.getD_some,
      ← mem_indicesBehind]
    cases indicesBehind label entries with
    | nil => exact .inr ⟨⟨label, rfl⟩, by simp⟩
    | cons name names => exact .inl ⟨_, rfl, by simp [Assoc.keys]⟩
  putMapping entries params name hname htaken := by
    simp [catalogEngine, hname, Json.asString?, isTakenIn_iff.mpr htaken]
  create entries params name hname hfree := by
    have habsent : Assoc.contains name entries = false := by
      rw [Assoc.contains, show Assoc.get? name entries = none from hfree]
      rfl
    simp only [catalogEngine, hname, Option.bind_some, Json.asString?, Option.getD_some, habsent,
      Bool.false_eq_true, if_false]
    refine ⟨⟨_, rfl⟩, ?_⟩
    funext other
    rw [catalogOf, Assoc.get?_insert, Catalog.add, Function.update_apply]
    rfl
  refuse entries params name hname hpresent := by
    have hcontains : Assoc.contains name entries = true := Option.isSome_iff_ne_none.mpr hpresent
    simp only [catalogEngine, hname, Option.bind_some, Json.asString?, Option.getD_some, hcontains, if_true]
    exact ⟨⟨_, rfl, by decide +kernel⟩, trivial⟩

/-- Noon of the first of March 2024, and a number of seconds and nanoseconds. -/
def noonAnd (seconds : Fin 60) (nanos : Fin 1000) : Moment :=
  { date := ⟨2024, 3, 1, by decide⟩, second := 43200 + seconds, nano := nanos
    second_lt := by omega, nano_lt := by omega }

/-- Two clients that read the same second leave one index, though both look before one of them creates it: the
second one is refused, and updates the mappings. -/
theorem provisioned_same_second :
    let s : IndexSchema := { index := "books", mappings := [("book", .empty)] }
    let clients : List Provisioner := [⟨true, noonAnd 0 0⟩, ⟨false, noonAnd 0 7⟩]
    let before : List (String × List String) := [("films_1", ["films"])]
    let after := (s.provision clients before).run catalogEngine [0, 0, 1, 1, 0, 1, 0, 1, 1, 1]
    s.TakesAlias ∧ ¬(catalogOf before).Taken "books" ∧ after.AllDone (.ok ()) ∧
    ∃! name, (catalogOf after.shared.state).Behind "books" name := by
  intro s clients before
  have hdone : ((s.provision clients before).run catalogEngine [0, 0, 1, 1, 0, 1, 0, 1, 1, 1]).AllDone
      (.ok ()) := by
    decide +kernel
  have hs : s.TakesAlias := nofun
  have hfree : ¬(catalogOf before).Taken s.index := by
    rw [← isTakenIn_iff]
    decide
  have hnames : ∀ c ∈ clients, catalogOf before (c.indexName s) = none := by decide +kernel
  have hstamps : ∀ c ∈ clients, ∀ d ∈ clients, c.moment.stampText = d.moment.stampText := by decide +kernel
  have hclients : clients ≠ [] := List.cons_ne_nil _ _
  have hone := (provisioned_iff_same_second keepsIndices_catalogEngine hs hfree hclients).2 (by decide) hnames
  exact ⟨hs, hfree, hdone, hone.mpr hstamps [0, 0, 1, 1, 0, 1, 0, 1, 1, 1] hdone⟩

/-- Two clients that both look before one of them creates an index, at times one second apart, leave two indices
behind the logical name. -/
theorem not_provisioned_once :
    let s : IndexSchema := { index := "books" }
    let clients : List Provisioner := [⟨true, noonAnd 0 0⟩, ⟨true, noonAnd 1 0⟩]
    let after := (s.provision clients []).run catalogEngine [0, 0, 1, 1, 0, 1, 0, 1]
    s.TakesAlias ∧ ¬(catalogOf []).Taken "books" ∧ after.AllDone (.ok ()) ∧
    ¬∃! name, (catalogOf after.shared.state).Behind "books" name := by
  intro s clients after
  have hfree : ¬(catalogOf []).Taken "books" := by
    rw [← isTakenIn_iff]
    decide
  have hindices : indicesBehind "books" after.shared.state =
      ["books_20240301120000", "books_20240301120001"] := by decide +kernel
  refine ⟨nofun, hfree, by decide +kernel, fun hone => ?_⟩
  have hfirst : (catalogOf after.shared.state).Behind "books" "books_20240301120000" :=
    mem_indicesBehind.mp (by simp [hindices])
  have hsecond : (catalogOf after.shared.state).Behind "books" "books_20240301120001" :=
    mem_indicesBehind.mp (by simp [hindices])
  exact absurd (hone.unique hfirst hsecond) (by decide)

end SearchStore
