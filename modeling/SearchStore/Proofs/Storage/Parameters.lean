import SearchStore.Engine.Script
import SearchStore.Proofs.Storage.Paging

/-!
# Configured parameters of storage

A request of a writer or a reader is laid over the parameters that are configured for its method. All its own entries
are atoms, apart from the body, so they replace what is configured at their keys, of whatever kind it is, and what is
configured at any other key is sent as it is (`Overrides`).

`Writer.keepsTo` and `Reader.keepsTo` say so of the calls of each operation, with the target and the identifier that
they address, and `parameters_never_retarget` of the writers and readers of any configuration.
-/

namespace SearchStore

variable {α ι σ : Type}

/-! ### Entries over what is configured -/

/-- Parameters that carry entries of their own, whatever is configured at the keys of these, and at every other key
but `body` just what is configured there. -/
structure Overrides (own configured : Fields) (params : Json) : Prop where
  carries : ∀ entry ∈ own, params.get? entry.1 = some entry.2
  others : ∀ key, key ∉ "body" :: Assoc.keys own → params.get? key = Assoc.get? key configured

/-- Atoms lie over what is configured, and hide nothing else. -/
theorem overrides_mergeFields {own configured : Fields} (hconfigured : (Assoc.keys configured).Nodup)
    (hown : (Assoc.keys own).Nodup) (hatoms : ∀ entry ∈ own, entry.2.IsAtom) :
    Overrides own configured (.object (Json.mergeFields (Json.mergeFields [] configured) own)) where
  carries entry hentry :=
    Json.get?_mergeFields_atom (hatoms entry hentry) _ hown (Assoc.get?_of_mem hown hentry)
  others key hkey := by
    have habsent : Assoc.get? key own = none :=
      Assoc.get?_eq_none_iff.mpr fun hmem => hkey (List.mem_cons_of_mem _ hmem)
    rw [Json.get?, Json.get?_mergeFields_of_absent habsent, Json.get?_mergeFields_nil key hconfigured]

section
variable {own configured fields : Fields} (h : Overrides own configured (.object fields))
include h

theorem Overrides.layBody (hbody : "body" ∉ Assoc.keys own) (body : Json) :
    Overrides own configured (.object (Json.mergeFields fields [("body", body)])) := by
  have hkept : ∀ key, key ≠ "body" →
      Assoc.get? key (Json.mergeFields fields [("body", body)]) = Assoc.get? key fields := by
    intro key hkey
    apply Json.get?_mergeFields_of_absent
    rw [Assoc.get?, if_neg (Ne.symm hkey), Assoc.get?]
  constructor
  · intro entry hentry
    have hkey : entry.1 ≠ "body" := fun heq => hbody (heq ▸ List.mem_map_of_mem hentry)
    exact (hkept entry.1 hkey).trans (h.carries entry hentry)
  · intro key hkey
    have hne : key ≠ "body" := fun heq => hkey (heq ▸ List.mem_cons_self)
    exact (hkept key hne).trans (h.others key hkey)

theorem Overrides.insert (key : String) (hkey : key ∉ Assoc.keys own) (value : Json) :
    Overrides (own ++ [(key, value)]) configured (.object (Assoc.insert key value fields)) := by
  constructor
  · intro entry hentry
    rw [Json.get?, Assoc.get?_insert]
    rcases List.mem_append.mp hentry with hold | hnew
    · have hne : entry.1 ≠ key := fun heq => hkey (heq ▸ List.mem_map_of_mem hold)
      rw [if_neg hne]
      exact h.carries entry hold
    · obtain rfl := List.mem_singleton.mp hnew
      rw [if_pos rfl]
  · intro other hother
    have hkeys : Assoc.keys (own ++ [(key, value)]) = Assoc.keys own ++ [key] := by simp [Assoc.keys]
    rw [hkeys, List.mem_cons, List.mem_append, List.mem_singleton, not_or, not_or] at hother
    obtain ⟨hbody, hold, hne⟩ := hother
    rw [Json.get?, Assoc.get?_insert, if_neg hne]
    exact h.others other (by simp [hbody, hold])

end

/-! ### Requests -/

namespace StorageConfig

/-- The parameters that are configured for a method. -/
def configured (c : StorageConfig) (method : Method) : Fields :=
  (Assoc.get? method.name c.parameters.methods).getD []

/-- The configured parameters of every method are an object, in which no key stands twice. -/
def HasUniqueParameters (c : StorageConfig) : Prop := ∀ method, (Assoc.keys (c.configured method)).Nodup

/-- A call of a method with entries of its own, laid over what is configured for the method. -/
structure Underlies (c : StorageConfig) (method : Method) (own : Fields) (call : Call) : Prop where
  method_eq : call.method = method
  overrides : Overrides own (c.configured method) call.params

end StorageConfig

namespace Target

variable (t : Target) (identifier : String)

theorem isAtom_of_mem_address : ∀ entry ∈ t.address identifier, entry.2.IsAtom := by
  simp [address, params]

theorem overrides_address {configured : Fields} (h : (Assoc.keys configured).Nodup) :
    Overrides (t.address identifier) configured
      (.object (Json.mergeFields (Json.mergeFields [] configured) (t.address identifier))) :=
  overrides_mergeFields h (t.nodup_keys_address identifier) (t.isAtom_of_mem_address identifier)

end Target

namespace Writer

variable {w : Writer} (h : w.config.HasUniqueParameters) (identifier : String)
include h

theorem underlies_index (body : Json) :
    w.config.Underlies .index (w.target.address identifier) ⟨.index, w.indexRequest identifier body⟩ := by
  refine ⟨rfl, ?_⟩
  obtain ⟨configured, hconfigured, hrequest⟩ := w.indexRequest_eq identifier body
  obtain rfl : w.config.configured .index = configured := Json.object.inj hconfigured
  rw [hrequest]
  exact (w.target.overrides_address identifier (h .index)).layBody (by simp [Target.keys_address]) body

theorem underlies_lookup :
    w.config.Underlies .get (w.target.address identifier ++ [("refresh", .bool false)]) (w.lookup identifier) := by
  refine ⟨rfl, ?_⟩
  have hrequest := w.config.parameters.layers_layer "get"
    [w.target.address identifier, [("refresh", .bool false)]]
  rw [List.foldl_cons, List.foldl_cons, List.foldl_nil, ← Json.mergeFields_append] at hrequest
  have hkeys : (Assoc.keys (w.target.address identifier ++ [("refresh", Json.bool false)])).Nodup := by
    rw [show Assoc.keys _ = ["index", "type", "id", "refresh"] from rfl]
    decide
  have hatoms : ∀ entry ∈ w.target.address identifier ++ [("refresh", Json.bool false)], entry.2.IsAtom := by
    rw [List.forall_mem_append]
    exact ⟨w.target.isAtom_of_mem_address identifier, by simp [Json.IsAtom]⟩
  rw [show (w.lookup identifier).params = _ from hrequest]
  exact overrides_mergeFields (h .get) hkeys hatoms

theorem underlies_removal :
    w.config.Underlies .delete (w.target.address identifier) (w.removal identifier) := by
  refine ⟨rfl, ?_⟩
  have hrequest := w.config.parameters.layers_layer "delete" [w.target.address identifier]
  rw [show (w.removal identifier).params = _ from hrequest]
  exact w.target.overrides_address identifier (h .delete)

end Writer

namespace Reader

variable {r : Reader ι} (h : r.config.HasUniqueParameters)
include h

theorem underlies_get (identifier : String) :
    r.config.Underlies .get (r.target.address identifier) ⟨.get, r.getRequest identifier⟩ := by
  refine ⟨rfl, ?_⟩
  have hrequest := r.config.parameters.layers_layer "get" [r.target.address identifier]
  rw [show r.getRequest identifier = _ from hrequest]
  exact r.target.overrides_address identifier (h .get)

omit h in
/-- The entries of a request for a page: the target, the size of the page, and where it starts unless it is the
first one. -/
def pageEntries (r : Reader ι) (t : Target) (settings : PageSettings) : Fields :=
  t.params ++ [("size", .natural (r.limitOf settings))] ++
    if settings.first then [] else [("from", .natural r.offset)]

/-- The request for the first page is an object, and `nextRequest` writes one more entry into it. -/
theorem overrides_firstRequest (limit : UInt64) : ∃ fields, r.firstRequest limit = .object fields ∧
    Overrides (r.target.params ++ [("size", .natural limit)]) (r.config.configured .search) (.object fields) := by
  obtain ⟨configured, hconfigured, hrequest⟩ := r.firstRequest_eq limit
  obtain rfl : r.config.configured .search = configured := Json.object.inj hconfigured
  -- The size belongs to the atoms, and the body goes on top of them.
  rw [← Json.mergeFields_append, List.append_cons r.target.params, Json.mergeFields_append] at hrequest
  have hkeys : Assoc.keys (r.target.params ++ [("size", .natural limit)]) = ["index", "type", "size"] := rfl
  have hunique : (Assoc.keys (r.target.params ++ [("size", .natural limit)])).Nodup := by
    rw [hkeys]
    decide
  have hatoms : ∀ entry ∈ r.target.params ++ [("size", .natural limit)], entry.2.IsAtom := by
    simp [Target.params]
  refine ⟨_, hrequest, ?_⟩
  exact (overrides_mergeFields (h .search) hunique hatoms).layBody (by rw [hkeys]; decide) matchAllBody

theorem underlies_page (settings : PageSettings) :
    r.config.Underlies .search (r.pageEntries r.target settings) ⟨.search, r.pageRequest settings⟩ := by
  refine ⟨rfl, ?_⟩
  obtain ⟨fields, hfields, hoverrides⟩ := overrides_firstRequest h (r.limitOf settings)
  unfold pageEntries
  cases hfirst : settings.first with
  | true =>
    have hrequest : r.pageRequest settings = r.firstRequest (r.limitOf settings) := by
      simp [pageRequest, hfirst, limitOf]
    rw [hrequest, hfields, if_pos rfl, List.append_nil]
    exact hoverrides
  | false =>
    have hrequest : r.pageRequest settings = r.nextRequest (r.limitOf settings) := by
      simp [pageRequest, hfirst, limitOf]
    rw [hrequest, nextRequest, hfields, Json.set, if_neg (by simp)]
    exact hoverrides.insert "from" (by simp [Assoc.keys, Target.params]) (.natural r.offset)

end Reader

/-! ### Calls of operations -/

/-- The operation makes the first call if `valid` holds and it has a connection, then the second one if the first is
answered without an error, and never another one. -/
structure Access.MakesBoth (a : Access α) (valid : Prop) (first second : Call) : Prop where
  only : ∀ (σ : Type) (engine : Engine σ) (state : σ), ∀ other ∈ (a.run engine state).calls,
    valid ∧ (other = first ∨ other = second)
  inOrder : valid → ∀ (σ : Type) (engine : Engine σ) (state : σ), (engine.connect state).1 = .ok () →
    (a.run engine state).calls = first ::
      match (engine.answer first (engine.connect state).2).1 with
      | .ok _ => [second]
      | .error _ => []

/-- What a writer addresses and what it sends: the target and the identifier, whatever is configured there, and what is
configured elsewhere. The lookup of a deletion does not ask for a refresh, whatever is configured. -/
structure Writer.KeepsTo (w : Writer) (t : Target) : Prop where
  write : ∀ d, ∃ call, w.config.Underlies .index (t.address d.identifier) call ∧
    (w.write d).run.MakesOne (d.isStorable = true) call
  delete : ∀ identifier, ∃ lookup removal,
    w.config.Underlies .get (t.address identifier ++ [("refresh", .bool false)]) lookup ∧
    w.config.Underlies .delete (t.address identifier) removal ∧
    (w.delete identifier).run.MakesBoth (Text.isBlank identifier = false) lookup removal

/-- What a reader addresses and what it sends; for a page also its size, and the offset if it is not the first one. -/
structure Reader.KeepsTo (r : Reader ι) (t : Target) : Prop where
  read : ∀ identifier, ∃ call, r.config.Underlies .get (t.address identifier) call ∧
    (r.read identifier).run.MakesOne (Text.isBlank identifier = false) call
  readAll : ∀ settings, ∃ call, r.config.Underlies .search (r.pageEntries t settings) call ∧
    (r.readAll settings).MakesOne (settings.first = true ∨ r.offset ≠ 0) call

theorem Writer.makesBoth_delete (w : Writer) (identifier : String) :
    (w.delete identifier).run.MakesBoth (Text.isBlank identifier = false) (w.lookup identifier)
      (w.removal identifier) where
  only σ engine state call hcall := by
    cases hid : Text.isBlank identifier with
    | true =>
      rw [← Action.execute, (w.settles_delete hid).calls_eq_nil] at hcall
      cases hcall
    | false =>
      rw [← Action.execute, Action.calls_eq_map_replies] at hcall
      obtain ⟨entry, hentry, rfl⟩ := List.mem_map.mp hcall
      obtain ⟨-, rfl | ⟨answer, -, rfl⟩⟩ := w.mem_replies_delete hid hentry
      · exact ⟨rfl, .inl rfl⟩
      · exact ⟨rfl, .inr rfl⟩
  inOrder hid σ engine state hconnect := by
    rw [← Action.execute, Action.calls_eq_map_replies, w.replies_delete hid hconnect, List.map_cons]
    cases (engine.answer (w.lookup identifier) (engine.connect state).2).1 with
    | ok answer => rfl
    | error e => rfl

theorem Writer.keepsTo {w : Writer} (h : w.config.HasUniqueParameters) : w.KeepsTo w.target where
  write d := by
    obtain ⟨body, hasks⟩ := w.exists_asksIf_write d
    exact ⟨_, w.underlies_index h d.identifier body, hasks.makesOne⟩
  delete identifier :=
    ⟨_, _, w.underlies_lookup h identifier, w.underlies_removal h identifier, w.makesBoth_delete identifier⟩

theorem Reader.keepsTo {r : Reader ι} (h : r.config.HasUniqueParameters) : r.KeepsTo r.target where
  read identifier := ⟨_, underlies_get h identifier, (r.asksIf_read identifier).makesOne⟩
  readAll settings := ⟨_, underlies_page h settings, r.makesOne_readAll settings⟩

/-- **Configured parameters never retarget storage.** Every writer of a configuration, and every reader of it at any
offset, has the resolved target, and its requests name this target and the identifier that is given: whatever is
configured under these keys, and whatever the operation is answered. A lookup in front of a deletion has `refresh` off,
a request for a page has the size that is asked for, and one that goes on has the offset of the reader. All that is
configured under other keys, apart from a body, arrives as it is. -/
theorem parameters_never_retarget {config : StorageConfig} (h : config.HasUniqueParameters)
    (connector : Connector) :
    (∀ w, Writer.create connector config = .ok w →
      ∃ t, Target.resolve config connector = .ok t ∧ w.config = config ∧ w.KeepsTo t) ∧
    ∀ (mapper : Mapper ι) (r : Reader ι), Reader.create connector config mapper = .ok r →
      ∃ t, Target.resolve config connector = .ok t ∧ r.config = config ∧
        ∀ offset, (r.seek offset).KeepsTo t := by
  constructor
  · intro w hw
    obtain ⟨t, htarget, hwriter⟩ := exists_of_bind_eq_ok hw
    obtain ⟨_, -, hresolve⟩ := exists_of_bind_eq_ok htarget
    cases hwriter
    exact ⟨t, hresolve, rfl, Writer.keepsTo h⟩
  · intro mapper r hr
    obtain ⟨t, htarget, hreader⟩ := exists_of_bind_eq_ok hr
    obtain ⟨_, -, hresolve⟩ := exists_of_bind_eq_ok htarget
    cases hreader
    exact ⟨t, hresolve, rfl, fun offset => Reader.keepsTo h⟩

/-- A deletion with a type and a refresh in its configured lookup, and a page with a size and a place in its
configured search. -/
theorem parameters_never_retarget_page :
    let lookup : Fields :=
      [("type", Json.strings ["author"]), ("refresh", .bool true), ("routing", .string "a")]
    let search : Fields := [("size", .object [("book", .natural 5)]), ("from", .null), ("timeout", .string "1s")]
    let config : StorageConfig :=
      { index := some ⟨["library", "archive"]⟩, docType := some ⟨["book"]⟩
        parameters := ⟨[("get", lookup), ("search", search)]⟩ }
    let t : Target := ⟨⟨["library", "archive"]⟩, ⟨["book"]⟩⟩
    let w : Writer := { connector := {}, config, target := t }
    let r : Reader Json := { connector := {}, config, target := t, mapper := .source, offset := 20 }
    config.HasUniqueParameters ∧
    (∃ first second, ((w.delete "dune").execute Script.engine {}).calls = [first, second] ∧
      first.params.get? "index" = some (.string "library,archive") ∧
      first.params.get? "type" = some (.string "book") ∧ first.params.get? "refresh" = some (.bool false) ∧
      first.params.get? "routing" = some (.string "a") ∧
      second.params.get? "id" = some (.string "dune")) ∧
    ∃ call, ((r.readAll { first := false }).run Script.engine {}).calls = [call] ∧
      call.params.get? "size" = some (.natural 10) ∧ call.params.get? "from" = some (.natural 20) ∧
      call.params.get? "timeout" = some (.string "1s") := by
  intro lookup search config t w r
  have hunique : config.HasUniqueParameters := by
    intro method
    cases method <;> decide
  obtain ⟨hwriter, hreader⟩ := parameters_never_retarget (ι := Json) hunique {}
  obtain ⟨t', htarget, -, hkeeps⟩ := hwriter w rfl
  obtain rfl : t = t' := Except.ok.inj htarget
  obtain ⟨first, second, hfirst, hsecond, hcalls⟩ := hkeeps.delete "dune"
  obtain ⟨t', htarget', -, hpages⟩ := hreader .source { r with offset := 0 } rfl
  obtain rfl : t = t' := Except.ok.inj htarget'
  obtain ⟨call, hcall, hone⟩ := (hpages 20).readAll { first := false }
  refine ⟨hunique, ⟨first, second, ?_, ?_, ?_, ?_, ?_, ?_⟩, call, ?_, ?_, ?_, ?_⟩
  · have hmade := hcalls.inOrder (by decide) Script Script.engine {} rfl
    obtain ⟨method, params⟩ := first
    obtain rfl : method = .get := hfirst.method_eq
    exact hmade
  · exact hfirst.overrides.carries ("index", .string "library,archive") (by decide +kernel)
  · exact hfirst.overrides.carries ("type", .string "book") (by decide +kernel)
  · exact hfirst.overrides.carries ("refresh", .bool false) (by decide +kernel)
  · exact hfirst.overrides.others "routing" (by decide)
  · exact hsecond.overrides.carries ("id", .string "dune") (by decide +kernel)
  · exact hone.once (.inr (by decide)) Script Script.engine {} rfl
  · exact hcall.overrides.carries ("size", .natural 10) (by decide +kernel)
  · exact hcall.overrides.carries ("from", .natural 20) (by decide +kernel)
  · exact hcall.overrides.others "timeout" (by decide)

end SearchStore
