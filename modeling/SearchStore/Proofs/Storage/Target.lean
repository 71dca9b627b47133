import SearchStore.Engine.Script
import SearchStore.Proofs.Config.Selection
import SearchStore.Proofs.Http.Request
import SearchStore.Proofs.Storage.Operations

/-!
# Targets that name nothing

A selection that a storage gives is checked to name something, and one that its connector gives is not. So the
target of a storage names an index and a type exactly where, at each of them, the storage gives a selection or the
one of the connector is not blank (`Selection.named_chosen_iff`). This decides about every request for a document:
a text that is empty is left out of its path, and those behind it move to its place
(`Call.IsFor.addressesDocument_iff`).
-/

namespace SearchStore

variable {α β ι σ : Type}

/-! ### Selections -/

namespace Selection

theorem isEmpty_iff {s : Selection} : s.isEmpty = true ↔ s.names = [] := List.isEmpty_iff

theorem render_eq_empty_iff {s : Selection} (h : ∀ name ∈ s.names, name ≠ "") :
    s.render = "" ↔ s.isEmpty = true := by
  rw [isEmpty_iff, render]
  cases hnames : s.names with
  | nil => exact ⟨fun _ => rfl, fun _ => rfl⟩
  | cons first rest =>
    cases rest with
    | nil =>
      have hname : first ≠ "" := h first (by simp [hnames])
      exact ⟨fun htext => absurd htext hname, fun hnil => absurd hnil (List.cons_ne_nil first [])⟩
    | cons second rest =>
      constructor
      · intro htext
        have hlength := congrArg String.length htext
        simp [Text.join] at hlength
      · intro hnil
        exact absurd hnil (List.cons_ne_nil first (second :: rest))

/-- A storage gives a selection or, if it gives none, the one of its connector names something. -/
def Supplied (own shared : Option Selection) : Prop :=
  own.isSome = true ∨ ∃ s, shared = some s ∧ s.isEmpty = false

theorem named_chosen_iff {key : String} {own shared : Option Selection} {s : Selection}
    (hcheck : checkSelection key own = .ok ()) (hchosen : Target.choose key own shared = .ok s) :
    s.isEmpty = false ↔ Supplied own shared := by
  cases own with
  | some given =>
    obtain rfl : given = s := Except.ok.inj hchosen
    have hnamed : given.isEmpty = false := by
      rw [checkSelection] at hcheck
      by_contra hempty
      rw [Bool.not_eq_false] at hempty
      rw [if_pos hempty] at hcheck
      cases hcheck
    exact ⟨fun _ => .inl rfl, fun _ => hnamed⟩
  | none =>
    cases shared with
    | none => cases hchosen
    | some given =>
      obtain rfl : given = s := Except.ok.inj hchosen
      constructor
      · intro hnamed
        exact .inr ⟨given, rfl, hnamed⟩
      · rintro (hown | ⟨other, hother, hnamed⟩)
        · cases hown
        · cases hother
          exact hnamed

theorem read_chosen {key : String} {own shared : Option Selection} {s : Selection}
    (hown : ∀ given, own = some given → given.IsRead) (hshared : ∀ given, shared = some given → given.IsRead)
    (hchosen : Target.choose key own shared = .ok s) : s.IsRead := by
  cases own with
  | some given => exact hown s (congrArg some (Except.ok.inj hchosen))
  | none =>
    cases shared with
    | none => cases hchosen
    | some given => exact hshared s (congrArg some (Except.ok.inj hchosen))

end Selection

/-! ### Targets -/

/-- The index and the type of a target name something. -/
structure Target.IsNamed (t : Target) : Prop where
  index : t.index.isEmpty = false
  docType : t.docType.isEmpty = false

/-- The selections of a storage and of its connector are read from texts or lists. -/
structure ReadsSelections (config : StorageConfig) (connector : ConnectorConfig) : Prop where
  index : ∀ s, config.index = some s → s.IsRead
  docType : ∀ s, config.docType = some s → s.IsRead
  sharedIndex : ∀ s, connector.index = some s → s.IsRead
  sharedType : ∀ s, connector.docType = some s → s.IsRead

/-- At the index and at the type, the storage gives a selection or the one of its connector names something. -/
structure SuppliesTarget (config : StorageConfig) (connector : ConnectorConfig) : Prop where
  index : Selection.Supplied config.index connector.index
  docType : Selection.Supplied config.docType connector.docType

namespace Target

variable {config : StorageConfig} {connector : Connector} {t : Target}

/-- The target of a valid configuration was chosen from selections that passed their checks. -/
theorem chosen_of_ofConfig (h : ofConfig config connector = .ok t) :
    checkSelection "index" config.index = .ok () ∧ checkSelection "type" config.docType = .ok () ∧
      choose "index" config.index connector.config.index = .ok t.index ∧
      choose "type" config.docType connector.config.docType = .ok t.docType := by
  obtain ⟨_, hvalidate, hresolve⟩ := exists_of_bind_eq_ok h
  obtain ⟨index, hindex, hrest⟩ := exists_of_bind_eq_ok hresolve
  obtain ⟨docType, htype, htarget⟩ := exists_of_bind_eq_ok hrest
  unfold StorageConfig.validate at hvalidate
  by_cases hlimit : config.limit = 0
  · rw [if_pos hlimit] at hvalidate
    cases hvalidate
  · rw [if_neg hlimit] at hvalidate
    obtain ⟨_, hcheckIndex, hcheckType⟩ := exists_of_bind_eq_ok hvalidate
    cases htarget
    exact ⟨hcheckIndex, hcheckType, hindex, htype⟩

theorem isNamed_iff (h : ofConfig config connector = .ok t) :
    t.IsNamed ↔ SuppliesTarget config connector.config := by
  obtain ⟨hcheckIndex, hcheckType, hindex, htype⟩ := chosen_of_ofConfig h
  have hindexNamed := Selection.named_chosen_iff hcheckIndex hindex
  have htypeNamed := Selection.named_chosen_iff hcheckType htype
  constructor
  · intro hnamed
    exact ⟨hindexNamed.mp hnamed.index, htypeNamed.mp hnamed.docType⟩
  · intro hsupplied
    exact ⟨hindexNamed.mpr hsupplied.index, htypeNamed.mpr hsupplied.docType⟩

theorem isNamed_iff_key (hread : ReadsSelections config connector.config) (h : ofConfig config connector = .ok t)
    (identifier : String) : t.IsNamed ↔ (t.key identifier).index ≠ "" ∧ (t.key identifier).docType ≠ "" := by
  obtain ⟨-, -, hindex, htype⟩ := chosen_of_ofConfig h
  have hindexRead := Selection.read_chosen hread.index hread.sharedIndex hindex
  have htypeRead := Selection.read_chosen hread.docType hread.sharedType htype
  have hindexText := not_congr (Selection.render_eq_empty_iff hindexRead.ne_empty)
  have htypeText := not_congr (Selection.render_eq_empty_iff htypeRead.ne_empty)
  rw [Bool.not_eq_true] at hindexText htypeText
  constructor
  · intro hnamed
    exact ⟨hindexText.mpr hnamed.index, htypeText.mpr hnamed.docType⟩
  · rintro ⟨hindexNe, htypeNe⟩
    exact ⟨hindexText.mp hindexNe, htypeText.mp htypeNe⟩

end Target

/-! ### Requests for documents -/

/-- The call is a request for the document with the key, whose identifier can be seen. -/
structure Call.IsFor (call : Call) (key : DocumentKey) : Prop where
  method : call.method ∈ [.get, .index, .delete]
  addresses : Addresses key call.params
  visible : Text.isBlank key.identifier = false

/-- The request of the call has an index and a type in front of the identifier in its path, and none of the three is
empty. -/
def Call.AddressesDocument (call : Call) : Prop :=
  ∃ request i t d, Http.Request.ofCall call = .ok request ∧ Text.split '/' request.path = ["", i, t, d] ∧
    i ≠ "" ∧ t ≠ "" ∧ d ≠ ""

namespace Http.Parts

theorem segment_ofFields_empty {key : String} (hkey : key ∈ pathKeys) {fields : Fields}
    (htext : textOf? key fields = some "") : (ofFields fields).segment key = none := by
  rw [segment, get?_target_ofFields hkey, show (Assoc.get? key fields).bind parameterText = _ from htext]
  rfl

theorem step_ofFields {key : String} (hkey : key ∈ pathKeys) {fields : Fields} {text : String}
    (htext : textOf? key fields = some text) :
    (ofFields fields).step key = if text = "" then "" else "/" ++ Text.segment text := by
  unfold step
  by_cases hempty : text = ""
  · rw [hempty] at htext
    rw [segment_ofFields_empty hkey htext, if_pos hempty]
  · rw [segment_ofFields hkey htext hempty, if_neg hempty]

theorem split_flatMap_segment {texts : List String} :
    Text.splitChars '/' (texts.flatMap fun text => '/' :: (Text.segment text).toList) =
      [] :: texts.map fun text => (Text.segment text).toList := by
  have hjoined : (texts.flatMap fun text => '/' :: (Text.segment text).toList) =
      ['/'].intercalate ([] :: texts.map fun text => (Text.segment text).toList) := by
    induction texts with
    | nil => rfl
    | cons text rest ih =>
      rw [List.flatMap_cons, ih, List.map_cons, List.intercalate_cons_cons]
      cases rest with
      | nil => simp
      | cons next rest => simp [List.intercalate_cons_cons]
  rw [hjoined]
  apply Text.splitChars_intercalate (List.cons_ne_nil _ _)
  intro field hfield
  obtain rfl | hsegment := List.mem_cons.mp hfield
  · exact List.not_mem_nil
  · obtain ⟨text, -, rfl⟩ := List.mem_map.mp hsegment
    exact Text.slash_not_mem_segment text

/-- The path of a document has a segment for each text of its key that is not empty. -/
theorem split_pathOfDocument {key : DocumentKey} {fields : Fields} (h : Addresses key (.object fields))
    (hid : key.identifier ≠ "") : ∃ path, (ofFields fields).pathOfDocument = .ok path ∧
      Text.split '/' path =
        "" :: ([key.index, key.docType, key.identifier].filter (· ≠ "")).map Text.segment := by
  have htext : ∀ {name text : String}, (Json.object fields).get? name = some (.string text) →
      textOf? name fields = some text := by
    intro name text hname
    rw [textOf?, show Assoc.get? name fields = _ from hname]
    rfl
  have hindex := step_ofFields (show "index" ∈ pathKeys by decide) (htext h.index)
  have hdocType := step_ofFields (show "type" ∈ pathKeys by decide) (htext h.docType)
  have hidentifier := segment_ofFields (show "id" ∈ pathKeys by decide) (htext h.identifier) hid
  have hchars : ((ofFields fields).path ("/" ++ Text.segment key.identifier)).toList =
      ([key.index, key.docType, key.identifier].filter (· ≠ "")).flatMap fun text =>
        '/' :: (Text.segment text).toList := by
    unfold path
    rw [hindex, hdocType]
    by_cases hi : key.index = ""
    all_goals by_cases ht : key.docType = ""
    all_goals simp [hi, ht, hid]
  refine ⟨_, by rw [pathOfDocument, hidentifier], ?_⟩
  rw [Text.split, hchars, split_flatMap_segment]
  simp [Function.comp_def]

end Http.Parts

/-- A request for a document has index and type in front of the identifier exactly if both have names. -/
theorem Call.IsFor.addressesDocument_iff {call : Call} {key : DocumentKey} (h : call.IsFor key) :
    call.AddressesDocument ↔ key.index ≠ "" ∧ key.docType ≠ "" := by
  obtain ⟨method, params⟩ := call
  obtain ⟨hmethod, haddresses, hvisible⟩ := h
  have hid : key.identifier ≠ "" := Http.ne_empty_of_not_isBlank hvisible
  cases params with
  | null | bool _ | number _ | string _ | array _ => cases haddresses.index
  | object fields =>
    obtain ⟨path, hpath, hsplit⟩ := Http.Parts.split_pathOfDocument haddresses hid
    obtain ⟨request, hrequest, hrequestPath⟩ : ∃ request,
        Http.Request.ofCall ⟨method, .object fields⟩ = .ok request ∧ request.path = path := by
      simp only [List.mem_cons, List.not_mem_nil, or_false] at hmethod
      obtain rfl | rfl | rfl := hmethod
      all_goals exact ⟨_, by rw [Http.Request.ofCall, Http.Parts.ofParams, hpath]; rfl, rfl⟩
    have hsegment : ∀ {text : String}, text ≠ "" → Text.segment text ≠ "" := fun hne =>
      mt Text.segment_eq_empty_iff.mp hne
    constructor
    · rintro ⟨other, i, t, d, hother, hfields, -⟩
      rw [hrequest] at hother
      obtain rfl : request = other := Except.ok.inj hother
      rw [hrequestPath, hsplit] at hfields
      -- Three segments behind the first slash: no text of the key was left out.
      have hlength : ([key.index, key.docType, key.identifier].filter (· ≠ "")).length =
          [key.index, key.docType, key.identifier].length := by
        simpa using congrArg List.length hfields
      have hall := List.length_filter_eq_length_iff.mp hlength
      exact ⟨of_decide_eq_true (hall key.index (by simp)), of_decide_eq_true (hall key.docType (by simp))⟩
    · rintro ⟨hi, ht⟩
      have hkept : [key.index, key.docType, key.identifier].filter (· ≠ "") =
          [key.index, key.docType, key.identifier] := by
        simp [hi, ht, hid]
      refine ⟨request, _, _, _, hrequest, ?_, hsegment hi, hsegment ht, hsegment hid⟩
      rw [hrequestPath, hsplit, hkept]
      rfl

/-! ### Requests of readers and writers -/

section
variable {engine : Engine σ} {state : σ} {call : Call}

theorem Reader.isFor_of_mem_read (r : Reader ι) {identifier : String}
    (h : call ∈ ((r.read identifier).execute engine state).calls) : call.IsFor (r.target.key identifier) := by
  obtain ⟨hid, rfl⟩ := (r.asksIf_read identifier).of_mem_calls h
  exact ⟨by simp, r.addresses_getRequest identifier, hid⟩

theorem Writer.isFor_of_mem_write (w : Writer) {d : Document} (h : call ∈ ((w.write d).execute engine state).calls) :
    call.IsFor (w.target.key d.identifier) := by
  by_cases hd : d.isStorable = true
  · obtain ⟨hid, body, hbody⟩ := Document.isStorable_iff.mp hd
    obtain rfl := (w.asks_write hid hbody).eq_of_mem_calls h
    exact ⟨by simp, w.addresses_indexRequest d.identifier body, hid⟩
  · obtain ⟨e, hsettles⟩ := w.settles_write (Bool.not_eq_true _ ▸ hd)
    rw [hsettles.calls_eq_nil] at h
    cases h

theorem Writer.isFor_of_mem_delete (w : Writer) {identifier : String}
    (h : call ∈ ((w.delete identifier).execute engine state).calls) : call.IsFor (w.target.key identifier) := by
  cases hid : Text.isBlank identifier with
  | true =>
    rw [(w.settles_delete hid).calls_eq_nil] at h
    cases h
  | false =>
    rw [Action.calls_eq_map_replies] at h
    obtain ⟨entry, hentry, rfl⟩ := List.mem_map.mp h
    obtain ⟨-, rfl | ⟨answer, -, rfl⟩⟩ := w.mem_replies_delete hid hentry
    · exact ⟨by simp [lookup], w.addresses_lookupRequest identifier, hid⟩
    · exact ⟨by simp [removal], w.addresses_deleteRequest identifier, hid⟩

end

/-- What holds of a writer exactly if its target is named: index and type have names, the keys of its documents have
texts for them, and every request for a document has both in front of the identifier. -/
structure Writer.NamesTargetIff (w : Writer) (named : Prop) : Prop where
  target : w.target.IsNamed ↔ named
  key : ∀ identifier, ((w.target.key identifier).index ≠ "" ∧ (w.target.key identifier).docType ≠ "" ↔ named)
  write : ∀ (σ : Type) (engine : Engine σ) (state : σ) (d : Document),
    ∀ call ∈ ((w.write d).execute engine state).calls, (call.AddressesDocument ↔ named)
  delete : ∀ (σ : Type) (engine : Engine σ) (state : σ) (identifier : String),
    ∀ call ∈ ((w.delete identifier).execute engine state).calls, (call.AddressesDocument ↔ named)

/-- The same of a reader. -/
structure Reader.NamesTargetIff (r : Reader ι) (named : Prop) : Prop where
  target : r.target.IsNamed ↔ named
  read : ∀ (σ : Type) (engine : Engine σ) (state : σ) (identifier : String),
    ∀ call ∈ ((r.read identifier).execute engine state).calls, (call.AddressesDocument ↔ named)

section
variable {config : StorageConfig} {connector : Connector} (hread : ReadsSelections config connector.config)
include hread

theorem Writer.namesTargetIff {w : Writer} (h : Writer.create connector config = .ok w) :
    w.NamesTargetIff (SuppliesTarget config connector.config) := by
  obtain ⟨t, htarget, hw⟩ := exists_of_bind_eq_ok h
  cases hw
  have hkey := fun identifier =>
    (Target.isNamed_iff_key hread htarget identifier).symm.trans (Target.isNamed_iff htarget)
  exact
    { target := Target.isNamed_iff htarget
      key := hkey
      write := fun σ engine state d call hcall =>
        (Writer.isFor_of_mem_write _ hcall).addressesDocument_iff.trans (hkey d.identifier)
      delete := fun σ engine state identifier call hcall =>
        (Writer.isFor_of_mem_delete _ hcall).addressesDocument_iff.trans (hkey identifier) }

theorem Reader.namesTargetIff {mapper : Mapper ι} {r : Reader ι} (h : Reader.create connector config mapper = .ok r) :
    r.NamesTargetIff (SuppliesTarget config connector.config) := by
  obtain ⟨t, htarget, hr⟩ := exists_of_bind_eq_ok h
  cases hr
  exact
    { target := Target.isNamed_iff htarget
      read := fun σ engine state identifier call hcall =>
        (Reader.isFor_of_mem_read _ hcall).addressesDocument_iff.trans
          ((Target.isNamed_iff_key hread htarget identifier).symm.trans (Target.isNamed_iff htarget)) }

end

/-- **When storage has a target.** Of a writer and a reader whose configurations have selections that are read from
texts or lists: index and type of the target name something, and every request for a document has both in front of
the identifier, exactly if at each of them the storage gives a selection or the one of the connector names
something. -/
theorem target_named_iff {config : StorageConfig} {connector : Connector}
    (hread : ReadsSelections config connector.config) :
    (∀ w, Writer.create connector config = .ok w → w.NamesTargetIff (SuppliesTarget config connector.config)) ∧
      ∀ (mapper : Mapper ι) (r : Reader ι), Reader.create connector config mapper = .ok r →
        r.NamesTargetIff (SuppliesTarget config connector.config) := by
  constructor
  · intro w hw
    exact Writer.namesTargetIff hread hw
  · intro mapper r hr
    exact Reader.namesTargetIff hread hr

/-- The storage gives the index and the connector the type. The blank index of the connector does not matter. -/
theorem target_named_library :
    let connector : Connector :=
      { config := { index := some (Selection.parse " , "), docType := some (Selection.parse "book") } }
    let config : StorageConfig := { index := some (Selection.parse "library") }
    let w : Writer := { connector, config, target := ⟨⟨["library"]⟩, ⟨["book"]⟩⟩ }
    let call : Call := ⟨.index, w.indexRequest "dune" .empty⟩
    ReadsSelections config connector.config ∧ Writer.create connector config = .ok w ∧
      SuppliesTarget config connector.config ∧
      ((w.write ⟨"dune", .ok .empty⟩).execute Script.engine {}).calls = [call] ∧ call.AddressesDocument := by
  intro connector config w call
  have hread : ReadsSelections config connector.config :=
    { index := fun s hs => ⟨.string "library", congrArg Except.ok (Option.some.inj hs)⟩
      docType := nofun
      sharedIndex := fun s hs => ⟨.string " , ", congrArg Except.ok (Option.some.inj hs)⟩
      sharedType := fun s hs => ⟨.string "book", congrArg Except.ok (Option.some.inj hs)⟩ }
  have hcreate : Writer.create connector config = .ok w := by decide +kernel
  have hsupplied : SuppliesTarget config connector.config := ⟨.inl rfl, .inr ⟨_, rfl, by decide +kernel⟩⟩
  have hcalls : ((w.write ⟨"dune", .ok .empty⟩).execute Script.engine {}).calls = [call] := rfl
  obtain ⟨hwriter, -⟩ := target_named_iff (ι := Json) hread
  have hwrite := (hwriter w hcreate).write Script Script.engine {} ⟨"dune", .ok .empty⟩ call (by simp [hcalls])
  exact ⟨hread, hcreate, hsupplied, hcalls, hwrite.mpr hsupplied⟩

/-- A blank index of the connector is taken for one that is given: the writer is made, its index names nothing, and
the document goes to the path of a type and a document as if these were an index and a type. -/
theorem target_unnamed_blank :
    let connector : Connector :=
      { config := { index := some (Selection.parse " , "), docType := some (Selection.parse "book") } }
    let w : Writer := { connector, config := {}, target := ⟨⟨[]⟩, ⟨["book"]⟩⟩ }
    let call : Call := ⟨.index, w.indexRequest "dune" .empty⟩
    ReadsSelections {} connector.config ∧ Writer.create connector {} = .ok w ∧ ¬ w.target.IsNamed ∧
      ((w.write ⟨"dune", .ok .empty⟩).execute Script.engine {}).calls = [call] ∧
      (Http.Request.ofCall call).map Http.Request.path = .ok "/book/dune" ∧ ¬ call.AddressesDocument := by
  intro connector w call
  have hread : ReadsSelections {} connector.config :=
    { index := nofun
      docType := nofun
      sharedIndex := fun s hs => ⟨.string " , ", congrArg Except.ok (Option.some.inj hs)⟩
      sharedType := fun s hs => ⟨.string "book", congrArg Except.ok (Option.some.inj hs)⟩ }
  have hcreate : Writer.create connector {} = .ok w := by decide +kernel
  have hcalls : ((w.write ⟨"dune", .ok .empty⟩).execute Script.engine {}).calls = [call] := rfl
  have hunnamed : ¬ w.target.IsNamed := fun h => absurd h.index (by decide)
  have hfor : call.IsFor (w.target.key "dune") :=
    ⟨by simp [call], w.addresses_indexRequest "dune" .empty, by decide⟩
  refine ⟨hread, hcreate, hunnamed, hcalls, by decide +kernel, ?_⟩
  intro haddresses
  exact (hfor.addressesDocument_iff.mp haddresses).1 rfl

end SearchStore
