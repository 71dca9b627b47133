import Mathlib.Data.List.Forall2
import SearchStore.Finder
import SearchStore.Http.Request
import SearchStore.Proofs.Engine.Action
import SearchStore.Proofs.Engine.Calls
import SearchStore.Proofs.Storage.Address
import SearchStore.Proofs.Text.Percent

/-!
# What becomes of parameters

The parameters of a call are taken apart without loss: the body is sent as it is, parameters of the path are
escaped so that they can be read off the path (`Parts.split_segments`), and every other one is in the query
string, in order, unless it is `null` (`Parts.forall₂_query_ofFields`).

A request for a document can be built whenever its identifier is not empty (`isRequestable_of_identifier`). This
is so for every request of finders, readers and writers for one document.
-/

namespace SearchStore.Http

namespace Parts

theorem body_ofFields (fields : Fields) : (ofFields fields).body = Assoc.get? "body" fields := by
  induction fields with
  | nil => rfl
  | cons entry rest ih =>
    obtain ⟨key, value⟩ := entry
    rw [ofFields, add, Assoc.get?]
    split
    · rfl
    · rw [← ih]
      split
      · rfl
      · split <;> rfl

theorem get?_target_ofFields {key : String} (hkey : key ∈ pathKeys) (fields : Fields) :
    Assoc.get? key (ofFields fields).target = Assoc.get? key fields := by
  induction fields with
  | nil => rfl
  | cons entry rest ih =>
    obtain ⟨k, value⟩ := entry
    rw [ofFields, add, Assoc.get?, ← ih]
    by_cases hbody : k = "body"
    · have hne : k ≠ key := by
        rintro rfl
        simp [pathKeys, hbody] at hkey
      rw [if_pos hbody, if_neg hne]
    · rw [if_neg hbody]
      by_cases hk : k ∈ pathKeys
      · rw [if_pos (List.contains_iff_mem.mpr hk), Assoc.get?]
      · have hne : k ≠ key := fun heq => hk (heq ▸ hkey)
        rw [if_neg (by simpa using hk), if_neg hne]
        split <;> rfl

/-- Whether an entry goes into the query string. -/
def IsQueryEntry (entry : String × Json) : Prop :=
  entry.1 ∉ "body" :: pathKeys ∧ entry.2 ≠ .null

instance : DecidablePred IsQueryEntry := fun _ => inferInstanceAs (Decidable (_ ∧ _))

theorem parameterText_eq_none_iff {value : Json} : parameterText value = none ↔ value = .null := by
  cases value <;> simp [parameterText]

/-- The query string has one pair for each entry that goes into it, in order. -/
theorem forall₂_query_ofFields (fields : Fields) :
    List.Forall₂ (fun entry pair => pair.1 = entry.1 ∧ parameterText entry.2 = some pair.2)
      (fields.filter IsQueryEntry) (ofFields fields).query := by
  induction fields with
  | nil => exact .nil
  | cons entry rest ih =>
    obtain ⟨key, value⟩ := entry
    rw [ofFields, add, List.filter_cons]
    by_cases hbody : key = "body"
    · simpa [hbody, IsQueryEntry] using ih
    · by_cases hkey : key ∈ pathKeys
      · simpa [hbody, hkey, IsQueryEntry] using ih
      · cases htext : parameterText value with
        | none => simpa [hbody, hkey, IsQueryEntry, parameterText_eq_none_iff.mp htext] using ih
        | some text =>
          have hentry : IsQueryEntry (key, value) :=
            ⟨by simp [hbody, hkey], by rintro rfl; simp [parameterText] at htext⟩
          have hcontains : pathKeys.contains key = false := by simpa using hkey
          rw [if_pos (decide_eq_true hentry), if_neg hbody, hcontains]
          exact .cons ⟨rfl, htext⟩ ih

/-! ### Paths of documents -/

/-- The text of a parameter, none if it is missing or `null`. -/
def textOf? (key : String) (fields : Fields) : Option String :=
  (Assoc.get? key fields).bind parameterText

theorem segment_ofFields {key : String} (hkey : key ∈ pathKeys) {fields : Fields} {text : String}
    (htext : textOf? key fields = some text) (hne : text ≠ "") :
    (ofFields fields).segment key = some (Text.segment text) := by
  rw [segment, get?_target_ofFields hkey, show (Assoc.get? key fields).bind parameterText = _ from htext]
  simp [Option.filter, hne]

/-- Parameters that name a document: index, type and identifier have texts, and none of them is empty. -/
structure NamesDocument (fields : Fields) (index docType identifier : String) : Prop where
  textOf_index : textOf? "index" fields = some index
  textOf_type : textOf? "type" fields = some docType
  textOf_id : textOf? "id" fields = some identifier
  index_ne : index ≠ ""
  docType_ne : docType ≠ ""
  identifier_ne : identifier ≠ ""

variable {fields : Fields} {index docType identifier : String}

theorem NamesDocument.pathOfDocument (h : NamesDocument fields index docType identifier) :
    (ofFields fields).pathOfDocument =
      .ok ("/" ++ Text.segment index ++ ("/" ++ Text.segment docType) ++ ("/" ++ Text.segment identifier)) := by
  have hindex := segment_ofFields (show "index" ∈ pathKeys by decide) h.textOf_index h.index_ne
  have hdocType := segment_ofFields (show "type" ∈ pathKeys by decide) h.textOf_type h.docType_ne
  have hidentifier := segment_ofFields (show "id" ∈ pathKeys by decide) h.textOf_id h.identifier_ne
  rw [Parts.pathOfDocument, hidentifier]
  simp [path, step, hindex, hdocType]

theorem split_segments (index docType identifier : String) :
    Text.split '/'
      ("/" ++ Text.segment index ++ ("/" ++ Text.segment docType) ++ ("/" ++ Text.segment identifier)) =
      ["", Text.segment index, Text.segment docType, Text.segment identifier] := by
  have hslash (s : String) : ("/" ++ s).toList = '/' :: s.toList := by simp
  have hpath : ("/" ++ Text.segment index ++ ("/" ++ Text.segment docType) ++
      ("/" ++ Text.segment identifier)).toList =
      [] ++ '/' :: ((Text.segment index).toList ++ '/' :: ((Text.segment docType).toList ++
        '/' :: (Text.segment identifier).toList)) := by
    simp
  rw [Text.split, hpath, Text.splitChars_append_cons, Text.splitChars_append_cons, Text.splitChars_append_cons,
    Text.splitChars_of_not_mem (Text.slash_not_mem_segment index),
    Text.splitChars_of_not_mem (Text.slash_not_mem_segment docType),
    Text.splitChars_of_not_mem (Text.slash_not_mem_segment identifier)]
  simp [Text.splitChars]

end Parts

/-! ### Requests for documents -/

/-- The call can be made: a request for it can be built. -/
def IsRequestable (call : Call) : Prop := ∃ request, Request.ofCall call = .ok request

theorem isRequestable_of_identifier {method : Method} (hmethod : method ∈ [.get, .index, .delete])
    {params : Json} {identifier : String} (hid : params.get? "id" = some (.string identifier))
    (hne : identifier ≠ "") : IsRequestable ⟨method, params⟩ := by
  cases params with
  | object fields =>
    have hsegment : (Parts.ofParams (.object fields)).segment "id" = some (Text.segment identifier) :=
      Parts.segment_ofFields (show "id" ∈ Parts.pathKeys by decide)
        (by rw [Parts.textOf?, show Assoc.get? "id" fields = _ from hid]; rfl) hne
    have hpath : ∃ path, (Parts.ofParams (.object fields)).pathOfDocument = .ok path :=
      ⟨_, by rw [Parts.pathOfDocument, hsegment]⟩
    obtain ⟨path, hpath⟩ := hpath
    simp only [List.mem_cons, List.not_mem_nil, or_false] at hmethod
    obtain rfl | rfl | rfl := hmethod <;> exact ⟨_, by rw [Request.ofCall, hpath]; rfl⟩
  | null | bool _ | number _ | string _ | array _ => cases hid

theorem ne_empty_of_not_isBlank {s : String} (h : Text.isBlank s = false) : s ≠ "" := by
  rintro rfl
  cases h

end SearchStore.Http

namespace SearchStore

open Http (IsRequestable isRequestable_of_identifier ne_empty_of_not_isBlank)

theorem Addresses.isRequestable {key : DocumentKey} {params : Json} (h : Addresses key params)
    (hid : Text.isBlank key.identifier = false) {method : Method} (hmethod : method ∈ [.get, .index, .delete]) :
    IsRequestable ⟨method, params⟩ :=
  isRequestable_of_identifier hmethod h.identifier (ne_empty_of_not_isBlank hid)

theorem isBlank_of_checkText {name text : String} {value : Unit} (h : checkText name text = .ok value) :
    Text.isBlank text = false := by
  cases hblank : Text.isBlank text with
  | false => rfl
  | true => simp [checkText, hblank, invalidArgument] at h

variable {ι : Type}

theorem Reader.makes_read (r : Reader ι) (identifier : String) :
    Action.Makes IsRequestable (r.read identifier) := by
  refine .lift_bind fun _ hid => Action.makes_connect.bind fun _ => ?_
  refine (Action.makes_ask ((r.addresses_getRequest identifier).isRequestable (isBlank_of_checkText hid)
    (by simp))).bind fun reply => ?_
  split
  · split
    · exact Action.makes_pure _
    · exact .lift_bind fun _ _ => Action.makes_pure _
  · exact (Action.makes_report _).bind fun _ => Action.makes_pure _
  · exact Action.makes_throw _

theorem Writer.makes_write (w : Writer) (d : Document) : Action.Makes IsRequestable (w.write d) := by
  refine .lift_bind fun _ hid => .lift_bind fun body _ => Action.makes_connect.bind fun _ => ?_
  refine (Action.makes_send ((w.addresses_indexRequest d.identifier body).isRequestable
    (isBlank_of_checkText hid) (by simp))).bind fun _ => ?_
  exact Action.makes_report _

theorem Writer.makes_delete (w : Writer) (identifier : String) :
    Action.Makes IsRequestable (w.delete identifier) := by
  rw [Writer.delete]
  split
  · exact Action.makes_report _
  · rename_i hid
    rw [Bool.not_eq_true] at hid
    refine Action.makes_connect.bind fun _ => ?_
    refine (Action.makes_ask ((w.addresses_lookupRequest identifier).isRequestable hid (by simp))).bind
      fun reply => ?_
    split
    · exact Action.makes_report _
    · exact Action.makes_throw _
    · refine (Action.makes_ask ((w.addresses_deleteRequest identifier).isRequestable hid (by simp))).bind
        fun reply => ?_
      split
      · exact Action.makes_report _
      · exact Action.makes_report _
      · exact Action.makes_throw _

theorem Finder.id_getRequest (f : Finder ι) (identifier : String) :
    (f.getRequest identifier).get? "id" = some (.string identifier) := by
  have hrequest := f.config.parameters.layers_layer "get" [f.target ++ [("id", .string identifier)]]
  have hkeys : (Assoc.keys (f.target ++ [("id", .string identifier)])).Nodup := by
    rw [show Assoc.keys (f.target ++ [("id", .string identifier)]) = ["index", "type", "id"] from rfl]
    decide
  rw [show f.getRequest identifier = _ from hrequest]
  exact Json.get?_mergeFields_atom (Json.isAtom_string _) _ hkeys rfl

theorem Finder.makes_items {P : Call → Prop} (f : Finder ι) (answer : Json) : Action.Makes P (f.items answer) := by
  rw [Finder.items]
  split
  · exact (Action.makes_report _).bind fun _ => Action.makes_lift _
  · exact Action.makes_lift _

theorem Finder.makes_getByIdentifier (f : Finder ι) (identifier : String) :
    Action.Makes IsRequestable (f.getByIdentifier identifier) := by
  refine .lift_bind fun _ hid => .lift_bind fun _ _ => ?_
  have hrequest : IsRequestable ⟨.get, f.getRequest identifier⟩ :=
    isRequestable_of_identifier (by simp) (f.id_getRequest identifier)
      (ne_empty_of_not_isBlank (isBlank_of_checkText hid))
  split
  on_goal 1 => refine (Action.makes_report _).bind fun _ => ?_
  all_goals
    refine Action.makes_connect.bind fun _ => (Action.makes_ask hrequest).bind fun reply => ?_
    split
    · exact (f.makes_items _).bind fun _ => Action.makes_pure _
    · exact (Action.makes_report _).bind fun _ => Action.makes_pure _
    · exact Action.makes_throw _

/-! ### All parameters -/

open Http (Parts parameterText) in
/-- **Nothing is lost.** The body of an object of parameters is sent as it is, and each entry that is not of the
path and not `null` is one pair of the query string, in order. If index, type and identifier have texts that are
not empty, the path of the document has one segment for each of them, from which the text can be read, so that
different documents have different paths. And requests of finders, readers and writers for one document always
have an identifier. -/
theorem parameters_kept :
    (∀ fields : Fields,
      let parts := Parts.ofParams (.object fields)
      parts.body = Assoc.get? "body" fields ∧
      List.Forall₂ (fun entry pair => pair.1 = entry.1 ∧ parameterText entry.2 = some pair.2)
        (fields.filter Parts.IsQueryEntry) parts.query) ∧
    (∀ fields index docType identifier, Parts.NamesDocument fields index docType identifier →
      ∃ path i t d, (Parts.ofParams (.object fields)).pathOfDocument = .ok path ∧
        Text.split '/' path = ["", i, t, d] ∧ i ≠ "" ∧ t ≠ "" ∧ d ≠ "" ∧
        Text.percentDecode? i.toList = some index.toList ∧
        Text.percentDecode? t.toList = some docType.toList ∧
        Text.percentDecode? d.toList = some identifier.toList) ∧
    (∀ fields index docType identifier others index' docType' identifier',
      Parts.NamesDocument fields index docType identifier →
      Parts.NamesDocument others index' docType' identifier' →
      (Parts.ofParams (.object fields)).pathOfDocument = (Parts.ofParams (.object others)).pathOfDocument →
        index = index' ∧ docType = docType' ∧ identifier = identifier') ∧
    ∀ (σ ι : Type) (engine : Engine σ) (state : σ) (identifier : String),
      (∀ f : Finder ι, ∀ call ∈ ((f.getByIdentifier identifier).execute engine state).calls,
        IsRequestable call) ∧
      (∀ r : Reader ι, ∀ call ∈ ((r.read identifier).execute engine state).calls, IsRequestable call) ∧
      (∀ (w : Writer) body, ∀ call ∈ ((w.write ⟨identifier, body⟩).execute engine state).calls,
        IsRequestable call) ∧
      ∀ w : Writer, ∀ call ∈ ((w.delete identifier).execute engine state).calls, IsRequestable call := by
  refine ⟨fun fields => ⟨Parts.body_ofFields fields, Parts.forall₂_query_ofFields fields⟩, ?_, ?_, ?_⟩
  · intro fields index docType identifier h
    refine ⟨_, _, _, _, h.pathOfDocument, Parts.split_segments index docType identifier, ?_⟩
    exact ⟨mt Text.segment_eq_empty_iff.mp h.index_ne, mt Text.segment_eq_empty_iff.mp h.docType_ne,
      mt Text.segment_eq_empty_iff.mp h.identifier_ne, Text.percentDecode?_segment index,
      Text.percentDecode?_segment docType, Text.percentDecode?_segment identifier⟩
  · intro fields index docType identifier others index' docType' identifier' h h' hpaths
    rw [Parts.ofParams, Parts.ofParams, h.pathOfDocument, h'.pathOfDocument] at hpaths
    have hsegments := congrArg (Text.split '/') (Except.ok.inj hpaths)
    rw [Parts.split_segments, Parts.split_segments] at hsegments
    simpa [Text.segment_inj] using hsegments
  · intro σ ι engine state identifier
    exact ⟨fun f => (f.makes_getByIdentifier identifier).of_mem_calls engine state,
      fun r => (r.makes_read identifier).of_mem_calls engine state,
      fun w body => (w.makes_write ⟨identifier, body⟩).of_mem_calls engine state,
      fun w => (w.makes_delete identifier).of_mem_calls engine state⟩

/-- A document whose index is a list, and whose type and identifier have characters that are escaped. -/
theorem parameters_kept_escaped :
    let fields : Fields :=
      [("index", Json.strings ["a", "b"]), ("type", .string "über"), ("id", .string "50%/#1"),
        ("refresh", .bool true)]
    Http.Parts.NamesDocument fields "a,b" "über" "50%/#1" ∧
    ∃ path i t d, (Http.Parts.ofParams (.object fields)).pathOfDocument = .ok path ∧
      Text.split '/' path = ["", i, t, d] ∧ Text.percentDecode? d.toList = some "50%/#1".toList := by
  intro fields
  have hnames : Http.Parts.NamesDocument fields "a,b" "über" "50%/#1" :=
    { textOf_index := by decide +kernel
      textOf_type := by decide +kernel
      textOf_id := by decide +kernel
      index_ne := by decide
      docType_ne := by decide
      identifier_ne := by decide }
  obtain ⟨path, i, t, d, hpath, hsplit, -, -, -, -, -, hdecode⟩ := parameters_kept.2.1 fields _ _ _ hnames
  exact ⟨hnames, path, i, t, d, hpath, hsplit, hdecode⟩

end SearchStore
